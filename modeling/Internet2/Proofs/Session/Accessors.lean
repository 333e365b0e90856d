import Internet2.Session.Codec

/-! The accessor table against the functions built on it: `with_port`, `LocalAddr` and `{:#}`. -/

namespace Internet2

namespace NodeLocator

variable {Key : Type}

/-- Whether two locators are of the same variant. -/
def SameVariant : NodeLocator Key → NodeLocator Key → Prop
  | native .., native .. | udp .., udp .. | posix .., posix .. | zmqIpc .., zmqIpc ..
  | zmqInproc .., zmqInproc .. | zmqTcpEncrypted .., zmqTcpEncrypted ..
  | zmqTcpUnencrypted .., zmqTcpUnencrypted .. | http .., http .. | websocket .., websocket ..
  | text .., text .. => True
  | _, _ => False

/-- The variants `with_port` changes are exactly those with a network address. -/
theorem withPort_of_inetAddr_none {l : NodeLocator Key} (noAddr : l.inetAddr = none) (port : UInt16) :
    l.withPort port = l := by
  cases l <;> simp [withPort, inetAddr, components] at noAddr ⊢

/--
`with_port` sets the port of exactly the locators that have a network address, keeps
their variant and every other component, and leaves all others as they are; so the last
port set wins.
-/
theorem withPort_frame (l : NodeLocator Key) (p q : UInt16) :
    (l.inetAddr.isSome → SameVariant (l.withPort p) l ∧ (l.withPort p).port = some p ∧
      (l.withPort p).nodeId = l.nodeId ∧ (l.withPort p).inetAddr = l.inetAddr ∧
      (l.withPort p).socketName = l.socketName ∧ (l.withPort p).apiType = l.apiType ∧
      (l.withPort p).urlScheme = l.urlScheme) ∧
    (l.inetAddr = none → l.withPort p = l) ∧
    (l.withPort p).withPort q = l.withPort q := by
  -- One case per variant: the six with an address have a port slot, the four others do not.
  refine ⟨fun hasAddr => ?_, fun noAddr => withPort_of_inetAddr_none noAddr p, ?_⟩
  · cases l <;> simp [SameVariant, withPort, port, nodeId, inetAddr, socketName, apiType,
      urlScheme, components] at hasAddr ⊢
  · cases l <;> rfl

/--
`LocalAddr::try_from` succeeds exactly on locators with no node id whose network address,
if any, comes with a port; it carries the socket name over into the local address of the
locator's own kind (a POSIX, ZMQ IPC or ZMQ in-process socket), or the address and port into a
ZMQ TCP socket; and it fails with `UnsupportedForLocalAddr` on every other locator.
-/
theorem localAddr_tryFrom_iff (l : NodeLocator Key) :
    ((∃ addr, LocalAddr.tryFrom l = .ok addr) ↔
      l.nodeId = none ∧ (l.inetAddr = none ∨ l.port.isSome)) ∧
    (∀ addr, LocalAddr.tryFrom l = .ok addr →
      (∃ name, l.socketName = some name ∧
        (l = posix name ∧ addr = .posix name ∨ (∃ api, l = zmqIpc name api) ∧ addr = .zmq (.ipc name) ∨
          (∃ api, l = zmqInproc name api) ∧ addr = .zmq (.inproc name))) ∨
      (∃ ip p, addr = .zmq (.tcp ⟨ip, p⟩) ∧ l.inetAddr = some (InetAddr.ofIpAddr ip) ∧
        l.port = some p ∧ ∃ api, l = zmqTcpUnencrypted api ip (some p))) ∧
    (¬ (l.nodeId = none ∧ (l.inetAddr = none ∨ l.port.isSome)) →
      LocalAddr.tryFrom l = .error .unsupportedForLocalAddr) := by
  -- The conversion's arms are the variants without a node id, TCP ones only with a port.
  cases l with
  | zmqTcpUnencrypted api ip port =>
    cases port <;> simp [LocalAddr.tryFrom, nodeId, inetAddr, port, socketName, components]
    exact ⟨ip, _, ⟨rfl, rfl⟩, rfl, rfl, rfl, rfl⟩
  | _ => simp [LocalAddr.tryFrom, nodeId, inetAddr, port, socketName, components]

/-- The alternate format panics exactly on text locators, which have no address and no socket. -/
theorem fmt_alternate_eq_none [PublicKeyText Key] [OnionText] (l : NodeLocator Key) :
    l.fmt true = none ↔ ∃ key, l = text key := by
  -- Every other variant has a network address or a socket name for the `expect` to find.
  cases l <;> simp [fmt, inetAddr, socketName, components, Option.bind]

/-- A text locator has neither a network address nor a socket name, so `{:#}` panics on it. -/
theorem fmt_alternate_text_panics :
    (text HexKey.test).inetAddr = none ∧ (text HexKey.test).socketName = none ∧
      (text HexKey.test).fmt true = none :=
  ⟨rfl, rfl, rfl⟩

end NodeLocator

end Internet2
