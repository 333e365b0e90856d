import Internet2.Proofs.Session.Parsing

/-!
Arms of the URL reader read on their own. Each arm builds a locator of its own scheme, so the
scheme prefix of a string decides the scheme of the locator read, and a bare string is read as a
native locator. The UDP arm reports a host that is no IP address as an invalid host, never as a
bad IP address; the text arm refuses a key in the username and reads the key from the host; the
ZMQ arm reports a username that names no key as a bad IP address; and a string names a local
address only through a ZMQ arm.
-/

namespace Internet2

namespace NodeLocator

variable {Key : Type}

/-! ## Dispatch by scheme -/

/-- A bind that succeeds ran its first computation and then the continuation to success. -/
theorem bind_ok {ε α β : Type} {x : Except ε α} {f : α → Except ε β} {b : β}
    (done : x >>= f = .ok b) : ∃ a, x = .ok a ∧ f a = .ok b := by
  cases x with
  | error => cases done
  | ok a => exact ⟨a, rfl, done⟩

/-- Each arm of the reader builds a locator of its own scheme: `try_from` and `url_scheme` agree. -/
theorem tryFrom_urlScheme [PublicKeyText Key] [OnionText] {url : Url} {v : NodeLocator Key} (read : tryFrom url = .ok v) :
    v.urlScheme = url.scheme := by
  -- Each arm builds a variant of its own scheme, or fails.
  unfold tryFrom tryFromWith at read
  simp only [Features.all, ↓reduceIte] at read
  split at read
  case h_5 lnpz =>
    obtain ⟨api, -, zmq⟩ := bind_ok read
    rcases zmqLocator_cases zmq with ⟨_, _, -, -, rfl⟩ | ⟨_, -, -, rfl⟩ | ⟨-, -, -, rfl⟩ <;> exact lnpz.symm
  case h_6 lnpt =>
    split at read
    · cases read
    · cases read
    · simp only [Except.map] at read
      split at read
      · cases read
      · cases read
        exact lnpt.symm
    · cases read
  case h_7 => cases read
  all_goals
    obtain ⟨key, -, read⟩ := bind_ok read
    obtain ⟨addr, -, read⟩ := bind_ok read
    cases read
    exact (‹url.scheme = _›).symm

/--
The scheme prefix a string starts with is the scheme prefix of the locator read from it, and a
string with none of the six is read as a native locator.
-/
theorem fromStr_urlScheme [PublicKeyText Key] [OnionText] {s : String} {v : NodeLocator Key} (read : fromStr s = .ok v) :
    (∀ p ∈ schemePrefixes, p.toList.isPrefixOf s.toList = true → v.urlScheme ++ ":" = p) ∧
      (schemePrefixes.any (fun p => p.toList.isPrefixOf s.toList) = false →
        ∃ key inet port, v = native key inet port) := by
  obtain ⟨url, parsed, readUrl⟩ := fromStr_ok read
  have scheme := tryFrom_urlScheme readUrl
  refine ⟨fun p member isPrefix => ?_, fun bare => ?_⟩
  · -- The string is its own normal form, and the parser reads the prefix's scheme.
    rw [normalize, if_pos (List.any_eq_true.mpr ⟨p, member, isPrefix⟩)] at parsed
    obtain ⟨rest, whole⟩ := List.isPrefixOf_iff_prefix.mp isPrefix
    rw [schemePrefixes_eq, List.mem_map] at member
    obtain ⟨name, known, rfl⟩ := member
    rw [scheme, @Url.parse_scheme_eq _ _ rest _ (locatorScheme_plain name known)
      (by simpa [String.toList] using whole.symm) parsed]
  · -- A bare string is read after `lnp://`, by the native arm.
    rw [normalize, if_neg (Bool.eq_false_iff.mp bare)] at parsed
    have lnp := scheme.trans (@Url.parse_scheme_eq _ _ ('/' :: '/' :: s.data) _
      (locatorScheme_plain "lnp" (by decide)) (by simp) parsed)
    obtain ⟨-, notPosix, -⟩ := tryFrom_readBack readUrl
    cases v with
    | native key inet port => exact ⟨key, inet, port, rfl⟩
    | posix path => exact absurd rfl (notPosix path)
    | _ => simp [urlScheme] at lnp

set_option maxRecDepth 2000 in
/-- A bare node address is read as a native locator. -/
theorem fromStr_urlScheme_bare :
    (fromStr "022e58afe51f9ed8ad3cc7897f634d881fdbe49a81564629ded8156bebd2ffd1af@127.0.0.1" :
        Except ParseError (NodeLocator HexKey)) = .ok (native HexKey.test (.ipv4 ⟨127, 0, 0, 1⟩) none) ∧
      schemePrefixes.any (fun p => p.toList.isPrefixOf
        "022e58afe51f9ed8ad3cc7897f634d881fdbe49a81564629ded8156bebd2ffd1af@127.0.0.1".toList) = false ∧
      ∃ key inet port, (native HexKey.test (.ipv4 ⟨127, 0, 0, 1⟩) none : NodeLocator HexKey) = native key inet port :=
  have read : (fromStr "022e58afe51f9ed8ad3cc7897f634d881fdbe49a81564629ded8156bebd2ffd1af@127.0.0.1" :
      Except ParseError (NodeLocator HexKey)) = .ok (native HexKey.test (.ipv4 ⟨127, 0, 0, 1⟩) none) := by
    rfl
  have bare : schemePrefixes.any (fun p => p.toList.isPrefixOf
      "022e58afe51f9ed8ad3cc7897f634d881fdbe49a81564629ded8156bebd2ffd1af@127.0.0.1".toList) = false := by
    decide
  ⟨read, bare, (fromStr_urlScheme read).2 bare⟩

/-! ## The UDP arm -/

/--
The UDP arm never raises `InvalidIp`: it reads the key first and then the host as an IP address,
and a host that is no IP address fails with `InvalidHost`, carrying the host.
-/
theorem tryFrom_udp_error [PublicKeyText Key] [OnionText] {url : Url} (udp : url.scheme = "lnpu") :
    (tryFrom url : Except ParseError (NodeLocator Key)) ≠ .error .invalidIp ∧
      ∀ host, (tryFrom url : Except ParseError (NodeLocator Key)) = .error (.invalidHost host) ↔
        (PublicKeyText.fromStr url.username : Option Key).isSome ∧ url.hostStr = some host ∧
          IpAddr.fromStr host = none := by
  -- The key is read first, then the host as an IP address; neither step raises `InvalidIp`.
  simp only [tryFrom, tryFromWith, udp, Bind.bind, Except.bind, pubkeyOf]
  cases keyed : (PublicKeyText.fromStr url.username : Option Key) with
  | none => simp
  | some key =>
    cases named : url.hostStr with
    | none => simp
    | some host => cases read : IpAddr.fromStr host <;> simp [ipOf, read, pure, Except.pure]

set_option maxRecDepth 2000 in
/-- A host name after a key is refused by the UDP arm as an invalid host. -/
theorem tryFrom_udp_error_name :
    (tryFrom ⟨"lnpu", HexKey.test.text, "", some "example", none, "", none, none⟩ :
      Except ParseError (NodeLocator HexKey)) = .error (.invalidHost "example") :=
  ((@tryFrom_udp_error HexKey _ _ ⟨"lnpu", HexKey.test.text, "", some "example", none, "", none, none⟩ rfl).2
    "example").mpr ⟨by rfl, rfl, by rfl⟩

/-! ## The text arm -/

/--
A URL is read as a text locator exactly when its scheme is `lnpt`, its username names no key,
it has no port, and its host names the key. The check the source raises `HostPresent` from reads
the username, not the host: an `lnpt` URL whose username names a key fails with `HostPresent`,
whatever its host.
-/
theorem tryFrom_eq_text_iff [PublicKeyText Key] [OnionText] {url : Url} {key : Key} :
    (tryFrom url = .ok (text key) ↔
      url.scheme = "lnpt" ∧ (PublicKeyText.fromStr url.username : Option Key) = none ∧ url.port = none ∧
        ∃ host, url.hostStr = some host ∧ PublicKeyText.fromStr host = some key) ∧
    (url.scheme = "lnpt" → (PublicKeyText.fromStr url.username : Option Key).isSome →
      (tryFrom url : Except ParseError (NodeLocator Key)) = .error .hostPresent) := by
  refine ⟨⟨fun read => ?_, ?_⟩, fun lnpt keyed => ?_⟩
  · -- Every other arm builds another variant.
    rcases tryFrom_cases read with ⟨_, -, ⟨_, -, node⟩ | ⟨_, -, wrong⟩⟩ | ⟨_, -, zmq⟩ |
      ⟨host, _, lnpt, noKey, noPort, named, hostKey, same⟩
    · rcases node with wrong | wrong | wrong <;> cases wrong
    · cases wrong
    · rcases zmqLocator_cases zmq with ⟨_, _, -, -, wrong⟩ | ⟨_, -, -, wrong⟩ | ⟨-, -, -, wrong⟩ <;>
        cases wrong
    · cases same
      exact ⟨lnpt, noKey, noPort, host, named, pubkeyOf_ok hostKey⟩
  · rintro ⟨lnpt, noKey, noPort, host, named, hostKey⟩
    simp [tryFrom, tryFromWith, lnpt, pubkeyOf, noKey, noPort, named, hostKey, Except.map]
  · -- A key as username is refused before the host is read.
    obtain ⟨userKey, named⟩ := Option.isSome_iff_exists.mp keyed
    simp [tryFrom, tryFromWith, lnpt, pubkeyOf, named]

set_option maxRecDepth 2000 in
example : (tryFrom ⟨"lnpt", "alice", "", some HexKey.test.text, none, "", none, none⟩ :
    Except ParseError (NodeLocator HexKey)) = .ok (text HexKey.test) := by
  rfl

/-! ## The ZMQ arm -/

/--
The ZMQ arm reports a username that names no key as `InvalidIp`, whatever the host: with a good
IP address and without a host alike, the guard of its second arm raises the error before a
plain TCP or an IPC locator is built.
-/
theorem tryFrom_zmq_invalidIp [PublicKeyText Key] [OnionText] {url : Url} {api : ApiType}
    (zmq : url.scheme = "lnpz") (role : apiTypeOf url = .ok api) (named : url.username ≠ "")
    (noKey : (PublicKeyText.fromStr url.username : Option Key) = none) :
    (tryFrom url : Except ParseError (NodeLocator Key)) = .error .invalidIp := by
  -- A bad IP address is refused by the first arm; every other host reaches the guard.
  have keyFails : (pubkeyOf url.username : Except ParseError Key) = .error .invalidPubkey := by
    simp [pubkeyOf, noKey]
  simp only [tryFrom, tryFromWith, Features.all, ↓reduceIte, zmq, role, keyFails, Bind.bind, Except.bind,
    zmqLocator]
  rcases url.hostStr.map ipOf with _ | _ | _ <;> simp [named]

/-- A username that names no key, before a loopback host, is reported as a bad IP address. -/
theorem tryFrom_zmq_invalidIp_loopback :
    (tryFrom ⟨"lnpz", "alice", "", some "127.0.0.1", none, "/", some "api=p2p", none⟩ :
      Except ParseError (NodeLocator HexKey)) = .error .invalidIp :=
  tryFrom_zmq_invalidIp rfl (by rfl) (by decide) (by rfl)

/-! ## Local addresses of strings -/

/--
A string never names a POSIX or in-process local address: a locator read from a string that
converts to a local address is an IPC socket with a path or a TCP socket of the ZMQ transport.
-/
theorem fromStr_localAddr [PublicKeyText Key] [OnionText] {s : String} {v : NodeLocator Key} {addr : LocalAddr}
    (read : fromStr s = .ok v) (converted : LocalAddr.tryFrom v = .ok addr) :
    (∃ path, path ≠ "" ∧ addr = .zmq (.ipc path)) ∨ ∃ socket, addr = .zmq (.tcp socket) := by
  -- The node and text arms build locators with a node id; the ZMQ arms build the rest.
  obtain ⟨url, -, read⟩ := fromStr_ok read
  rcases tryFrom_cases read with ⟨_, -, ⟨_, -, node⟩ | ⟨_, -, rfl⟩⟩ | ⟨_, -, zmq⟩ |
    ⟨_, _, -, -, -, -, -, rfl⟩
  · rcases node with rfl | rfl | rfl <;> cases converted
  · cases converted
  · rcases zmqLocator_cases zmq with ⟨_, _, -, -, rfl⟩ | ⟨_, -, -, rfl⟩ | ⟨-, named, -, rfl⟩
    · cases converted
    · cases port : url.port <;> simp only [LocalAddr.tryFrom, port, reduceCtorEq, Except.ok.injEq] at converted
      exact .inr ⟨_, converted.symm⟩
    · cases converted
      exact .inl ⟨_, named, rfl⟩
  · cases converted

/-- The IPC socket of the source's tests is a ZMQ local address. -/
theorem fromStr_localAddr_socket :
    (fromStr "lnpz:./socket1?api=p2p" : Except ParseError (NodeLocator HexKey)) =
        .ok (zmqIpc "./socket1" .peerConnecting) ∧
      ((∃ path, path ≠ "" ∧ LocalAddr.zmq (.ipc "./socket1") = .zmq (.ipc path)) ∨
        ∃ socket, LocalAddr.zmq (.ipc "./socket1") = .zmq (.tcp socket)) :=
  have read : (fromStr "lnpz:./socket1?api=p2p" : Except ParseError (NodeLocator HexKey)) =
      .ok (zmqIpc "./socket1" .peerConnecting) := by
    rfl
  ⟨read, fromStr_localAddr read rfl⟩

end NodeLocator

end Internet2
