import Internet2.Session.Codec

/-!
Locator equality is the kernel of merging the two peer roles, except that POSIX locators
have no arm in the source's match and equal nothing, themselves included.
-/

namespace Internet2

/-- A role with the two ends of a peer-to-peer pair merged into the connecting one. -/
def ApiType.canonical : ApiType → ApiType
  | .peerListening => .peerConnecting
  | api => api

/-- The roles `apiEq` relates are exactly those with the same merged role. -/
theorem NodeLocator.apiEq_iff (a b : ApiType) : NodeLocator.apiEq a b = true ↔ a.canonical = b.canonical := by
  -- Six roles on each side, each pair decided by evaluation.
  cases a <;> cases b <;> decide

/-- Merging the peer roles does not change the token a role is written as. -/
@[simp] theorem ApiType.apiName_canonical (api : ApiType) : api.canonical.apiName = api.apiName := by
  cases api <;> rfl

namespace NodeLocator

variable {Key : Type}

/-- The locator with its role, if it has one, mapped by `f`. -/
def mapApi (f : ApiType → ApiType) : NodeLocator Key → NodeLocator Key
  | zmqIpc path api => zmqIpc path (f api)
  | zmqInproc name api => zmqInproc name (f api)
  | zmqTcpEncrypted pubkey api ip port => zmqTcpEncrypted pubkey (f api) ip port
  | zmqTcpUnencrypted api ip port => zmqTcpUnencrypted (f api) ip port
  | l => l

/-- The locator with every role merged, the representative of its equality class. -/
def canonical (l : NodeLocator Key) : NodeLocator Key := l.mapApi ApiType.canonical

/-- Two locators are equal exactly when they are no POSIX locator and have the same representative. -/
theorem eq_iff [DecidableEq Key] (a b : NodeLocator Key) :
    a.eq b = true ↔ (∀ path, a ≠ posix path) ∧ a.canonical = b.canonical := by
  -- Different variants are unequal on both sides; within a variant, fields are compared
  -- one by one and roles through their merged form.
  cases a <;> cases b <;>
    simp only [eq, canonical, mapApi, apiEq_iff, Bool.and_eq_true, beq_iff_eq, and_assoc, ne_eq,
      reduceCtorEq, not_false_eq_true, implies_true, true_and, Bool.false_eq_true, forall_eq',
      false_and, and_false, false_iff, native.injEq, udp.injEq, websocket.injEq, zmqIpc.injEq,
      zmqInproc.injEq, zmqTcpEncrypted.injEq, zmqTcpUnencrypted.injEq, http.injEq, text.injEq, posix.injEq]

/-- Mapping roles to roles written alike does not change the URL string. -/
theorem toUrlString_mapApi [PublicKeyText Key] [OnionText] {f : ApiType → ApiType}
    (sameName : ∀ api, (f api).apiName = api.apiName) (l : NodeLocator Key) :
    (l.mapApi f).toUrlString = l.toUrlString := by
  cases l <;> simp [mapApi, toUrlString, urlScheme, sameName]

/--
Equal locators have the same URL string, so `Hash for NodeLocator` writes the same bytes for
them and leaves any hasher in the same state.
-/
theorem hash_eq_of_eq [DecidableEq Key] [PublicKeyText Key] [OnionText] {a b : NodeLocator Key}
    (equal : a.eq b = true) :
    a.toUrlString = b.toUrlString ∧
      ∀ (σ : Type) (write : σ → List UInt8 → σ) (state : σ), a.hash write state = b.hash write state := by
  -- Equal locators share a representative, and the representative has the same URL string.
  have same : a.toUrlString = b.toUrlString := by
    rw [← toUrlString_mapApi ApiType.apiName_canonical a, ← toUrlString_mapApi ApiType.apiName_canonical b]
    exact congrArg toUrlString ((eq_iff a b).mp equal).2
  exact ⟨same, fun _ _ _ => by simp only [hash, same]⟩

/-- The source's two role-merged ZMQ locators hash alike. -/
theorem hash_eq_of_eq_test :
    (zmqTcpEncrypted HexKey.test .peerListening (.v4 ⟨127, 0, 0, 1⟩) none).eq
        (zmqTcpEncrypted HexKey.test .peerConnecting (.v4 ⟨127, 0, 0, 1⟩) none) = true ∧
      (zmqTcpEncrypted HexKey.test .peerListening (.v4 ⟨127, 0, 0, 1⟩) none).toUrlString =
        (zmqTcpEncrypted HexKey.test .peerConnecting (.v4 ⟨127, 0, 0, 1⟩) none).toUrlString :=
  ⟨rfl, (hash_eq_of_eq (a := zmqTcpEncrypted HexKey.test .peerListening (.v4 ⟨127, 0, 0, 1⟩) none)
    (b := zmqTcpEncrypted HexKey.test .peerConnecting (.v4 ⟨127, 0, 0, 1⟩) none) (by decide)).1⟩

/-- A POSIX locator is not equal to itself: `PartialEq` has no arm for two POSIX locators. -/
theorem posix_eq_self_false : (posix "/tmp/lnp.sock" : NodeLocator HexKey).eq (posix "/tmp/lnp.sock") = false := by
  rfl

/--
Equality is symmetric and transitive, and reflexive on every locator but the POSIX ones:
a partial equivalence whose domain leaves out exactly the POSIX locators.
-/
theorem eq_partial_equivalence [DecidableEq Key] :
    (∀ a b : NodeLocator Key, a.eq b = true → b.eq a = true) ∧
    (∀ a b c : NodeLocator Key, a.eq b = true → b.eq c = true → a.eq c = true) ∧
    (∀ a : NodeLocator Key, a.eq a = true ↔ ∀ path, a ≠ posix path) := by
  -- Each law is the same law of equality of representatives.
  refine ⟨fun a b ab => ?_, fun a b c ab bc => ?_, fun a => by simp [eq_iff a a]⟩
  · obtain ⟨notPosix, same⟩ := (eq_iff a b).mp ab
    refine (eq_iff b a).mpr ⟨fun path isPosix => ?_, same.symm⟩
    subst isPosix
    cases a <;> simp_all [canonical, mapApi]
  · obtain ⟨notPosix, same⟩ := (eq_iff a b).mp ab
    exact (eq_iff a c).mpr ⟨notPosix, same.trans ((eq_iff b c).mp bc).2⟩

end NodeLocator

end Internet2
