import Internet2.Proofs.Session.Reread

/-!
Settled locators, the codec's normal forms: each is written as one string that reads back as
itself, and on them locator equality is plain equality.
-/

namespace Internet2

/-- Reading a role back twice reads it back once. -/
@[simp] theorem ApiType.readBack_readBack (api : ApiType) : api.readBack.readBack = api.readBack := by
  cases api <;> rfl

namespace NodeLocator

variable {Key : Type}

/-- Reading a locator back twice reads it back once. -/
@[simp] theorem readBack_readBack (l : NodeLocator Key) : l.readBack.readBack = l.readBack := by
  cases l <;> simp [readBack, mapApi]

/-- A locator the codec writes and reads back as itself: readable, with a role a token reads as. -/
@[ext] structure Settled (Key : Type) where
  /-- The locator. -/
  locator : NodeLocator Key
  /-- The codec reads its string back. -/
  readable : locator.isReadable = true
  /-- Reading its role back leaves it alone. -/
  readBack_eq : locator.readBack = locator

/-- A readable locator read from a string is settled. -/
def Settled.ofFromStr [PublicKeyText Key] [OnionText] {s : String} {v : NodeLocator Key} (read : fromStr s = .ok v)
    (readable : v.isReadable = true) : Settled Key :=
  ⟨v, readable, fromStr_settled read⟩

/-- A settled locator's string reads back as the locator. -/
theorem Settled.fromStr_locator [PublicKeyText Key] [LawfulPublicKeyText Key] [OnionText] [LawfulOnionText]
    (settled : Settled Key) :
    fromStr settled.locator.toUrlString = .ok settled.locator := by
  rw [fromStr_readable settled.readable, settled.readBack_eq]

/-- Setting the port does not change whether the codec reads the string back. -/
@[simp] theorem isReadable_withPort (l : NodeLocator Key) (port : UInt16) :
    (l.withPort port).isReadable = l.isReadable := by
  cases l <;> rfl

/-- Setting the port and reading the role back commute. -/
theorem readBack_withPort (l : NodeLocator Key) (port : UInt16) :
    (l.withPort port).readBack = l.readBack.withPort port := by
  cases l <;> rfl

/-- A settled locator with its port set, where it has a port slot. -/
def Settled.withPort (settled : Settled Key) (port : UInt16) : Settled Key :=
  ⟨settled.locator.withPort port, by rw [isReadable_withPort, settled.readable],
    by rw [readBack_withPort, settled.readBack_eq]⟩

/--
`with_port` keeps a locator's string reading back: if the string of a locator reads back as the
locator, then with any port set it still does, the port written being the port read.
-/
theorem fromStr_withPort [PublicKeyText Key] [LawfulPublicKeyText Key] [OnionText] [LawfulOnionText]
    {v : NodeLocator Key} (reread : fromStr v.toUrlString = .ok v) (port : UInt16) :
    fromStr (v.withPort port).toUrlString = .ok (v.withPort port) :=
  ((Settled.ofFromStr reread (isReadable_of_reread reread)).withPort port).fromStr_locator

set_option maxRecDepth 2000 in
/-- The source's first test locator, given the port 24, reads back with it. -/
theorem fromStr_withPort_native :
    (fromStr (native HexKey.test (.ipv4 ⟨127, 0, 0, 1⟩) none).toUrlString : Except ParseError (NodeLocator HexKey)) =
        .ok (native HexKey.test (.ipv4 ⟨127, 0, 0, 1⟩) none) ∧
      (fromStr ((native HexKey.test (.ipv4 ⟨127, 0, 0, 1⟩) none).withPort 24).toUrlString :
        Except ParseError (NodeLocator HexKey)) = .ok (native HexKey.test (.ipv4 ⟨127, 0, 0, 1⟩) (some 24)) :=
  have reread : (fromStr (native HexKey.test (.ipv4 ⟨127, 0, 0, 1⟩) none).toUrlString :
      Except ParseError (NodeLocator HexKey)) = .ok (native HexKey.test (.ipv4 ⟨127, 0, 0, 1⟩) none) := by
    rfl
  ⟨reread, fromStr_withPort reread 24⟩

end NodeLocator

end Internet2
