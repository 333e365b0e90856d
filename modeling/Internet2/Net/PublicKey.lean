import Internet2.Text.Ascii

/-! Node ids: secp256k1 public keys, seen through the text the locator reads and writes. -/

namespace Internet2

/--
How node ids are read from text and written to it: `PublicKey::from_str` and
`Display for PublicKey` of the secp256k1 crate.
-/
class PublicKeyText (Key : Type) where
  /-- The key a text names, if it names one. -/
  fromStr : String → Option Key
  /-- The text a key is written as. -/
  toString : Key → String

/--
What the locator relies on of the key text.

A secp256k1 key is written as 66 hexadecimal digits of its compressed form, reads back as
itself, and no key is read from the empty string.
-/
class LawfulPublicKeyText (Key : Type) [PublicKeyText Key] : Prop where
  fromStr_toString : ∀ key : Key, PublicKeyText.fromStr (PublicKeyText.toString key) = some key
  toString_alphanumeric : ∀ key : Key, ∀ c ∈ (PublicKeyText.toString key).toList,
    isAsciiAlphanumeric c = true
  toString_ne_nil : ∀ key : Key, (PublicKeyText.toString key).toList ≠ []
  fromStr_empty : PublicKeyText.fromStr "" = (none : Option Key)

/-- Digits of compressed keys as the secp256k1 crate writes them. -/
def isLowerHex (c : Char) : Bool := isAsciiDigit c || (97 ≤ c.toNat && c.toNat ≤ 102)

/-- The text of a compressed key: `02` or `03`, then 64 lower-case hexadecimal digits. -/
def IsCompressedHex (text : List Char) : Prop :=
  text.length = 66 ∧ (text.take 2 = ['0', '2'] ∨ text.take 2 = ['0', '3']) ∧
    ∀ c ∈ text, isLowerHex c = true

instance (text : List Char) : Decidable (IsCompressedHex text) :=
  inferInstanceAs (Decidable (_ ∧ _))

/--
A compressed public key held as its text, to run the locator on concrete strings.

Two checks differ from the secp256k1 crate's: the curve check is left out, so every such text
is taken as a key, and a key written in upper-case hexadecimal, which the crate reads, is refused.
-/
structure HexKey where
  text : String
  valid : IsCompressedHex text.toList
  deriving DecidableEq

instance : PublicKeyText HexKey where
  fromStr text := if h : IsCompressedHex text.toList then some ⟨text, h⟩ else none
  toString key := key.text

instance : LawfulPublicKeyText HexKey where
  fromStr_toString key := dif_pos key.valid
  toString_alphanumeric key c member := by
    have hex := key.valid.2.2 c member
    simp only [isLowerHex, isAsciiAlphanumeric, isAsciiAlpha, isAsciiDigit, Bool.or_eq_true,
      Bool.and_eq_true, decide_eq_true_eq] at hex ⊢
    omega
  toString_ne_nil key empty := by
    have length := key.valid.1
    rw [show key.text.toList = [] from empty] at length
    exact absurd length (by decide)
  fromStr_empty := by decide

/-- The first node id of the source's tests. -/
def HexKey.test : HexKey :=
  ⟨"022e58afe51f9ed8ad3cc7897f634d881fdbe49a81564629ded8156bebd2ffd1af", by decide⟩

end Internet2
