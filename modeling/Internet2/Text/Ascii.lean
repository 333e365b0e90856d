import Mathlib.Data.List.Basic

/-! ASCII character classes, by code point, shared by every text format of the model. -/

namespace Internet2

/-- `0` to `9`. -/
def isAsciiDigit (c : Char) : Bool := 48 ≤ c.toNat && c.toNat ≤ 57

/-- `A` to `Z` and `a` to `z`. -/
def isAsciiAlpha (c : Char) : Bool :=
  (65 ≤ c.toNat && c.toNat ≤ 90) || (97 ≤ c.toNat && c.toNat ≤ 122)

/-- ASCII letters and digits. -/
def isAsciiAlphanumeric (c : Char) : Bool := isAsciiAlpha c || isAsciiDigit c

/-- Code points up to the space, which the URL parser trims from both ends of its input. -/
def isC0ControlOrSpace (c : Char) : Bool := c.toNat ≤ 32

/-- Tab, line feed and carriage return, which the URL parser drops wherever they stand. -/
def isTabOrNewline (c : Char) : Bool := c = '\t' || c = '\n' || c = '\r'

/-- Characters are equal exactly when their code points are. -/
theorem toNat_eq_iff {c d : Char} : c.toNat = d.toNat ↔ c = d :=
  ⟨fun same => by rw [← Char.ofNat_toNat c, same, Char.ofNat_toNat], congrArg _⟩

end Internet2
