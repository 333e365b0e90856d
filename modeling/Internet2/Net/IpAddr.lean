import Internet2.Text.Ascii

/-! The standard library's IP addresses, and the text it reads and writes them as. -/

namespace Internet2

/-- An IPv4 address, as the four octets `Ipv4Addr::new` takes. -/
structure Ipv4Addr where
  a : UInt8
  b : UInt8
  c : UInt8
  d : UInt8
  deriving DecidableEq

/-- An IPv6 address, as its eight 16-bit segments in network order. -/
structure Ipv6Addr where
  segments : List UInt16
  length_eq : segments.length = 8
  deriving DecidableEq

/-- An address of either family, as `std::net::IpAddr`. -/
inductive IpAddr where
  /-- An IPv4 address. -/
  | v4 (addr : Ipv4Addr)
  /-- An IPv6 address. -/
  | v6 (addr : Ipv6Addr)
  deriving DecidableEq

/-- The eight segments taken as an address, when there are eight. -/
def Ipv6Addr.ofSegments (segments : List Nat) : Option Ipv6Addr :=
  if h : (segments.map UInt16.ofNat).length = 8 then some ⟨_, h⟩ else none

/-! ## Writing -/

/-- Decimal digits of a number, as `{}` writes it. -/
def decimal (n : Nat) : String := (Nat.toDigits 10 n).asString

/-- Lower-case hexadecimal digits of a number, as `{:x}` writes it. -/
def lowerHex (n : Nat) : String := (Nat.toDigits 16 n).asString

/-- The dotted-decimal text of an IPv4 address. -/
def Ipv4Addr.toString (addr : Ipv4Addr) : String :=
  decimal addr.a.toNat ++ "." ++ decimal addr.b.toNat ++ "." ++
    decimal addr.c.toNat ++ "." ++ decimal addr.d.toNat

/-- Segments in hexadecimal, separated by colons. -/
def hexGroups (segments : List UInt16) : String :=
  ":".intercalate (segments.map fun segment => lowerHex segment.toNat)

/-- One step of the scan for zero runs: the longest run so far, the current run, the position. -/
def zeroRunStep (scan : (Nat × Nat) × (Nat × Nat) × Nat) (segment : UInt16) :
    (Nat × Nat) × (Nat × Nat) × Nat :=
  let (longest, current, index) := scan
  if segment = 0 then
    let current := if current.2 = 0 then (index, 1) else (current.1, current.2 + 1)
    (if longest.2 < current.2 then current else longest, current, index + 1)
  else (longest, (0, 0), index + 1)

/-- The first longest run of zero segments, as its start and its length. -/
def zeroRun (segments : List UInt16) : Nat × Nat :=
  (segments.foldl zeroRunStep ((0, 0), (0, 0), 0)).1

/-- Hexadecimal text with the first longest run of two or more zero segments written `::`. -/
def compressedHex (segments : List UInt16) : String :=
  let (start, length) := zeroRun segments
  if 1 < length then
    hexGroups (segments.take start) ++ "::" ++ hexGroups (segments.drop (start + length))
  else hexGroups segments

/-- The text of an IPv6 address; an IPv4-mapped address ends in its IPv4 text. -/
def Ipv6Addr.toString (addr : Ipv6Addr) : String :=
  match addr.segments with
  | [0, 0, 0, 0, 0, 0xffff, high, low] =>
    "::ffff:" ++ Ipv4Addr.toString ⟨(high >>> 8).toUInt8, high.toUInt8,
      (low >>> 8).toUInt8, low.toUInt8⟩
  | segments => compressedHex segments

/-- The text of an address, as `Display for IpAddr` writes it. -/
def IpAddr.toString : IpAddr → String
  | .v4 addr => addr.toString
  | .v6 addr => addr.toString

/-! ## Reading -/

/-- The value of a character as a digit in the radix, as `char::to_digit` reads it. -/
def digitValue (radix : Nat) (c : Char) : Option Nat :=
  let value :=
    if 48 ≤ c.toNat ∧ c.toNat ≤ 57 then c.toNat - 48
    else if 97 ≤ c.toNat ∧ c.toNat ≤ 122 then c.toNat - 87
    else if 65 ≤ c.toNat ∧ c.toNat ≤ 90 then c.toNat - 55
    else radix
  if value < radix then some value else none

/-- Whether a character is a digit in the radix. -/
def isDigitIn (radix : Nat) (c : Char) : Bool := (digitValue radix c).isSome

/-- The value of a string of digits, most significant first. -/
def digitsValue (radix : Nat) (digits : List Char) : Nat :=
  (digits.filterMap (digitValue radix)).foldl (fun value digit => value * radix + digit) 0

/--
A number at the front of the text, as the address parser reads one.

It takes every digit there is, and fails on none, on more than `maxDigits`,
on a value of `bound` or more, and on a leading zero the caller does not allow.
-/
def readNumber (radix maxDigits bound : Nat) (allowZeroPrefix : Bool) (text : List Char) :
    Option (Nat × List Char) :=
  let digits := text.takeWhile (isDigitIn radix)
  if digits = [] ∨ maxDigits < digits.length ∨ bound ≤ digitsValue radix digits ∨
      (allowZeroPrefix = false ∧ digits.head? = some '0' ∧ 1 < digits.length) then none
  else some (digitsValue radix digits, text.dropWhile (isDigitIn radix))

/-- An item read after the separator, which the first item goes without. -/
def readSeparator {α : Type} (separator : Char) (index : Nat)
    (inner : List Char → Option (α × List Char)) : List Char → Option (α × List Char)
  | c :: rest => if index = 0 then inner (c :: rest) else if c = separator then inner rest else none
  | [] => if index = 0 then inner [] else none

/-- One octet of an IPv4 address: up to three decimal digits, no leading zero. -/
def readOctet (text : List Char) : Option (Nat × List Char) := readNumber 10 3 256 false text

/-- An IPv4 address at the front of the text: four octets separated by dots. -/
def readIpv4 (text : List Char) : Option (Ipv4Addr × List Char) := do
  let (a, text) ← readSeparator '.' 0 readOctet text
  let (b, text) ← readSeparator '.' 1 readOctet text
  let (c, text) ← readSeparator '.' 2 readOctet text
  let (d, text) ← readSeparator '.' 3 readOctet text
  pure (⟨a.toUInt8, b.toUInt8, c.toUInt8, d.toUInt8⟩, text)

/-- The two segments an IPv4 address stands for inside an IPv6 address. -/
def Ipv4Addr.segments (addr : Ipv4Addr) : List Nat :=
  [addr.a.toNat * 256 + addr.b.toNat, addr.c.toNat * 256 + addr.d.toNat]

/-- One hexadecimal group of an IPv6 address: up to four digits. -/
def readHexGroup (text : List Char) : Option (Nat × List Char) := readNumber 16 4 65536 true text

/--
Colon-separated groups at the front of the text, at most `slots` of them, from `index` on.

Where two slots are left an IPv4 address may fill both, and ends the groups;
the flag says whether one did.
-/
def readGroups : Nat → Nat → List Char → List Nat × Bool × List Char
  | 0, _, text => ([], false, text)
  | slots + 1, index, text =>
    match (if 1 ≤ slots then readSeparator ':' index readIpv4 text else none) with
    | some (addr, rest) => (addr.segments, true, rest)
    | none =>
      match readSeparator ':' index readHexGroup text with
      | some (group, rest) =>
        let (groups, ipv4, rest) := readGroups slots (index + 1) rest
        (group :: groups, ipv4, rest)
      | none => ([], false, text)

/-- An IPv6 address at the front of the text; `::` stands for one or more zero segments. -/
def readIpv6 (text : List Char) : Option (Ipv6Addr × List Char) :=
  let (head, headIpv4, rest) := readGroups 8 0 text
  if head.length = 8 then (Ipv6Addr.ofSegments head).map (·, rest)
  else if headIpv4 then none
  else match rest with
    | ':' :: ':' :: rest =>
      let (tail, _, rest) := readGroups (8 - (head.length + 1)) 0 rest
      (Ipv6Addr.ofSegments
        (head ++ List.replicate (8 - head.length - tail.length) 0 ++ tail)).map (·, rest)
    | _ => none

/-- An address at the front of the text: IPv4 if one is there, IPv6 otherwise. -/
def readIpAddr (text : List Char) : Option (IpAddr × List Char) :=
  match readIpv4 text with
  | some (addr, rest) => some (.v4 addr, rest)
  | none => (readIpv6 text).map fun (addr, rest) => (.v6 addr, rest)

/-- The address a whole text is, as `IpAddr::from_str` reads it. -/
def IpAddr.fromStr (text : String) : Option IpAddr :=
  match readIpAddr text.toList with
  | some (addr, []) => some addr
  | _ => none

end Internet2
