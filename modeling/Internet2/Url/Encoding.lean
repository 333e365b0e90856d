import Internet2.Text.Ascii

/-! Percent-encoding and form-urlencoded query pairs, as the url crate writes and reads them. -/

namespace Internet2.Url

/-! ## Percent-encoding -/

/-- An upper-case hexadecimal digit. -/
def upperHexDigit (n : Nat) : Char := Char.ofNat (if n < 10 then 48 + n else 55 + n)

/-- `%` and the two digits of one byte. -/
def percentEncodeByte (byte : UInt8) : List Char :=
  ['%', upperHexDigit (byte.toNat / 16), upperHexDigit (byte.toNat % 16)]

/-- C0 controls and delete, the ASCII part of the C0 control percent-encode set. -/
def controls (c : Char) : Bool := c.toNat < 32 || c.toNat = 127

/-- The fragment percent-encode set. -/
def fragmentSet (c : Char) : Bool := controls c || " \"<>`".toList.contains c

/-- The path percent-encode set. -/
def pathSet (c : Char) : Bool := fragmentSet c || "#?{}".toList.contains c

/-- The userinfo percent-encode set. -/
def userinfoSet (c : Char) : Bool := pathSet c || "/:;=@[\\]^|".toList.contains c

/-- The query percent-encode set of a non-special URL. -/
def querySet (c : Char) : Bool := controls c || " \"#<>".toList.contains c

/--
One character, percent-encoded: kept when it is ASCII outside the set, and otherwise
written as `%XX` for each byte of its UTF-8 encoding.
-/
def encodeChar (set : Char → Bool) (c : Char) : List Char :=
  if c.toNat < 128 && !set c then [c] else (String.utf8EncodeChar c).flatMap percentEncodeByte

/-- Text percent-encoded with a set, as `utf8_percent_encode`. -/
def percentEncode (set : Char → Bool) (text : List Char) : List Char :=
  text.flatMap (encodeChar set)

/-! ## Decoding -/

/-- The value of a hexadecimal digit of either case. -/
def hexValue (byte : UInt8) : Option Nat :=
  if 48 ≤ byte.toNat ∧ byte.toNat ≤ 57 then some (byte.toNat - 48)
  else if 65 ≤ byte.toNat ∧ byte.toNat ≤ 70 then some (byte.toNat - 55)
  else if 97 ≤ byte.toNat ∧ byte.toNat ≤ 102 then some (byte.toNat - 87)
  else none

/-- Bytes with every `%XX` replaced by the byte it stands for, as `percent_decode`. -/
def percentDecode : List UInt8 → List UInt8
  | 37 :: high :: low :: rest =>
    match hexValue high, hexValue low with
    | some h, some l => UInt8.ofNat (16 * h + l) :: percentDecode rest
    | _, _ => 37 :: percentDecode (high :: low :: rest)
  | byte :: rest => byte :: percentDecode rest
  | [] => []

/-- Whether a byte continues a UTF-8 sequence. -/
def isContinuation (byte : UInt8) : Bool := 128 ≤ byte.toNat && byte.toNat < 192

/-- The range the second byte of a sequence must fall in, after the given first byte. -/
def secondByteRange (first : Nat) : Nat × Nat :=
  if first = 0xE0 then (0xA0, 0xBF) else if first = 0xED then (0x80, 0x9F)
  else if first = 0xF0 then (0x90, 0xBF) else if first = 0xF4 then (0x80, 0x8F)
  else (0x80, 0xBF)

/-- The character the continuation bytes complete, given the payload bits of the first. -/
def utf8Char (lead : Nat) (continuation : List UInt8) : Char :=
  Char.ofNat (continuation.foldl (fun code byte => code * 64 + byte.toNat % 64) lead)

/--
The next character of a byte string and the bytes after it, with an invalid sequence read as
one replacement character, as `String::from_utf8_lossy` does.
-/
def decodeStep : List UInt8 → Char × List UInt8
  | [] => ('�', [])
  | first :: rest =>
    let width := if first.toNat < 0x80 then 1 else if first.toNat < 0xC2 then 0
      else if first.toNat < 0xE0 then 2 else if first.toNat < 0xF0 then 3
      else if first.toNat < 0xF5 then 4 else 0
    let lead := first.toNat % (if width = 2 then 32 else if width = 3 then 16 else 8)
    let range := secondByteRange first.toNat
    match width, rest with
    | 1, _ => (Char.ofNat first.toNat, rest)
    | 2, second :: more =>
      if isContinuation second then (utf8Char lead [second], more) else ('�', rest)
    | 3, second :: more =>
      if range.1 ≤ second.toNat ∧ second.toNat ≤ range.2 then
        match more with
        | third :: after =>
          if isContinuation third then (utf8Char lead [second, third], after)
          else ('�', more)
        | [] => ('�', more)
      else ('�', rest)
    | 4, second :: more =>
      if range.1 ≤ second.toNat ∧ second.toNat ≤ range.2 then
        match more with
        | third :: after =>
          if isContinuation third then
            match after with
            | fourth :: last =>
              if isContinuation fourth then (utf8Char lead [second, third, fourth], last)
              else ('�', after)
            | [] => ('�', after)
          else ('�', more)
        | [] => ('�', more)
      else ('�', rest)
    | _, _ => ('�', rest)

/-- Bytes decoded as UTF-8 with `fuel` steps at most; each step reads at least one byte. -/
def decodeLossyAux : Nat → List UInt8 → List Char
  | 0, _ => []
  | _, [] => []
  | fuel + 1, bytes =>
    let (c, rest) := decodeStep bytes
    c :: decodeLossyAux fuel rest

/-- Bytes decoded as UTF-8, invalid sequences replaced, as `String::from_utf8_lossy`. -/
def decodeLossy (bytes : List UInt8) : String := (decodeLossyAux bytes.length bytes).asString

/-! ## Query pairs -/

/-- One name or value of a query, as `form_urlencoded` decodes it: `+` is a space. -/
def decodeComponent (bytes : List UInt8) : String :=
  decodeLossy (percentDecode (bytes.map fun byte => if byte = 43 then 32 else byte))

/-- A sequence split at its first `=` into a name and a value. -/
def splitPair (sequence : List UInt8) : String × String :=
  (decodeComponent (sequence.takeWhile (· ≠ 61)), decodeComponent ((sequence.dropWhile (· ≠ 61)).drop 1))

/-- The name-value pairs of a query, as `form_urlencoded::parse`: empty sequences are skipped. -/
def parsePairs (query : List UInt8) : List (String × String) :=
  ((query.splitOn 38).filter (· ≠ [])).map splitPair

end Internet2.Url
