import Internet2.Net.InetAddr
import Mathlib.Data.Nat.Digits

/-!
IPv4 text reads back as the address it was written from; onion text names no IP address, text
that starts with a bracket none, and text without a colon no IPv6 address.
-/

namespace Internet2

/-! ## Decimal digits -/

/-- Digits already written are only put behind the ones still to come. -/
theorem toDigitsCore_acc (base : Nat) : ∀ (fuel n : Nat) (done : List Char),
    Nat.toDigitsCore base fuel n done = Nat.toDigitsCore base fuel n [] ++ done
  | 0, _, _ => rfl
  | fuel + 1, n, done => by
    simp only [Nat.toDigitsCore]
    split
    · rfl
    · rw [toDigitsCore_acc base fuel (n / base) (_ :: done),
        toDigitsCore_acc base fuel (n / base) [_]]
      simp

/-- The decimal digit characters, their values and their classes. -/
theorem digitChar_decimal {k : Nat} (small : k < 10) :
    digitValue 10 (Nat.digitChar k) = some k ∧ isAsciiDigit (Nat.digitChar k) = true ∧
      (Nat.digitChar k = '0' ↔ k = 0) := by
  interval_cases k <;> decide

/-- A digit in radix ten is an ASCII digit. -/
theorem isDigitIn_ten (c : Char) : isDigitIn 10 c = isAsciiDigit c := by
  -- Only the first range gives a value below ten; letters give ten or more.
  unfold isDigitIn digitValue isAsciiDigit
  by_cases digit : 48 ≤ c.toNat ∧ c.toNat ≤ 57
  · simp only [if_pos digit]
    simp [digit.1, digit.2]; omega
  · simp only [if_neg digit]
    split_ifs <;> simp <;> omega

/-- One more digit at the end multiplies the value by ten and adds its own. -/
theorem digitsValue_append_digit (digits : List Char) {k : Nat} (small : k < 10) :
    digitsValue 10 (digits ++ [Nat.digitChar k]) = digitsValue 10 digits * 10 + k := by
  rw [digitsValue, List.filterMap_append, List.foldl_append]
  simp [List.filterMap, (digitChar_decimal small).1, digitsValue]

/--
With enough fuel, the decimal digits of a number are digits, read back as the number, and
start with a zero only when the number is zero.
-/
theorem toDigitsCore_decimal : ∀ (fuel n : Nat), n < fuel →
    (∀ c ∈ Nat.toDigitsCore 10 fuel n [], isAsciiDigit c = true) ∧
    digitsValue 10 (Nat.toDigitsCore 10 fuel n []) = n ∧
    Nat.toDigitsCore 10 fuel n [] ≠ [] ∧
    (n ≠ 0 → (Nat.toDigitsCore 10 fuel n []).head? ≠ some '0')
  | 0, _, enough => absurd enough (Nat.not_lt_zero _)
  | fuel + 1, n, enough => by
    have last := digitChar_decimal (Nat.mod_lt n (by decide : 10 > 0))
    simp only [Nat.toDigitsCore]
    split
    · -- A single digit: the number is below ten.
      rename_i single
      have small : n < 10 := by omega
      obtain ⟨-, digit, zero⟩ := digitChar_decimal small
      rw [Nat.mod_eq_of_lt small]
      refine ⟨by simpa using digit, ?_, by simp, fun nonzero => by simpa [zero] using nonzero⟩
      simpa [digitsValue] using digitsValue_append_digit [] small
    · -- More digits: the ones for the number divided by ten, then the last one.
      rename_i more
      obtain ⟨digits, value, nonEmpty, leading⟩ := toDigitsCore_decimal fuel (n / 10) (by omega)
      rw [toDigitsCore_acc]
      refine ⟨fun c member => ?_, ?_, by simp, fun _ => ?_⟩
      · rcases List.mem_append.mp member with inner | single
        · exact digits c inner
        · simp only [List.mem_singleton] at single
          exact single ▸ last.2.1
      · rw [digitsValue_append_digit _ (Nat.mod_lt n (by decide : 10 > 0)), value]
        omega
      · obtain ⟨c, rest, split⟩ := List.exists_cons_of_ne_nil nonEmpty
        simpa [split] using leading more

/-- The text of a number in decimal. -/
theorem decimal_data (n : Nat) : (decimal n).data = Nat.toDigitsCore 10 (n + 1) n [] := rfl

/-- Decimal text holds digits only. -/
theorem decimal_digits (n : Nat) : ∀ c ∈ (decimal n).data, isAsciiDigit c = true := by
  rw [decimal_data]
  exact (toDigitsCore_decimal _ n (Nat.lt_succ_self n)).1

/-- Decimal text is never empty. -/
theorem decimal_ne_nil (n : Nat) : (decimal n).data ≠ [] := by
  rw [decimal_data]
  exact (toDigitsCore_decimal _ n (Nat.lt_succ_self n)).2.2.1

/-- Decimal text reads back as its number. -/
theorem decimal_value (n : Nat) : digitsValue 10 (decimal n).data = n := by
  rw [decimal_data]
  exact (toDigitsCore_decimal _ n (Nat.lt_succ_self n)).2.1

/-! ## Reading numbers -/

/-- A run of digits before a non-digit is read whole when the reader accepts it. -/
theorem readNumber_append {radix maxDigits bound : Nat} {allow : Bool} {digits rest : List Char}
    (allDigits : ∀ c ∈ digits, isDigitIn radix c = true)
    (stop : ∀ c ∈ rest.head?, isDigitIn radix c = false) (nonEmpty : digits ≠ [])
    (short : digits.length ≤ maxDigits) (below : digitsValue radix digits < bound)
    (noZero : allow = true ∨ digits.head? ≠ some '0' ∨ digits.length ≤ 1) :
    readNumber radix maxDigits bound allow (digits ++ rest) = some (digitsValue radix digits, rest) := by
  -- The digits are taken and the reader stops where the rest begins.
  have taken : rest.takeWhile (isDigitIn radix) = [] ∧ rest.dropWhile (isDigitIn radix) = rest := by
    cases rest with
    | nil => simp
    | cons c _ => simp [stop c rfl]
  simp only [readNumber, List.takeWhile_append_of_pos allDigits, List.dropWhile_append_of_pos allDigits,
    taken, List.append_nil]
  rw [if_neg]
  rintro (empty | long | large | ⟨forbidden, zero, many⟩)
  · exact nonEmpty empty
  · omega
  · omega
  · rcases noZero with allowed | notZero | one
    · simp [allowed] at forbidden
    · exact notZero zero
    · omega

/-- An octet written in decimal is read back, up to the next non-digit. -/
theorem readOctet_decimal {n : Nat} (small : n < 256) {rest : List Char}
    (stop : ∀ c ∈ rest.head?, isAsciiDigit c = false) :
    readOctet ((decimal n).data ++ rest) = some (n, rest) := by
  have digits := decimal_digits n
  have value := decimal_value n
  -- No decimal text of a number below 256 is longer than three digits or starts with a zero.
  have short : (decimal n).data.length ≤ 3 := by
    rw [decimal_data]
    exact Nat.toDigitsCore_length 10 (by decide) _ n 3 (by omega) (by decide)
  have leading : (decimal n).data.head? ≠ some '0' ∨ (decimal n).data.length ≤ 1 := by
    by_cases zero : n = 0
    · subst zero; decide
    · rw [decimal_data]
      exact .inl ((toDigitsCore_decimal _ n (Nat.lt_succ_self n)).2.2.2 zero)
  have below : digitsValue 10 (decimal n).data < 256 := by omega
  unfold readOctet
  rw [readNumber_append (fun c member => (isDigitIn_ten c).trans (digits c member))
    (fun c member => (isDigitIn_ten c).trans (stop c member)) (decimal_ne_nil n) short below
    (.inr leading), value]

/-- The first item is read with no separator before it. -/
@[simp] theorem readSeparator_zero {α : Type} (sep : Char) (inner : List Char → Option (α × List Char))
    (text : List Char) : readSeparator sep 0 inner text = inner text := by
  cases text <;> rfl

/-- A later item is read after its separator. -/
@[simp] theorem readSeparator_succ {α : Type} (sep : Char) (index : Nat)
    (inner : List Char → Option (α × List Char)) (text : List Char) :
    readSeparator sep (index + 1) inner (sep :: text) = inner text := by
  simp [readSeparator]

/-! ## IPv4 text -/

/-- An octet taken to a number and back is itself. -/
theorem toUInt8_toNat (octet : UInt8) : octet.toNat.toUInt8 = octet :=
  UInt8.eq_of_toBitVec_eq (by simp [UInt8.ofNat, UInt8.toNat])

/-- The text of an IPv4 address, part by part. -/
theorem Ipv4Addr.toString_data (addr : Ipv4Addr) :
    addr.toString.data = (decimal addr.a.toNat).data ++ '.' :: ((decimal addr.b.toNat).data ++
      '.' :: ((decimal addr.c.toNat).data ++ '.' :: (decimal addr.d.toNat).data)) := by
  simp [Ipv4Addr.toString]

/-- An IPv4 address written out is read back, up to the next non-digit. -/
theorem readIpv4_toString (addr : Ipv4Addr) {rest : List Char}
    (stop : ∀ c ∈ rest.head?, isAsciiDigit c = false) :
    readIpv4 (addr.toString.data ++ rest) = some (addr, rest) := by
  -- Each octet stops at the dot after it, and the last one where the rest begins.
  have dot : ∀ (text : List Char), ∀ c ∈ ('.' :: text).head?, isAsciiDigit c = false := by
    intro text c member
    simp only [List.head?_cons, Option.mem_def, Option.some.injEq] at member
    subst member
    decide
  simp only [Ipv4Addr.toString_data, List.append_assoc, List.cons_append, readIpv4,
    readSeparator_zero, readOctet_decimal (UInt8.toNat_lt_size _) (dot _), Option.bind_eq_bind,
    Option.some_bind, readSeparator_succ, readOctet_decimal (UInt8.toNat_lt_size _) stop,
    toUInt8_toNat]
  rfl

/-- The text of an IPv4 address reads back as the address. -/
theorem IpAddr.fromStr_toString_v4 (addr : Ipv4Addr) :
    IpAddr.fromStr (IpAddr.v4 addr).toString = some (.v4 addr) := by
  have read := @readIpv4_toString addr [] (by simp)
  rw [List.append_nil] at read
  simp [IpAddr.fromStr, IpAddr.toString, readIpAddr, read]

/-- IPv4 text holds digits and dots. -/
theorem Ipv4Addr.toString_chars (addr : Ipv4Addr) :
    ∀ c ∈ addr.toString.data, isAsciiDigit c = true ∨ c = '.' := by
  -- The text is four decimal numbers with dots between them.
  intro c member
  simp only [Ipv4Addr.toString_data, List.mem_append, List.mem_cons] at member
  rcases member with inA | dot | inB | dot | inC | dot | inD
  all_goals first | exact .inr ‹_› | exact .inl (decimal_digits _ c ‹_›)

/-! ## IPv6 text -/

/-- Every digit a number is written with stands for a value below the base. -/
theorem toDigitsCore_chars {base : Nat} (positive : 0 < base) : ∀ (fuel n : Nat),
    ∀ c ∈ Nat.toDigitsCore base fuel n [], ∃ k < base, c = Nat.digitChar k
  | 0, _ => by simp [Nat.toDigitsCore]
  | fuel + 1, n => by
    simp only [Nat.toDigitsCore]
    split
    · simp only [List.mem_singleton]
      exact fun c same => ⟨n % base, Nat.mod_lt n positive, same⟩
    · rw [toDigitsCore_acc]
      intro c member
      rcases List.mem_append.mp member with inner | last
      · exact toDigitsCore_chars positive fuel (n / base) c inner
      · exact ⟨n % base, Nat.mod_lt n positive, List.mem_singleton.mp last⟩

/-- Hexadecimal text holds letters and digits. -/
theorem lowerHex_chars (n : Nat) : ∀ c ∈ (lowerHex n).data, isAsciiAlphanumeric c = true := by
  intro c member
  obtain ⟨k, small, rfl⟩ := toDigitsCore_chars (by decide) _ n c member
  interval_cases k <;> decide

/-- Joining with `:` writes the accumulated text, then each part after a `:`. -/
theorem intercalateGo_data (acc : String) (parts : List String) :
    (String.intercalate.go acc ":" parts).data = acc.data ++ parts.flatMap (':' :: ·.data) := by
  induction parts generalizing acc with
  | nil => simp [String.intercalate.go]
  | cons part rest ih => simp [String.intercalate.go, ih]

/-- Groups joined with `:` hold the groups' characters and one colon between each two. -/
theorem hexGroups_facts (segments : List UInt16) :
    (∀ c ∈ (hexGroups segments).data, isAsciiAlphanumeric c = true ∨ c = ':') ∧
      segments.length - 1 ≤ (hexGroups segments).data.count ':' := by
  -- A group's digits hold no colon; each group after the first brings one.
  have hexNoColon : ∀ n, (lowerHex n).data.count ':' = 0 := fun n =>
    List.count_eq_zero.mpr fun colon => absurd (lowerHex_chars n ':' colon) (by decide)
  cases segments with
  | nil => simp [hexGroups, String.intercalate]
  | cons first rest =>
    simp only [hexGroups, List.map_cons, String.intercalate, intercalateGo_data]
    refine ⟨fun c member => ?_, ?_⟩
    · simp only [List.mem_append, List.mem_flatMap, List.mem_map, List.mem_cons] at member
      rcases member with inFirst | ⟨_, ⟨segment, -, rfl⟩, colon | inGroup⟩
      · exact .inl (lowerHex_chars _ c inFirst)
      · exact .inr colon
      · exact .inl (lowerHex_chars _ c inGroup)
    · simp only [List.count_append, hexNoColon, Nat.zero_add, List.length_cons, Nat.add_sub_cancel]
      induction rest with
      | nil => simp
      | cons segment rest ih =>
        simp only [List.map_cons, List.flatMap_cons, List.count_append, List.count_cons_self,
          hexNoColon, List.length_cons]
        omega

/-- Compressed groups of eight segments hold letters, digits and colons, two colons at least. -/
theorem compressedHex_facts {segments : List UInt16} (eight : segments.length = 8) :
    (∀ c ∈ (compressedHex segments).data, isAsciiAlphanumeric c = true ∨ c = ':') ∧
      2 ≤ (compressedHex segments).data.count ':' := by
  -- With a run written `::` the two colons are there; without, the eight groups have seven.
  unfold compressedHex
  split
  split_ifs
  · refine ⟨fun c member => ?_, by simp [List.count_append]; omega⟩
    simp only [String.data_append, List.mem_append] at member
    rcases member with (inBefore | colons) | inAfter
    · exact (hexGroups_facts _).1 c inBefore
    · exact .inr (by simpa using colons)
    · exact (hexGroups_facts _).1 c inAfter
  · obtain ⟨chars, count⟩ := hexGroups_facts segments
    exact ⟨chars, by omega⟩

/-- IPv6 text holds letters, digits, colons and dots, and two colons at least. -/
theorem Ipv6Addr.toString_facts (addr : Ipv6Addr) :
    (∀ c ∈ addr.toString.data, isAsciiAlphanumeric c = true ∨ c = ':' ∨ c = '.') ∧
      2 ≤ addr.toString.data.count ':' := by
  unfold Ipv6Addr.toString
  split
  · -- An IPv4-mapped address: `::ffff:` and IPv4 text.
    refine ⟨fun c member => ?_, by simp [List.count_append]⟩
    simp only [String.data_append, List.mem_append] at member
    rcases member with lead | ipv4
    · simp only [show "::ffff:".data = [':', ':', 'f', 'f', 'f', 'f', ':'] from rfl, List.mem_cons,
        List.mem_singleton] at lead
      rcases lead with rfl | rfl | rfl | rfl | rfl | rfl | rfl | nothing
      all_goals first | decide | cases nothing
    · rcases Ipv4Addr.toString_chars _ c ipv4 with digit | dot
      · exact .inl (by simp [isAsciiAlphanumeric, digit])
      · exact .inr (.inr dot)
  · obtain ⟨chars, count⟩ := compressedHex_facts addr.length_eq
    exact ⟨fun c member => (chars c member).elim .inl (.inr ∘ .inl), count⟩

/-- Text with two colons splits at its first colon, with another colon after it. -/
theorem split_two_colons {text : List Char} (two : 2 ≤ text.count ':') :
    ∃ before rest, text = before ++ ':' :: rest ∧ ':' ∉ before ∧ ':' ∈ rest := by
  -- Before the first colon there is none, so both colons are in what follows.
  have whole := List.takeWhile_append_dropWhile (· ≠ ':') text
  have noColon : ':' ∉ text.takeWhile (· ≠ ':') := fun member => by
    simpa using List.mem_takeWhile_imp member
  have counted : 2 ≤ (text.dropWhile (· ≠ ':')).count ':' := by
    rw [← whole, List.count_append, List.count_eq_zero.mpr noColon, Nat.zero_add] at two
    exact two
  cases after : text.dropWhile (· ≠ ':') with
  | nil =>
    rw [after] at counted
    cases counted
  | cons c rest =>
    have first := List.head_dropWhile_not (· ≠ ':') text (by rw [after]; exact List.cons_ne_nil _ _)
    simp only [after, List.head_cons, decide_eq_false_iff_not, not_not] at first
    subst first
    rw [after, List.count_cons_self] at counted
    exact ⟨text.takeWhile (· ≠ ':'), rest, by rw [← after, whole], noColon,
      List.count_pos_iff.mp (by omega)⟩

/-! ## Text that names no IP address -/

/-- What is left after a number is a suffix of the text. -/
theorem readNumber_suffix {radix maxDigits bound : Nat} {allow : Bool} {text rest : List Char}
    {value : Nat} (read : readNumber radix maxDigits bound allow text = some (value, rest)) :
    rest <:+ text := by
  unfold readNumber at read
  dsimp only at read
  split at read
  · cases read
  · cases read
    exact List.dropWhile_suffix _

/-- What is left after an item is a suffix of the text, and a later item consumed its separator. -/
theorem readSeparator_suffix {α : Type} {sep : Char} {index : Nat}
    {inner : List Char → Option (α × List Char)}
    (innerSuffix : ∀ {text rest : List Char} {value : α}, inner text = some (value, rest) → rest <:+ text)
    {text rest : List Char} {value : α} (read : readSeparator sep index inner text = some (value, rest)) :
    rest <:+ text ∧ (index ≠ 0 → sep ∈ text) := by
  cases text with
  | nil =>
    by_cases first : index = 0
    · simp only [readSeparator, first, if_true] at read
      exact ⟨innerSuffix read, fun later => absurd first later⟩
    · simp [readSeparator, first] at read
  | cons c after =>
    simp only [readSeparator] at read
    split at read
    · exact ⟨innerSuffix read, fun later => absurd ‹index = 0› later⟩
    · split at read
      · exact ⟨(innerSuffix read).trans (List.suffix_cons c after), fun _ => by simp [*]⟩
      · cases read

/-- An IPv4 address read off the text leaves a suffix, and the text has a dot. -/
theorem readIpv4_suffix {text rest : List Char} {addr : Ipv4Addr}
    (read : readIpv4 text = some (addr, rest)) : rest <:+ text ∧ '.' ∈ text := by
  -- Four octets in turn; the second one's separator is the dot.
  have octet := fun {text rest : List Char} {value : Nat} (h : readOctet text = some (value, rest)) =>
    readNumber_suffix h
  simp only [readIpv4, Option.bind_eq_bind, Option.bind_eq_some, Prod.exists] at read
  obtain ⟨a, t1, r1, b, t2, r2, c, t3, r3, d, t4, r4, done⟩ := read
  simp only [pure, Option.some.injEq, Prod.mk.injEq] at done
  obtain ⟨s1, -⟩ := readSeparator_suffix octet r1
  obtain ⟨s2, dot⟩ := readSeparator_suffix octet r2
  obtain ⟨s3, -⟩ := readSeparator_suffix octet r3
  obtain ⟨s4, -⟩ := readSeparator_suffix octet r4
  exact ⟨done.2 ▸ s4.trans (s3.trans (s2.trans s1)), s1.mem (dot (by decide))⟩

/--
Groups read off the text leave a suffix, and the text has a colon when a separator was
read: for a group after the first, or for more than the two an IPv4 address stands for.
-/
theorem readGroups_suffix : ∀ (slots index : Nat) (text : List Char),
    (readGroups slots index text).2.2 <:+ text ∧
    ((index ≠ 0 ∧ (readGroups slots index text).1 ≠ []) ∨ 2 < (readGroups slots index text).1.length →
      ':' ∈ text)
  | 0, _, text => by simp [readGroups]
  | slots + 1, index, text => by
    have ipv4 := fun {text rest : List Char} {addr : Ipv4Addr} (h : readIpv4 text = some (addr, rest)) =>
      (readIpv4_suffix h).1
    have group := fun {text rest : List Char} {value : Nat} (h : readHexGroup text = some (value, rest)) =>
      readNumber_suffix h
    simp only [readGroups]
    split
    · -- An IPv4 address fills the last two slots.
      rename_i addr rest read
      split at read
      · obtain ⟨suffix, colon⟩ := readSeparator_suffix ipv4 read
        refine ⟨suffix, fun many => colon ?_⟩
        rcases many with ⟨later, -⟩ | many
        · exact later
        · simp [Ipv4Addr.segments] at many
      · cases read
    · split
      · -- A hexadecimal group, then the groups after it.
        rename_i value rest read
        obtain ⟨suffix, colon⟩ := readSeparator_suffix group read
        obtain ⟨restSuffix, restColon⟩ := readGroups_suffix slots (index + 1) rest
        refine ⟨restSuffix.trans suffix, fun many => ?_⟩
        by_cases first : index = 0
        · rcases many with ⟨later, -⟩ | many
          · exact absurd first later
          · have tail : (readGroups slots (index + 1) rest).1 ≠ [] := by
              intro empty
              simp [empty] at many
            exact suffix.mem (restColon (.inl ⟨by omega, tail⟩))
        · exact colon first
      · simp

/-- An IPv6 address read off the text needs a colon in it. -/
theorem readIpv6_colon {text rest : List Char} {addr : Ipv6Addr}
    (read : readIpv6 text = some (addr, rest)) : ':' ∈ text := by
  -- Eight groups need separators; fewer need the `::` that follows them.
  obtain ⟨suffix, colon⟩ := readGroups_suffix 8 0 text
  unfold readIpv6 at read
  revert suffix colon read
  generalize readGroups 8 0 text = groups
  obtain ⟨head, flag, after⟩ := groups
  intro read suffix colon
  dsimp only at read suffix colon
  split_ifs at read with full
  · exact colon (.inr (by omega))
  · split at read
    · exact suffix.mem (by simp)
    · cases read

/-- A text with neither a dot nor a colon names no IP address. -/
theorem IpAddr.fromStr_eq_none {text : String} (noDot : '.' ∉ text.data) (noColon : ':' ∉ text.data) :
    IpAddr.fromStr text = none := by
  unfold IpAddr.fromStr readIpAddr
  cases v4 : readIpv4 text.data with
  | some found => exact absurd (readIpv4_suffix v4).2 noDot
  | none =>
    cases v6 : readIpv6 text.data with
    | some found => exact absurd (readIpv6_colon v6) noColon
    | none => simp [v4, v6]

/-- At a bracket no group is read: the bracket is no digit in any radix. -/
theorem readGroups_bracket (slots : Nat) (rest : List Char) :
    readGroups slots 0 ('[' :: rest) = ([], false, '[' :: rest) := by
  have noDigit : ∀ radix, isDigitIn radix '[' = false := fun radix => by simp [isDigitIn, digitValue]
  cases slots <;> simp [readGroups, readIpv4, readOctet, readHexGroup, readNumber, noDigit]

/-- A text that starts with a bracket names no IP address. -/
theorem IpAddr.fromStr_bracket {text : String} (bracket : text.data.head? = some '[') :
    IpAddr.fromStr text = none := by
  obtain ⟨rest, front⟩ : ∃ rest, text.data = '[' :: rest := by
    cases data : text.data with
    | nil => simp [data] at bracket
    | cons c rest =>
      simp only [data, List.head?_cons, Option.some.injEq] at bracket
      exact ⟨rest, by rw [bracket]⟩
  simp [IpAddr.fromStr, readIpAddr, String.toList, front, readIpv4, readOctet, readNumber, readIpv6,
    readGroups_bracket, isDigitIn, digitValue]

/-- A text without a colon names no IPv6 address. -/
theorem IpAddr.fromStr_ne_v6 {text : String} (noColon : ':' ∉ text.data) (addr : Ipv6Addr) :
    IpAddr.fromStr text ≠ some (.v6 addr) := by
  -- An IPv4 reading gives an IPv4 address, and an IPv6 reading needs a colon.
  unfold IpAddr.fromStr readIpAddr
  cases v4 : readIpv4 text.toList with
  | some found =>
    obtain ⟨_, rest⟩ := found
    cases rest <;> simp [v4]
  | none =>
    cases v6 : readIpv6 text.toList with
    | some found => exact absurd (readIpv6_colon v6) noColon
    | none => simp [v4, v6]

/-! ## Network addresses -/

/-- The text of an IPv4 network address reads back as the address. -/
theorem InetAddr.fromStr_toString_ipv4 [OnionText] (addr : Ipv4Addr) :
    InetAddr.fromStr (InetAddr.ipv4 addr).toString = .ok (.ipv4 addr) := by
  have read := IpAddr.fromStr_toString_v4 addr
  simp only [IpAddr.toString] at read
  simp [InetAddr.fromStr, InetAddr.toString, read, InetAddr.ofIpAddr]

/-- A lawful onion text reads back through the network-address reader: it is no IP address and has no bracket. -/
theorem InetAddr.fromStr_toString_tor [OnionText] [LawfulOnionText] (addr : OnionAddr) :
    InetAddr.fromStr (InetAddr.tor addr).toString = .ok (.tor addr) := by
  have notBracketed : bracketedIpv6 (OnionText.toString addr).data = none := by
    cases data : (OnionText.toString addr).data with
    | nil => rfl
    | cons c rest =>
      have letter := LawfulOnionText.toString_chars addr c (by simp [String.toList, data])
      have : c ≠ '[' := by rintro rfl; exact absurd letter (by decide)
      simp [bracketedIpv6, this]
  simp only [InetAddr.fromStr, InetAddr.toString, LawfulOnionText.toString_not_ip addr]
  rw [show bracketedIpv6 (OnionText.toString addr).toList = none from notBracketed,
    LawfulOnionText.fromStr_toString addr]
  rfl

/-- The bare onion text of the spec's grammar is lawful: base32 letters are no dot, colon or bracket. -/
instance : LawfulOnionText where
  fromStr_toString addr := dif_pos addr.valid
  toString_ne_nil addr empty := by
    have length := addr.valid.1
    rw [show addr.text.toList = [] from empty] at length
    exact absurd length (by decide)
  toString_chars addr c member := .inl <| by
    have base32 := addr.valid.2 c member
    simp only [isBase32, isAsciiAlphanumeric, isAsciiAlpha, isAsciiDigit, Bool.or_eq_true,
      Bool.and_eq_true, decide_eq_true_eq] at base32 ⊢
    omega
  toString_not_ip addr := by
    have letters : ∀ c ∈ addr.text.data, c ≠ '.' ∧ c ≠ ':' := fun c member => by
      have base32 := addr.valid.2 c member
      constructor <;> rintro rfl <;> exact absurd base32 (by decide)
    exact IpAddr.fromStr_eq_none (fun dot => (letters _ dot).1 rfl) (fun colon => (letters _ colon).2 rfl)

end Internet2
