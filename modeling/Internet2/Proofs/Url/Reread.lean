import Internet2.Proofs.Url.Parse

/-!
The URL parser reads back what it writes. A path read segment by segment is in normal form: its
segments are encoded, hold no `/` and are no dot segments, so reading it again gives it back. An
opaque path is encoded once and for all. A path that starts with `//` is read, written after a
scheme, as an authority. A host the parser writes is bracketed or holds no colon.
-/

namespace Internet2

namespace Url

/-! ## Escapes -/

/-- The characters an escape is written with: `%` and the upper-case hexadecimal digits. -/
def escapeChars : List Char := "%0123456789ABCDEF".toList

/-- Each digit of a half byte is an escape character. -/
theorem upperHexDigit_escape {n : Nat} (small : n < 16) : upperHexDigit n ∈ escapeChars := by
  -- Sixteen digits, each found in the list.
  rcases n with _ | _ | _ | _ | _ | _ | _ | _ | _ | _ | _ | _ | _ | _ | _ | _ | n
  all_goals first | decide | omega

/-- Escape characters are ASCII, outside the path and control sets, and end no part of a URL. -/
theorem escapeChars_facts : ∀ d ∈ escapeChars, d.toNat < 128 ∧ pathSet d = false ∧ controls d = false ∧
    endsPath d = false ∧ d ≠ '/' ∧ d ≠ ':' := by
  decide

/-- A character encoding writes is the character, kept, or a character of an escape. -/
theorem mem_encodeChar {set : Char → Bool} {c d : Char} (member : d ∈ encodeChar set c) :
    (d = c ∧ c.toNat < 128 ∧ set c = false) ∨ d ∈ escapeChars := by
  unfold encodeChar at member
  split at member
  · rename_i keep
    simp only [Bool.and_eq_true, decide_eq_true_eq, Bool.not_eq_true'] at keep
    exact .inl ⟨List.mem_singleton.mp member, keep⟩
  · -- Each byte is written as `%` and the digits of its two halves.
    obtain ⟨byte, -, inByte⟩ := List.mem_flatMap.mp member
    have high : byte.toNat / 16 < 16 := by
      have := byte.toNat_lt
      omega
    simp only [percentEncodeByte, List.mem_cons, List.mem_singleton, List.not_mem_nil, or_false] at inByte
    rcases inByte with rfl | rfl | rfl
    exacts [.inr (by decide), .inr (upperHexDigit_escape high),
      .inr (upperHexDigit_escape (Nat.mod_lt _ (by decide)))]

/-- A character of an encoded text is a kept character of the text or a character of an escape. -/
theorem mem_percentEncode {set : Char → Bool} {text : List Char} {d : Char}
    (member : d ∈ percentEncode set text) : (d ∈ text ∧ d.toNat < 128 ∧ set d = false) ∨ d ∈ escapeChars := by
  obtain ⟨c, inText, inCode⟩ := List.mem_flatMap.mp member
  rcases mem_encodeChar inCode with ⟨rfl, kept⟩ | escape
  exacts [.inl ⟨inText, kept⟩, .inr escape]

/-- Encoding twice, with a set that keeps the escape characters, encodes once. -/
theorem percentEncode_percentEncode {set : Char → Bool} (escapes : ∀ d ∈ escapeChars, set d = false)
    (text : List Char) : percentEncode set (percentEncode set text) = percentEncode set text :=
  percentEncode_keep fun d member => by
    rcases mem_percentEncode member with ⟨-, kept⟩ | escape
    exacts [kept, ⟨(escapeChars_facts d escape).1, escapes d escape⟩]

/-- Encoding a text that does not start with `/` gives one that does not. -/
theorem percentEncode_head {set : Char → Bool} {text : List Char} (relative : text.head? ≠ some '/') :
    (percentEncode set text).head? ≠ some '/' := by
  -- The first character written is the first one read or the `%` of its escape.
  cases text with
  | nil => simp
  | cons c rest =>
    have written : encodeChar set c ≠ [] := by
      simpa [percentEncode] using @percentEncode_ne_nil set [c] (List.cons_ne_nil c [])
    obtain ⟨first, more, front⟩ := List.exists_cons_of_ne_nil written
    intro slash
    simp only [percentEncode, List.flatMap_cons, front, List.cons_append, List.head?_cons,
      Option.some.injEq] at slash
    subst slash
    rcases mem_encodeChar (front ▸ List.mem_cons_self _ _) with ⟨same, -⟩ | escape
    · exact relative (by rw [← same]; rfl)
    · exact absurd rfl (escapeChars_facts _ escape).2.2.2.2.1

/-! ## Pieces of a split -/

/-- No piece of a text split at a character holds that character. -/
theorem not_mem_of_mem_splitOn {sep : Char} :
    ∀ {text piece : List Char}, piece ∈ text.splitOn sep → sep ∉ piece
  | [], piece, member => by
    rw [List.splitOn_nil, List.mem_singleton] at member
    simp [member]
  | c :: rest, piece, member => by
    have inRest : ∀ {piece}, piece ∈ rest.splitOnP (· == sep) → sep ∉ piece := not_mem_of_mem_splitOn
    unfold List.splitOn at member
    rw [List.splitOnP_cons] at member
    split_ifs at member with isSep
    · -- The separator starts a new, empty piece.
      rcases List.mem_cons.mp member with rfl | later
      exacts [List.not_mem_nil sep, inRest later]
    · -- Any other character joins the first piece of the rest.
      obtain ⟨first, others, split⟩ := List.exists_cons_of_ne_nil (List.splitOnP_ne_nil (· == sep) rest)
      rw [split, List.modifyHead_cons] at member
      rcases List.mem_cons.mp member with rfl | later
      · simp only [List.mem_cons, not_or]
        exact ⟨fun same => isSep (by simp [same]), inRest (split ▸ List.mem_cons_self _ _)⟩
      · exact inRest (split ▸ List.mem_cons_of_mem _ later)

/-! ## The path state -/

/-- A segment the path state holds: encoding keeps it, it holds no `/`, and it is no dot segment. -/
structure SettledSegment (segment : List Char) : Prop where
  /-- Every character is ASCII outside the path set. -/
  encoded : ∀ c ∈ segment, c.toNat < 128 ∧ pathSet c = false
  /-- No `/` is left inside a segment. -/
  noSlash : '/' ∉ segment
  /-- Not `.` or `%2e`. -/
  notSingleDot : isSingleDot segment = false
  /-- Not `..` or one of its encoded forms. -/
  notDoubleDot : isDoubleDot segment = false

/-- A settled segment is encoded as itself and is no dot segment. -/
theorem SettledSegment.kept {segment : List Char} (settled : SettledSegment segment) :
    percentEncode pathSet segment = segment ∧ isSingleDot segment = false ∧ isDoubleDot segment = false :=
  ⟨percentEncode_keep settled.encoded, settled.notSingleDot, settled.notDoubleDot⟩

/-- The empty segment a trailing dot segment leaves is settled. -/
theorem settledSegment_nil : SettledSegment [] := ⟨nofun, nofun, by decide, by decide⟩

/-- A piece without `/`, encoded, is settled unless it is a dot segment. -/
theorem settledSegment_encode {piece : List Char} (noSlash : '/' ∉ piece)
    (notSingle : isSingleDot (percentEncode pathSet piece) = false)
    (notDouble : isDoubleDot (percentEncode pathSet piece) = false) :
    SettledSegment (percentEncode pathSet piece) where
  encoded d member := by
    rcases mem_percentEncode member with ⟨-, kept⟩ | escape
    exacts [kept, ⟨(escapeChars_facts d escape).1, (escapeChars_facts d escape).2.1⟩]
  noSlash member := by
    rcases mem_percentEncode member with ⟨inPiece, -⟩ | escape
    exacts [noSlash inPiece, (escapeChars_facts _ escape).2.2.2.2.1 rfl]
  notSingleDot := notSingle
  notDoubleDot := notDouble

/-- One step of the path state keeps its segments settled. -/
theorem pathStep_settled {path : List (List Char)} {piece : List Char} (last : Bool)
    (settled : ∀ s ∈ path, SettledSegment s) (noSlash : '/' ∉ piece) :
    ∀ s ∈ pathStep path (percentEncode pathSet piece) last, SettledSegment s := by
  -- A dot segment drops a segment or adds an empty one; any other piece is appended encoded.
  have shorter : ∀ s ∈ path.dropLast, SettledSegment s := fun s member => settled s (List.dropLast_subset _ member)
  have withEmpty : ∀ {path : List (List Char)}, (∀ s ∈ path, SettledSegment s) →
      ∀ s ∈ path ++ [[]], SettledSegment s := fun before s member => by
    rcases List.mem_append.mp member with inPath | empty
    exacts [before s inPath, List.mem_singleton.mp empty ▸ settledSegment_nil]
  unfold pathStep
  split_ifs with double _ single _
  · exact withEmpty shorter
  · exact shorter
  · exact withEmpty settled
  · exact settled
  · simp only [Bool.not_eq_true] at double single
    intro s member
    rcases List.mem_append.mp member with inPath | appended
    exacts [settled s inPath, List.mem_singleton.mp appended ▸ settledSegment_encode noSlash single double]

/-- The whole run of the path state keeps its segments settled. -/
theorem pathSegments_settled : ∀ (path pieces : List (List Char)), (∀ s ∈ path, SettledSegment s) →
    (∀ piece ∈ pieces, '/' ∉ piece) → ∀ s ∈ pathSegments path pieces, SettledSegment s
  | _, [], settled, _ => settled
  | _, [piece], settled, noSlash => pathStep_settled true settled (noSlash piece (List.mem_singleton_self _))
  | _, piece :: next :: rest, settled, noSlash =>
    pathSegments_settled _ (next :: rest) (pathStep_settled false settled (noSlash piece (List.mem_cons_self _ _)))
      fun other member => noSlash other (List.mem_cons_of_mem _ member)

/-- The path state ends with a segment whenever it reads one: the last step always leaves one. -/
theorem pathSegments_ne_nil : ∀ (path pieces : List (List Char)), pieces ≠ [] → pathSegments path pieces ≠ []
  | _, [], nonEmpty => absurd rfl nonEmpty
  | path, [piece], _ => by
    simp only [pathSegments, pathStep]
    split_ifs <;> simp
  | _, _ :: next :: rest, _ => pathSegments_ne_nil _ (next :: rest) (List.cons_ne_nil _ _)

/-! ## Paths in normal form -/

/-- Path text after a first `/` whose segments are all settled. -/
def SettledText (text : List Char) : Prop := ∀ piece ∈ text.splitOn '/', SettledSegment piece

/-- Settled text after a first `/` is read back as the path. -/
theorem parsePath_settled {text : List Char} (settled : SettledText text) : parsePath text = '/' :: text := by
  rw [parsePath, pathSegments_kept [] _ fun piece member => (settled piece member).kept, List.nil_append,
    serializePath_splitOn]

/-- Every path read segment by segment is a `/` and settled text. -/
theorem parsePath_eq (text : List Char) : ∃ written, SettledText written ∧ parsePath text = '/' :: written := by
  -- The settled segments are joined by `/`, and splitting that text at `/` gives them back.
  have settled := pathSegments_settled [] (text.splitOn '/') nofun fun _ member => not_mem_of_mem_splitOn member
  have nonEmpty := pathSegments_ne_nil [] (text.splitOn '/') (List.splitOnP_ne_nil _ _)
  refine ⟨['/'].intercalate (pathSegments [] (text.splitOn '/')), ?_, by rw [parsePath, serializePath_eq nonEmpty]⟩
  rw [SettledText, List.splitOn_intercalate _ '/' (fun s member => (settled s member).noSlash) nonEmpty]
  exact settled

/-- Settled text after one more `/` is settled: the `/` only adds an empty first segment. -/
theorem SettledText.of_slash {text : List Char} (settled : SettledText ('/' :: text)) : SettledText text :=
  fun piece member => settled piece (by
    unfold List.splitOn
    rw [List.splitOnP_cons, if_pos (beq_self_eq_true '/')]
    exact List.mem_cons_of_mem _ member)

/-- Every character of settled text is a `/` or is ASCII outside the path set. -/
theorem SettledText.chars {text : List Char} (settled : SettledText text) :
    ∀ c ∈ text, c = '/' ∨ (c.toNat < 128 ∧ pathSet c = false) := by
  -- Each character stands in a segment or is the `/` between two of them.
  intro c member
  have written : c ∈ serializePath (text.splitOn '/') := by
    rw [serializePath_splitOn]
    exact List.mem_cons_of_mem _ member
  obtain ⟨piece, inSplit, inPiece⟩ := List.mem_flatMap.mp written
  rcases List.mem_cons.mp inPiece with slash | inner
  exacts [.inl slash, .inr ((settled piece inSplit).encoded c inner)]

/-- Tabs and newlines are in the control set. -/
theorem isTabOrNewline_of_controls {c : Char} (outside : controls c = false) : isTabOrNewline c = false := by
  simp only [controls, Bool.or_eq_false_iff, decide_eq_false_iff_not] at outside
  simp only [isTabOrNewline, Bool.or_eq_false_iff, decide_eq_false_iff_not]
  refine ⟨⟨?_, ?_⟩, ?_⟩ <;> rintro rfl <;> exact outside.1 (by decide)

/-- A character outside the path set ends no path and is no tab or newline. -/
theorem pathSet_facts {c : Char} (outside : pathSet c = false) :
    endsPath c = false ∧ isTabOrNewline c = false := by
  simp only [pathSet, fragmentSet, Bool.or_eq_false_iff] at outside
  obtain ⟨⟨notControl, -⟩, others⟩ := outside
  refine ⟨?_, isTabOrNewline_of_controls notControl⟩
  simp only [endsPath, Bool.or_eq_false_iff, decide_eq_false_iff_not]
  constructor <;> rintro rfl <;> exact absurd others (by decide)

/-! ## The paths the parser writes -/

/-- The paths the parser writes without a host: a path read segment by segment, or an opaque path. -/
inductive ParsedPath : List Char → Prop
  /-- The path of a URL whose text after the scheme starts with `/`. -/
  | segments (text : List Char) : ParsedPath (parsePath text)
  /-- An opaque path: text that starts with no `/` and ends no path, encoded with the control set. -/
  | unrooted (text : List Char) (relative : text.head? ≠ some '/') (inPath : ∀ c ∈ text, endsPath c = false) :
      ParsedPath (percentEncode controls text)

/-- The non-special parser writes a path of one of the two kinds. -/
theorem parseNonSpecial_parsedPath {scheme : String} {rest : List Char} {url : Url}
    (parsed : parseNonSpecial scheme rest = some url) : ParsedPath url.path.data := by
  unfold parseNonSpecial at parsed
  split at parsed
  · -- The authority form: the path after the authority, or an empty one.
    simp only [Option.bind_eq_bind, Option.bind_eq_some] at parsed
    obtain ⟨parts, -, built⟩ := parsed
    cases built
    show ParsedPath (match _ with | '/' :: segments => parsePath segments | _ => [])
    split
    · exact .segments _
    · exact .unrooted [] nofun nofun
  · cases parsed
    exact .segments _
  · -- An opaque path: the text up to the query, which starts with no `/`.
    rename_i notAuthority notRooted
    cases parsed
    refine .unrooted _ ?_ fun c member => by simpa using List.mem_takeWhile_imp member
    cases rest with
    | nil => simp
    | cons c more =>
      have notSlash : c ≠ '/' := fun same => notRooted more (same ▸ rfl)
      simp only [List.takeWhile_cons]
      split <;> simp [notSlash]

/-- Every URL the parser reads has a path of one of the two kinds. -/
theorem parse_parsedPath {input : String} {url : Url} (parsed : parse input = some url) :
    ParsedPath url.path.data := by
  simp [parse, Option.bind_eq_some] at parsed
  obtain ⟨scheme, rest, -, -, result⟩ := parsed
  exact parseNonSpecial_parsedPath result

/-- No character of a written path ends a path or is dropped by preprocessing. -/
theorem ParsedPath.chars {path : List Char} (parsed : ParsedPath path) :
    ∀ c ∈ path, endsPath c = false ∧ isTabOrNewline c = false := by
  cases parsed with
  | segments text =>
    obtain ⟨written, settled, read⟩ := parsePath_eq text
    rw [read]
    intro c member
    rcases List.mem_cons.mp member with rfl | inner
    · exact ⟨rfl, rfl⟩
    · rcases settled.chars c inner with rfl | ⟨-, outside⟩
      exacts [⟨rfl, rfl⟩, pathSet_facts outside]
  | unrooted text _ inPath =>
    intro c member
    rcases mem_percentEncode member with ⟨inText, -, outside⟩ | escape
    · exact ⟨inPath c inText, isTabOrNewline_of_controls outside⟩
    · have facts := escapeChars_facts c escape
      exact ⟨facts.2.2.2.1, isTabOrNewline_of_controls facts.2.2.1⟩

/-- A written path that starts with `/` was read segment by segment, and settled text follows its `/`. -/
theorem ParsedPath.settled_of_slash {rest : List Char} (parsed : ParsedPath ('/' :: rest)) : SettledText rest := by
  generalize rooted : '/' :: rest = path at parsed
  cases parsed with
  | segments text =>
    obtain ⟨written, settled, read⟩ := parsePath_eq text
    rw [read, List.cons.injEq] at rooted
    exact rooted.2 ▸ settled
  | unrooted text relative _ => exact absurd (by rw [← rooted]; rfl) (percentEncode_head relative)

/-- A path the parser writes is read back as itself, unless it is empty or starts with `//`. -/
theorem ParsedPath.kept {path : List Char} (parsed : ParsedPath path) (nonEmpty : path ≠ [])
    (notSlashes : ∀ rest, path ≠ '/' :: '/' :: rest) : KeptPath path where
  nonEmpty := nonEmpty
  chars := parsed.chars
  segments rest shape := by
    -- The text after the first `/` is settled, and holds no second `/` in front.
    subst shape
    refine ⟨fun slash => ?_, parsePath_settled parsed.settled_of_slash⟩
    obtain ⟨more, rfl⟩ : ∃ more, rest = '/' :: more := by
      cases rest with
      | nil => cases slash
      | cons c more => exact ⟨more, by simpa using slash⟩
    exact notSlashes more rfl
  unrooted notRooted := by
    cases parsed with
    | segments text =>
      obtain ⟨written, -, read⟩ := parsePath_eq text
      exact absurd (by rw [read]; rfl) notRooted
    | unrooted text _ _ =>
      exact percentEncode_percentEncode (fun d escape => (escapeChars_facts d escape).2.2.1) text

/-! ## Paths that start with `//` -/

/--
What a read authority is made of: the host and port after the last `@`, or the whole authority
with an empty username when there is none, and a host in front of any port.
-/
theorem parseAuthority_some {authority : List Char} {username password host : String} {port : Option UInt16}
    (read : parseAuthority authority = some (username, password, host, port)) :
    ∃ hostPort, (splitLast '@' authority = none ∧ hostPort = authority ∧ username = "" ∨
        ∃ userinfo, splitLast '@' authority = some (userinfo, hostPort) ∧ hostPort ≠ []) ∧
      ((splitHost false hostPort).2 ≠ [] → (splitHost false hostPort).1 ≠ []) ∧
      parseHost (splitHost false hostPort).1 = some host := by
  unfold parseAuthority at read
  cases split : splitLast '@' authority with
  | none =>
    simp [split, Option.bind_eq_some] at read
    obtain ⟨guard, _, found, _, -, empty, -, rfl, -⟩ := read
    exact ⟨authority, .inl ⟨rfl, rfl, empty.symm⟩, guard, found⟩
  | some parts =>
    simp [split, Option.bind_eq_some] at read
    obtain ⟨nonEmpty, guard, _, found, _, -, -, -, rfl, -⟩ := read
    exact ⟨parts.2, .inr ⟨parts.1, rfl, nonEmpty⟩, guard, found⟩

/-- An authority with an empty host is empty: a userinfo or a port needs a host in front. -/
theorem parseAuthority_empty_host {authority : List Char} {username password : String} {port : Option UInt16}
    (read : parseAuthority authority = some (username, password, "", port)) : authority = [] := by
  obtain ⟨hostPort, shape, guard, found⟩ := parseAuthority_some read
  -- The empty host is read from empty text, with no port after it.
  have noHost : (splitHost false hostPort).1 = [] := by
    by_contra nonEmpty
    exact parseHost_ne_empty nonEmpty found rfl
  have noPort : (splitHost false hostPort).2 = [] := by
    by_contra nonEmpty
    exact guard nonEmpty noHost
  have empty : hostPort = [] := by
    rw [← splitHost_append_eq false hostPort, noHost, noPort, List.nil_append]
  rcases shape with ⟨-, rfl, -⟩ | ⟨_, -, nonEmpty⟩
  exacts [empty, absurd empty nonEmpty]

/--
Settled text after `//` is read as an empty authority and a path after it: without a host, the
path read has lost the first two characters.
-/
theorem parseNonSpecial_slashes {scheme : String} {rest query : List Char} {url : Url}
    (settled : SettledText ('/' :: rest)) (inPath : ∀ c ∈ rest, endsPath c = false)
    (read : parseNonSpecial scheme ('/' :: '/' :: (rest ++ '?' :: query)) = some url)
    (noHost : url.hostStr = none) : url.path.data ≠ '/' :: '/' :: rest := by
  simp only [parseNonSpecial, Option.bind_eq_bind, Option.bind_eq_some] at read
  obtain ⟨⟨username, password, host, port⟩, authority, built⟩ := read
  cases built
  -- No host is an empty host, so the authority is empty and the path is all the rest.
  obtain rfl : host = "" := by
    simp only [hostStr] at noHost
    split at noHost
    · rename_i same
      cases same
      rfl
    · cases noHost
  have noAuthority := parseAuthority_empty_host authority
  have whole : (rest ++ '?' :: query).dropWhile (fun c => !endsAuthority c) = rest ++ '?' :: query := by
    have split := List.takeWhile_append_dropWhile (fun c => !endsAuthority c) (rest ++ '?' :: query)
    rwa [noAuthority, List.nil_append] at split
  obtain ⟨taken, -⟩ := splitPath_query query inPath
  show (match _ with | '/' :: segments => parsePath segments | _ => []) ≠ _
  rw [whole, taken]
  split
  · -- The path after the third `/` is settled, so it is read as it is: two characters short.
    rw [parsePath_settled settled.of_slash.of_slash]
    intro same
    have := congrArg List.length same
    simp at this
  · exact (List.cons_ne_nil _ _).symm

/--
A written path that starts with `//`, after a scheme and with a query after it, is read with an
authority: a URL read from it without a host has another path.
-/
theorem parse_slashes {input scheme : String} {rest query : List Char} {url : Url} (plain : PlainScheme scheme)
    (shape : input.data = scheme.data ++ ':' :: ('/' :: '/' :: rest ++ '?' :: query))
    (parsed : ParsedPath ('/' :: '/' :: rest)) (queryPlain : ∀ c ∈ query, isQueryChar c = true)
    (read : parse input = some url) (noHost : url.hostStr = none) : url.path.data ≠ '/' :: '/' :: rest := by
  rw [parse_path_text plain shape (fun c member => (parsed.chars c member).2) queryPlain] at read
  exact parseNonSpecial_slashes parsed.settled_of_slash
    (fun c member => (parsed.chars c (List.mem_cons_of_mem _ (List.mem_cons_of_mem _ member))).1) read noHost

/-! ## Hosts -/

/-- A host the parser reads is bracketed, or holds no colon. -/
theorem parseHost_shape {text : List Char} {host : String} (read : parseHost text = some host) :
    host.data.head? = some '[' ∨ ':' ∉ host.data := by
  unfold parseHost at read
  split at read
  · -- A bracketed address is written between brackets.
    split at read
    · split at read
      · cases read
        exact .inl rfl
      · cases read
    · cases read
  · -- An opaque host holds no forbidden code point, and encoding adds no colon.
    split at read
    · cases read
    · rename_i allowed
      cases read
      refine .inr fun colon => ?_
      rcases mem_percentEncode colon with ⟨inText, -⟩ | escape
      · exact allowed (List.any_eq_true.mpr ⟨':', inText, by decide⟩)
      · exact (escapeChars_facts _ escape).2.2.2.2.2 rfl

/-- The host of an authority is a host the host parser reads. -/
theorem parseAuthority_host {authority : List Char} {username password host : String} {port : Option UInt16}
    (read : parseAuthority authority = some (username, password, host, port)) :
    ∃ text, parseHost text = some host :=
  have ⟨_, _, _, found⟩ := parseAuthority_some read
  ⟨_, found⟩

/-- The host of a URL is a host the host parser reads: only the authority form has one. -/
theorem parse_host {input : String} {url : Url} {host : String} (parsed : parse input = some url)
    (named : url.host = some host) : ∃ text, parseHost text = some host := by
  simp [parse, Option.bind_eq_some] at parsed
  obtain ⟨scheme, rest, -, -, result⟩ := parsed
  unfold parseNonSpecial at result
  split at result
  · simp only [Option.bind_eq_bind, Option.bind_eq_some] at result
    obtain ⟨⟨username, password, found, port⟩, read, built⟩ := result
    cases built
    cases named
    exact parseAuthority_host read
  all_goals
    cases result
    cases named

/--
The host of a URL, as `Url::host_str` gives it, names no IPv6 address as `IpAddr::from_str` reads
one: an IPv6 host is written in brackets, and any other host holds no colon.
-/
theorem parse_hostStr_ne_v6 {input host : String} {url : Url} (parsed : parse input = some url)
    (named : url.hostStr = some host) (addr : Ipv6Addr) : IpAddr.fromStr host ≠ some (.v6 addr) := by
  have hostSome : url.host = some host := by
    unfold hostStr at named
    split at named
    · cases named
    · exact named
  obtain ⟨text, read⟩ := parse_host parsed hostSome
  rcases parseHost_shape read with bracket | noColon
  · simp [IpAddr.fromStr_bracket bracket]
  · exact IpAddr.fromStr_ne_v6 noColon addr

end Url

end Internet2
