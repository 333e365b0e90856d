import Internet2.Url.Parse
import Internet2.Proofs.Net.IpAddr
import Mathlib.Data.String.Basic

/-!
The URL parser keeps text made of plain characters as it is, keeps the scheme it starts with,
rejects a host with two colons and no brackets, and reads a username only with a host.
-/

namespace Internet2

namespace Url

/-! ## Plain characters -/

/-- Characters an opaque host keeps as they are: printable ASCII that is no forbidden host code point. -/
def isHostChar (c : Char) : Bool := 32 < c.toNat && c.toNat < 127 && !isForbiddenHost c

/-- Characters a username keeps as they are: printable ASCII outside the userinfo set. -/
def isUserChar (c : Char) : Bool := 32 < c.toNat && c.toNat < 127 && !userinfoSet c

/-- A host character ends no part of the authority and is kept by the host parser. -/
theorem isHostChar_facts {c : Char} (host : isHostChar c = true) :
    isC0ControlOrSpace c = false ∧ endsAuthority c = false ∧ c ≠ '@' ∧ c ≠ ':' ∧ c ≠ '[' ∧
      c.toNat < 128 ∧ controls c = false := by
  -- Every character the claims exclude is a forbidden host code point.
  simp [isHostChar, isForbiddenHost, isC0ControlOrSpace, endsAuthority, endsPath, controls,
    ← toNat_eq_iff] at host ⊢
  omega

/-- A username character separates nothing and is kept by the userinfo encoding. -/
theorem isUserChar_facts {c : Char} (user : isUserChar c = true) :
    isC0ControlOrSpace c = false ∧ endsAuthority c = false ∧ c ≠ '@' ∧ c ≠ ':' ∧
      c.toNat < 128 ∧ userinfoSet c = false := by
  -- The userinfo set holds the separators and the characters that end the authority.
  simp only [isUserChar, Bool.and_eq_true, decide_eq_true_eq, Bool.not_eq_true'] at user
  obtain ⟨⟨low, high⟩, outside⟩ := user
  have excluded : ∀ d, userinfoSet d = true → c ≠ d := by
    rintro d inSet rfl
    exact absurd outside (by simp [inSet])
  refine ⟨by simp [isC0ControlOrSpace]; omega, ?_, excluded '@' (by decide), excluded ':' (by decide),
    by omega, outside⟩
  simp [endsAuthority, endsPath, excluded '/' (by decide), excluded '?' (by decide), excluded '#' (by decide)]

/-! ## Reading plain text -/

/-- Text of characters outside a set, all ASCII, is kept by percent-encoding. -/
theorem percentEncode_keep {set : Char → Bool} {text : List Char}
    (keep : ∀ c ∈ text, c.toNat < 128 ∧ set c = false) : percentEncode set text = text := by
  induction text with
  | nil => rfl
  | cons c rest ih =>
    obtain ⟨ascii, outside⟩ := keep c (List.mem_cons_self c rest)
    simp [percentEncode, encodeChar, ascii, outside] at ih ⊢
    exact ih fun d member => keep d (List.mem_cons_of_mem c member)

/-- Nothing is encoded to nothing. -/
@[simp] theorem percentEncode_nil (set : Char → Bool) : percentEncode set [] = [] := rfl

/-- Trimming stops at once on text whose first character is printable. -/
theorem dropWhile_of_head {text : List Char} (first : ∀ c ∈ text.head?, isC0ControlOrSpace c = false) :
    text.dropWhile isC0ControlOrSpace = text := by
  cases text with
  | nil => rfl
  | cons c rest => simp [List.dropWhile, first c rfl]

/-- Trimming stops at once on printable text. -/
theorem dropWhile_printable {text : List Char} (printable : ∀ c ∈ text, isC0ControlOrSpace c = false) :
    text.dropWhile isC0ControlOrSpace = text :=
  dropWhile_of_head fun c first => printable c (List.mem_of_mem_head? first)

/-- Tabs and newlines are controls. -/
theorem isTabOrNewline_of_printable {c : Char} (printable : isC0ControlOrSpace c = false) :
    isTabOrNewline c = false := by
  simp only [isC0ControlOrSpace, decide_eq_false_iff_not] at printable
  simp only [isTabOrNewline, Bool.or_eq_false_iff, decide_eq_false_iff_not]
  refine ⟨⟨?_, ?_⟩, ?_⟩ <;> rintro rfl <;> exact printable (by decide)

/-- Input with printable ends and no tab or newline is not changed by preprocessing. -/
theorem preprocess_of_ends {input : List Char} (first : ∀ c ∈ input.head?, isC0ControlOrSpace c = false)
    (last : ∀ c ∈ input.getLast?, isC0ControlOrSpace c = false)
    (inner : ∀ c ∈ input, isTabOrNewline c = false) : preprocess input = input := by
  -- Nothing is trimmed at either end, and nothing is dropped in between.
  rw [preprocess, dropWhile_of_head first, dropWhile_of_head (by rwa [List.head?_reverse]),
    List.reverse_reverse]
  exact List.filter_eq_self.mpr fun c member => by simp [inner c member]

/-- Input with no control or space anywhere is not changed by preprocessing. -/
theorem preprocess_keep {input : List Char} (printable : ∀ c ∈ input, isC0ControlOrSpace c = false) :
    preprocess input = input :=
  preprocess_of_ends (fun c first => printable c (List.mem_of_mem_head? first))
    (fun c last => printable c (List.mem_of_mem_getLast? last))
    fun c member => isTabOrNewline_of_printable (printable c member)

/-- Text that ends in a printable separator or a printable tail after it ends printable. -/
theorem getLast?_printable {front tail : List Char} {sep : Char} (printable : isC0ControlOrSpace sep = false)
    (last : ∀ c ∈ tail.getLast?, isC0ControlOrSpace c = false) :
    ∀ c ∈ (front ++ sep :: tail).getLast?, isC0ControlOrSpace c = false := by
  rw [List.getLast?_append_cons, List.getLast?_cons]
  cases final : tail.getLast? with
  | none => simpa using printable
  | some d => simpa using last d final

/-- Preprocessing keeps a printable front of the input that is not empty. -/
theorem preprocess_front {front : List Char} (rest : List Char) (nonEmpty : front ≠ [])
    (printable : ∀ c ∈ front, isC0ControlOrSpace c = false) :
    ∃ kept, preprocess (front ++ rest) = front ++ kept := by
  -- The front stops the trimming at both ends, and holds no tab or newline.
  have start : (front ++ rest).dropWhile isC0ControlOrSpace = front ++ rest := by
    rw [List.dropWhile_append, dropWhile_printable printable, if_neg (by simpa using nonEmpty)]
  have frontBack : front.reverse.dropWhile isC0ControlOrSpace = front.reverse :=
    dropWhile_printable (by simpa using printable)
  have back : ∃ kept, ((front ++ rest).reverse.dropWhile isC0ControlOrSpace).reverse = front ++ kept := by
    rw [List.reverse_append, List.dropWhile_append, frontBack]
    split
    · exact ⟨[], by simp⟩
    · exact ⟨(rest.reverse.dropWhile isC0ControlOrSpace).reverse, by simp⟩
  obtain ⟨kept, back⟩ := back
  refine ⟨kept.filter fun c => !isTabOrNewline c, ?_⟩
  rw [preprocess, start, back, List.filter_append, List.filter_eq_self.mpr fun c member => by
    simp [isTabOrNewline_of_printable (printable c member)]]

/-- Controls and spaces after the input are trimmed away. -/
theorem preprocess_append_blank (input : List Char) {blank : List Char}
    (trimmed : ∀ c ∈ blank, isC0ControlOrSpace c = true) : preprocess (input ++ blank) = preprocess input := by
  -- From the front the blank tail is trimmed with the input or kept after it; from the back it goes first.
  rw [preprocess, preprocess, List.dropWhile_append]
  split
  · next empty =>
    rw [List.isEmpty_iff.mp empty, List.dropWhile_eq_nil_iff.mpr trimmed]
  · rw [List.reverse_append, List.dropWhile_append_of_pos (by simpa using trimmed)]

/-- Controls and spaces after the input do not change the URL read. -/
theorem parse_append_blank (input : String) {blank : String}
    (trimmed : ∀ c ∈ blank.data, isC0ControlOrSpace c = true) : parse (input ++ blank) = parse input := by
  simp only [parse, String.toList, String.data_append, preprocess_append_blank _ trimmed]

/-- Split at the last separator: what follows it has no separator. -/
theorem splitLast_append {sep : Char} {before after : List Char} (notIn : sep ∉ after) :
    splitLast sep (before ++ sep :: after) = some (before, after) := by
  have others : ∀ c ∈ after.reverse, decide (c ≠ sep) = true := fun c member => by
    simpa using fun same : c = sep => notIn (same ▸ List.mem_reverse.mp member)
  rw [splitLast, List.reverse_append, List.reverse_cons, List.append_assoc, List.singleton_append,
    List.dropWhile_append_of_pos others, List.takeWhile_append_of_pos others]
  simp

/-- Text without the separator is not split. -/
theorem splitLast_none {sep : Char} {text : List Char} (notIn : sep ∉ text) :
    splitLast sep text = none := by
  have gone : text.reverse.dropWhile (· ≠ sep) = [] :=
    List.dropWhile_eq_nil_iff.mpr fun c member => by
      simpa using fun same : c = sep => notIn (same ▸ List.mem_reverse.mp member)
  rw [splitLast, gone]

/-- A host without colons or brackets is split off at the colon that follows it. -/
theorem splitHost_append {host after : List Char} (plain : ∀ c ∈ host, c ≠ ':' ∧ c ≠ '[')
    (stop : after = [] ∨ after.head? = some ':') : splitHost false (host ++ after) = (host, after) := by
  induction host with
  | nil =>
    rcases stop with rfl | colon
    · rfl
    · cases after with
      | nil => cases colon
      | cons c rest =>
        simp only [List.head?_cons, Option.some.injEq] at colon
        simp [splitHost, colon]
  | cons c rest ih =>
    obtain ⟨notColon, notOpen⟩ := plain c (List.mem_cons_self c rest)
    simp [splitHost, notColon, notOpen, ih fun d member => plain d (List.mem_cons_of_mem c member)]

/-- A host of host characters is kept as an opaque host. -/
theorem parseHost_plain {host : List Char} (plain : ∀ c ∈ host, isHostChar c = true) :
    parseHost host = some host.asString := by
  have facts := fun c member => isHostChar_facts (plain c member)
  have allowed : host.any isForbiddenHost = false := List.any_eq_false.mpr fun c member => by
    have := plain c member
    simp only [isHostChar, Bool.and_eq_true, Bool.not_eq_true'] at this
    simp [this.2]
  have kept : percentEncode controls host = host :=
    percentEncode_keep fun c member => ⟨(facts c member).2.2.2.2.2.1, (facts c member).2.2.2.2.2.2⟩
  unfold parseHost
  split
  · exact absurd rfl (facts '[' (by simp_all)).2.2.2.2.1
  · simp [allowed, kept]

/-- A port taken to a number and back is itself. -/
theorem toUInt16_toNat (port : UInt16) : port.toNat.toUInt16 = port :=
  UInt16.eq_of_toBitVec_eq (by simp [UInt16.ofNat, UInt16.toNat])

/-- A port written in decimal is read back. -/
theorem parsePort_decimal (port : UInt16) : parsePort (decimal port.toNat).data = some (some port) := by
  have below : port.toNat < 65536 := port.toNat_lt_size
  simp [parsePort, decimal_ne_nil, List.all_eq_true.mpr (decimal_digits _), below, decimal_value,
    toUInt16_toNat]

/-- The authority written from an optional username, a host and an optional port. -/
def authorityText (user : Option (List Char)) (host : List Char) (port : Option UInt16) : List Char :=
  (user.map (· ++ ['@'])).getD [] ++ host ++ (port.map fun p => ':' :: (decimal p.toNat).data).getD []

/-- The port text the locator writes: nothing, or `:` and the port in decimal. -/
theorem portText_facts (port : Option UInt16) :
    '@' ∉ (port.map fun p => ':' :: (decimal p.toNat).data).getD [] ∧
    ((port.map fun p => ':' :: (decimal p.toNat).data).getD [] = [] ∨
      ((port.map fun p => ':' :: (decimal p.toNat).data).getD []).head? = some ':') ∧
    parsePort (((port.map fun p => ':' :: (decimal p.toNat).data).getD []).drop 1) = some port := by
  cases port with
  | none => simp [parsePort]
  | some port =>
    refine ⟨fun atSign => ?_, .inr rfl, by simpa using parsePort_decimal port⟩
    simp only [Option.map_some', Option.getD_some, List.mem_cons] at atSign
    rcases atSign with colon | digit
    · cases colon
    · exact absurd (decimal_digits _ '@' digit) (by decide)

/-- The authority the locator writes, an optional username and `@`, a host and an optional port, is read part by part. -/
theorem parseAuthority_plain {user : Option (List Char)} {host : List Char} {port : Option UInt16}
    (userPlain : ∀ name ∈ user, ∀ c ∈ name, isUserChar c = true)
    (hostPlain : ∀ c ∈ host, isHostChar c = true) (nonEmpty : host ≠ []) :
    parseAuthority (authorityText user host port) =
      some ((user.getD []).asString, "", host.asString, port) := by
  unfold authorityText
  obtain ⟨portNoAt, portStart, portRead⟩ := portText_facts port
  generalize (port.map fun p => ':' :: (decimal p.toNat).data).getD [] = portText at *
  rw [List.drop_one] at portRead
  have hostFacts := fun c member => isHostChar_facts (hostPlain c member)
  have noAt : '@' ∉ host ++ portText := by
    simpa [portNoAt] using fun member => (hostFacts '@' member).2.2.1 rfl
  have split : splitHost false (host ++ portText) = (host, portText) :=
    splitHost_append (fun c member => ⟨(hostFacts c member).2.2.2.1, (hostFacts c member).2.2.2.2.1⟩)
      portStart
  cases user with
  | none =>
    simp [parseAuthority, splitLast_none noAt, split, nonEmpty, parseHost_plain hostPlain, portRead,
      String.asString_nil]
  | some name =>
    have nameFacts := fun c member => isUserChar_facts (userPlain name rfl c member)
    have whole : name.takeWhile (fun c => !decide (c = ':')) = name :=
      List.takeWhile_eq_self_iff.mpr fun c member => by simpa using (nameFacts c member).2.2.2.1
    have none : name.dropWhile (fun c => !decide (c = ':')) = [] :=
      List.dropWhile_eq_nil_iff.mpr fun c member => by simpa using (nameFacts c member).2.2.2.1
    have kept : percentEncode userinfoSet name = name :=
      percentEncode_keep fun c member => ⟨(nameFacts c member).2.2.2.2.1, (nameFacts c member).2.2.2.2.2⟩
    simp [parseAuthority, splitLast_append noAt, split, nonEmpty, parseHost_plain hostPlain, portRead,
      whole, none, kept, String.asString_nil]

/-! ## Paths -/

/-- Segments that encoding keeps and that are no dot segments are appended one by one. -/
theorem pathSegments_kept : ∀ (path segments : List (List Char)),
    (∀ segment ∈ segments, percentEncode pathSet segment = segment ∧ isSingleDot segment = false ∧
      isDoubleDot segment = false) → pathSegments path segments = path ++ segments
  | path, [], _ => by simp [pathSegments]
  | path, [segment], kept => by
    obtain ⟨same, single, double⟩ := kept segment (List.mem_singleton_self _)
    simp [pathSegments, pathStep, same, single, double]
  | path, segment :: next :: rest, kept => by
    obtain ⟨same, single, double⟩ := kept segment (List.mem_cons_self _ _)
    simp only [pathSegments, pathStep, same, single, double, Bool.false_eq_true, if_false]
    rw [pathSegments_kept _ (next :: rest) fun s member => kept s (List.mem_cons_of_mem _ member)]
    simp

/-- Segments written out are a `/` and the segments joined by `/`. -/
theorem serializePath_eq : ∀ {segments : List (List Char)}, segments ≠ [] →
    serializePath segments = '/' :: ['/'].intercalate segments
  | [segment], _ => by simp [serializePath, List.intercalate]
  | segment :: next :: rest, _ => by
    have tail := serializePath_eq (List.cons_ne_nil next rest)
    simp only [serializePath, List.flatMap_cons] at tail ⊢
    simp [tail, List.intercalate]

/-- The text after a first `/`, split at `/` and written out again, is the path. -/
theorem serializePath_splitOn (text : List Char) : serializePath (text.splitOn '/') = '/' :: text := by
  have split : text.splitOn '/' ≠ [] := List.splitOnP_ne_nil _ _
  rw [serializePath_eq split, List.intercalate_splitOn]

/-! ## The URLs the locator writes -/

/-- A query kept by the query encoding holds no `#`. -/
theorem query_noHash {query : List Char} (plainQuery : ∀ c ∈ query, c.toNat < 128 ∧ querySet c = false) :
    ∀ c ∈ query, (!decide (c = '#')) = true := fun c member => by
  have outside := (plainQuery c member).2
  simpa using fun same : c = '#' => absurd (same ▸ outside) (by decide)

/-- A query of characters outside the query set, with no fragment after it, is kept. -/
theorem parseQueryFragment_query {query : List Char}
    (plainQuery : ∀ c ∈ query, c.toNat < 128 ∧ querySet c = false) :
    parseQueryFragment ('?' :: query) = (some query.asString, none) := by
  -- `#` is in the query set, so the whole query is read and no fragment follows.
  have noHash := query_noHash plainQuery
  simp [parseQueryFragment, List.takeWhile_eq_self_iff.mpr noHash,
    List.dropWhile_eq_nil_iff.mpr noHash, percentEncode_keep plainQuery]

/-- A query with a fragment after it is read up to the `#`. -/
theorem parseQueryFragment_query_fragment {query : List Char} (fragment : List Char)
    (plainQuery : ∀ c ∈ query, c.toNat < 128 ∧ querySet c = false) :
    (parseQueryFragment ('?' :: (query ++ '#' :: fragment))).1 = some query.asString := by
  simp [parseQueryFragment, List.takeWhile_append_of_pos (query_noHash plainQuery), percentEncode_keep plainQuery]

/-- A query with a fragment after it: the query up to the `#`, and the fragment encoded. -/
theorem parseQueryFragment_fragment {query : List Char} (fragment : List Char)
    (plainQuery : ∀ c ∈ query, c.toNat < 128 ∧ querySet c = false) :
    parseQueryFragment ('?' :: (query ++ '#' :: fragment)) =
      (some query.asString, some (percentEncode fragmentSet fragment).asString) := by
  have noHash := query_noHash plainQuery
  simp [parseQueryFragment, List.takeWhile_append_of_pos noHash, List.dropWhile_append_of_pos noHash,
    percentEncode_keep plainQuery]

/-- An optional query of characters outside the query set is read as it is, with no fragment. -/
theorem parseQueryFragment_option {query : Option (List Char)}
    (plainQuery : ∀ c ∈ query.getD [], c.toNat < 128 ∧ querySet c = false) :
    parseQueryFragment ((query.map ('?' :: ·)).getD []) = (query.map List.asString, none) := by
  cases query with
  | none => rfl
  | some text => exact parseQueryFragment_query plainQuery

/--
An authority, then the path `/` or none, then a query or none: a URL with a host, that path and
that query.
-/
theorem parseNonSpecial_authority (scheme : String) {authority path : List Char} (query : Option (List Char))
    (inAuthority : ∀ c ∈ authority, endsAuthority c = false) (root : path = [] ∨ path = ['/'])
    (plainQuery : ∀ c ∈ query.getD [], c.toNat < 128 ∧ querySet c = false) :
    parseNonSpecial scheme ('/' :: '/' :: (authority ++ path ++ (query.map ('?' :: ·)).getD [])) =
      (parseAuthority authority).map fun (username, password, host, port) =>
        ⟨scheme, username, password, some host, port, path.asString, query.map List.asString, none⟩ := by
  -- The authority ends at the `/` or the `?`; the path `/` is one empty segment.
  have whole : ∀ c ∈ authority, (!endsAuthority c) = true := by simpa using inAuthority
  have tail := parseQueryFragment_option plainQuery
  simp only [parseNonSpecial, List.append_assoc, List.takeWhile_append_of_pos whole,
    List.dropWhile_append_of_pos whole]
  rcases root with rfl | rfl <;> rcases query with _ | text <;>
    simp only [Option.map_none', Option.map_some', Option.getD_none, Option.getD_some] at tail ⊢ <;>
    simp [endsAuthority, endsPath, List.takeWhile, List.dropWhile, tail, parsePath, pathSegments, pathStep,
      isSingleDot, isDoubleDot, serializePath] <;>
    cases parseAuthority authority <;> rfl

/-- Text of characters that end no path is read up to the `?` of the query after it. -/
theorem splitPath_query {path : List Char} (query : List Char) (inPath : ∀ c ∈ path, endsPath c = false) :
    (path ++ '?' :: query).takeWhile (fun c => !endsPath c) = path ∧
      (path ++ '?' :: query).dropWhile (fun c => !endsPath c) = '?' :: query := by
  have whole : ∀ c ∈ path, (!endsPath c) = true := by simpa using inPath
  rw [List.takeWhile_append_of_pos whole, List.dropWhile_append_of_pos whole]
  exact ⟨by simp [endsPath], rfl⟩

/--
Path text the parser reads back as itself before a query, by the two ways a URL without a host
is read: after a first `/`, segment by segment; otherwise as an opaque path.
-/
structure KeptPath (path : List Char) : Prop where
  /-- An empty path leaves nothing to read. -/
  nonEmpty : path ≠ []
  /-- No character ends the path or is dropped by preprocessing. -/
  chars : ∀ c ∈ path, endsPath c = false ∧ isTabOrNewline c = false
  /-- After a first `/` comes no second one, and the segments read back as the path. -/
  segments : ∀ rest, path = '/' :: rest → rest.head? ≠ some '/' ∧ parsePath rest = path
  /-- Without a first `/`, the control encoding keeps the path. -/
  unrooted : path.head? ≠ some '/' → percentEncode controls path = path

/-- Whether the parser reads a path back as itself before a query, as a test. -/
def isKeptPath (path : List Char) : Bool :=
  path != [] && path.all (fun c => !endsPath c && !isTabOrNewline c) &&
    if path.head? = some '/' then path.tail.head? != some '/' && parsePath path.tail == path
    else percentEncode controls path == path

/-- The test decides the kept-path condition. -/
theorem isKeptPath_iff {path : List Char} : isKeptPath path = true ↔ KeptPath path := by
  simp only [isKeptPath, Bool.and_eq_true, bne_iff_ne, ne_eq, List.all_eq_true, Bool.not_eq_true',
    beq_iff_eq]
  constructor
  · rintro ⟨⟨nonEmpty, chars⟩, rest⟩
    refine ⟨nonEmpty, fun c member => by simpa using chars c member, fun tail rooted => ?_,
      fun unrooted => by simpa [unrooted] using rest⟩
    subst rooted
    simpa using rest
  · intro kept
    refine ⟨⟨kept.nonEmpty, fun c member => by simp [kept.chars c member]⟩, ?_⟩
    split
    · obtain ⟨tail, rfl⟩ := List.head?_eq_some_iff.mp ‹_›
      simpa using kept.segments tail rfl
    · simpa using kept.unrooted ‹_›

instance (path : List Char) : Decidable (KeptPath path) := decidable_of_iff _ isKeptPath_iff

/-- A kept path, then `?` and a query: a URL without a host, with the path and the query. -/
theorem parseNonSpecial_keptPath_query (scheme : String) {path query : List Char} (kept : KeptPath path)
    (plainQuery : ∀ c ∈ query, c.toNat < 128 ∧ querySet c = false) :
    parseNonSpecial scheme (path ++ '?' :: query) =
      some ⟨scheme, "", "", none, none, path.asString, some query.asString, none⟩ := by
  obtain ⟨c, more, rfl⟩ := List.exists_cons_of_ne_nil kept.nonEmpty
  by_cases slash : c = '/'
  · -- A path after a first `/`, with no second one: read segment by segment.
    subst slash
    obtain ⟨notSlash, reread⟩ := kept.segments more rfl
    obtain ⟨taken, after⟩ := splitPath_query query fun c member =>
      (kept.chars c (List.mem_cons_of_mem _ member)).1
    have branch : parseNonSpecial scheme ('/' :: (more ++ '?' :: query)) =
        some ⟨scheme, "", "", none, none,
          (parsePath ((more ++ '?' :: query).takeWhile fun c => !endsPath c)).asString,
          (parseQueryFragment ((more ++ '?' :: query).dropWhile fun c => !endsPath c)).1,
          (parseQueryFragment ((more ++ '?' :: query).dropWhile fun c => !endsPath c)).2⟩ := by
      cases more with
      | nil => rfl
      | cons d rest => simp [parseNonSpecial, show d ≠ '/' by simpa using notSlash]
    rw [List.cons_append, branch, taken, after, reread, parseQueryFragment_query plainQuery]
  · -- An opaque path: kept as it is up to the query.
    obtain ⟨taken, after⟩ := splitPath_query query fun c member => (kept.chars c member).1
    simp only [List.cons_append] at taken after ⊢
    simp [parseNonSpecial, slash, taken, after, parseQueryFragment_query plainQuery,
      kept.unrooted (by simpa using slash)]

/-- A scheme the parser reads back from the front of printable input, and not a special one. -/
structure PlainScheme (scheme : String) : Prop where
  printable : ∀ c ∈ scheme.data, isC0ControlOrSpace c = false
  read : ∀ rest, readScheme (scheme.data ++ ':' :: rest) = some (scheme, rest)
  notSpecial : isSpecialScheme scheme = false

/-- The input after a plain scheme starts with a printable character. -/
theorem PlainScheme.first {scheme : String} (plain : PlainScheme scheme) (rest : List Char) :
    ∀ c ∈ (scheme.data ++ ':' :: rest).head?, isC0ControlOrSpace c = false := by
  -- The scheme's first character, or the colon of an empty scheme.
  cases front : scheme.data with
  | nil => rintro c ⟨⟩; rfl
  | cons d more =>
    rintro c ⟨⟩
    exact plain.printable d (by simp [front])

/-- Input that starts with a plain scheme and that preprocessing keeps is read by the non-special parser. -/
theorem parse_of_preprocess {input scheme : String} {rest : List Char} (plain : PlainScheme scheme)
    (shape : input.data = scheme.data ++ ':' :: rest)
    (kept : preprocess (scheme.data ++ ':' :: rest) = scheme.data ++ ':' :: rest) :
    parse input = parseNonSpecial scheme rest := by
  simp [parse, String.toList, shape, kept, plain.read, plain.notSpecial]

/-- Printable input that starts with a plain scheme is read by the non-special parser. -/
theorem parse_scheme {input scheme : String} {rest : List Char} (plain : PlainScheme scheme)
    (shape : input.data = scheme.data ++ ':' :: rest)
    (printable : ∀ c ∈ rest, isC0ControlOrSpace c = false) :
    parse input = parseNonSpecial scheme rest := by
  have whole : ∀ c ∈ scheme.data ++ ':' :: rest, isC0ControlOrSpace c = false := by
    intro c member
    rcases List.mem_append.mp member with inScheme | inRest
    · exact plain.printable c inScheme
    · rcases List.mem_cons.mp inRest with rfl | after
      · decide
      · exact printable c after
  exact parse_of_preprocess plain shape (preprocess_keep whole)

/-- The non-special parser keeps the scheme it is given. -/
theorem parseNonSpecial_scheme {scheme : String} {rest : List Char} {url : Url}
    (parsed : parseNonSpecial scheme rest = some url) : url.scheme = scheme := by
  unfold parseNonSpecial at parsed
  split at parsed
  · simp only [Option.bind_eq_bind, Option.bind_eq_some] at parsed
    obtain ⟨parts, -, built⟩ := parsed
    cases built
    rfl
  all_goals cases parsed; rfl

/-- A URL read from input that starts with a plain scheme has that scheme. -/
theorem parse_scheme_eq {input scheme : String} {rest : List Char} {url : Url} (plain : PlainScheme scheme)
    (shape : input.data = scheme.data ++ ':' :: rest) (parsed : parse input = some url) :
    url.scheme = scheme := by
  -- Preprocessing keeps the scheme and its colon, so the scheme read is this one.
  have front : ∀ c ∈ scheme.data ++ [':'], isC0ControlOrSpace c = false := fun c member => by
    rcases List.mem_append.mp member with inScheme | colon
    · exact plain.printable c inScheme
    · rw [List.mem_singleton.mp colon]
      rfl
  obtain ⟨kept, keptFront⟩ := preprocess_front rest (by simp) front
  simp only [List.append_assoc, List.singleton_append] at keptFront
  simp [parse, String.toList, shape, keptFront, plain.read, plain.notSpecial] at parsed
  exact parseNonSpecial_scheme parsed

/-- An authority of a plain username and a printable host that ends nowhere is printable and ends nowhere. -/
theorem authorityText_facts {user : Option (List Char)} {host : List Char} (port : Option UInt16)
    (userPlain : ∀ name ∈ user, ∀ c ∈ name, isUserChar c = true)
    (hostChars : ∀ c ∈ host, isHostChar c = true ∨ c = ':') :
    ∀ c ∈ authorityText user host port, isC0ControlOrSpace c = false ∧ endsAuthority c = false := by
  -- Username and host characters by their classes; `@`, `:` and digits by evaluation.
  have digit : ∀ c, isAsciiDigit c = true → isC0ControlOrSpace c = false ∧ endsAuthority c = false :=
    fun c digit => by
      simp [isAsciiDigit, isC0ControlOrSpace, endsAuthority, endsPath, ← toNat_eq_iff] at digit ⊢
      omega
  intro c member
  simp only [authorityText, List.mem_append] at member
  rcases member with (inUser | inHost) | inPort
  · cases user with
    | none => cases inUser
    | some name =>
      simp only [Option.map_some', Option.getD_some, List.mem_append, List.mem_singleton] at inUser
      rcases inUser with inName | rfl
      · exact ⟨(isUserChar_facts (userPlain name rfl c inName)).1,
          (isUserChar_facts (userPlain name rfl c inName)).2.1⟩
      · decide
  · rcases hostChars c inHost with host | rfl
    exacts [⟨(isHostChar_facts host).1, (isHostChar_facts host).2.1⟩, ⟨rfl, rfl⟩]
  · cases port with
    | none => cases inPort
    | some port =>
      simp only [Option.map_some', Option.getD_some, List.mem_cons] at inPort
      rcases inPort with rfl | inDigits
      · decide
      · exact digit c (decimal_digits _ c inDigits)

/-- Characters a query keeps as they are: printable ASCII outside the query set. -/
def isQueryChar (c : Char) : Bool := 32 < c.toNat && c.toNat < 128 && !querySet c

/-- A query character is printable and kept by the query encoding. -/
theorem isQueryChar_facts {c : Char} (query : isQueryChar c = true) :
    isC0ControlOrSpace c = false ∧ c.toNat < 128 ∧ querySet c = false := by
  simp only [isQueryChar, Bool.and_eq_true, decide_eq_true_eq, Bool.not_eq_true'] at query
  simp only [isC0ControlOrSpace, decide_eq_false_iff_not, Nat.not_le]
  exact ⟨query.1.1, query.1.2, query.2⟩

/-- A string that starts with `//`, as `str::starts_with` tests it, has two slashes in front. -/
theorem startsWith_slashes {text : String} (starts : text.startsWith "//" = true) :
    ∃ rest, text.data = '/' :: '/' :: rest := by
  -- The test compares the first two characters with the two slashes, one at a time.
  obtain ⟨chars⟩ := text
  rcases chars with _ | ⟨c, rest⟩
  · exact absurd starts (by decide)
  unfold String.startsWith at starts
  change Substring.beq _ _ = true at starts
  unfold Substring.beq at starts
  rw [Bool.and_eq_true] at starts
  obtain ⟨two, same⟩ := starts
  rw [beq_iff_eq.mp two] at same
  change String.substrEq ⟨c :: rest⟩ 0 "//" 0 2 = true at same
  simp only [String.substrEq, Bool.and_eq_true] at same
  obtain ⟨-, loop⟩ := same
  rw [String.substrEq.loop, dif_pos (by decide)] at loop
  simp only [Bool.and_eq_true, beq_iff_eq] at loop
  obtain ⟨first, loop⟩ := loop
  change c = '/' at first
  subst first
  have next : (0 : String.Pos) + String.get ⟨'/' :: rest⟩ 0 = ⟨1⟩ := rfl
  have nextSlash : (0 : String.Pos) + String.get "//" 0 = ⟨1⟩ := rfl
  rw [next, nextSlash, String.substrEq.loop, dif_pos (by decide)] at loop
  simp only [Bool.and_eq_true, beq_iff_eq] at loop
  obtain ⟨second, -⟩ := loop
  cases rest with
  | nil => exact absurd second (by decide)
  | cons d rest =>
    change d = '/' at second
    exact ⟨rest, by rw [second]⟩

/-- A string with two slashes in front starts with `//`, as `str::starts_with` tests it. -/
theorem startsWith_of_slashes {text : String} {rest : List Char} (front : text.data = '/' :: '/' :: rest) :
    text.startsWith "//" = true := by
  -- The first two characters take two bytes, and each is compared with a slash in turn.
  obtain ⟨chars⟩ := text
  obtain rfl : chars = '/' :: '/' :: rest := front
  have slash : '/'.utf8Size = 1 := rfl
  unfold String.startsWith
  change Substring.beq _ _ = true
  simp [Substring.beq, Substring.take, Substring.nextn, Substring.next, String.toSubstring, String.endPos,
    String.utf8ByteSize, Substring.bsize, String.next, String.get, String.utf8GetAux, slash, String.Pos.ext_iff]
  simp only [String.substrEq, Bool.and_eq_true, decide_eq_true_eq]
  refine ⟨⟨by simp [String.endPos, String.utf8ByteSize, slash], by decide⟩, ?_⟩
  have second : (0 : String.Pos) + String.get ⟨'/' :: '/' :: rest⟩ 0 = ⟨1⟩ := rfl
  have secondSlash : (0 : String.Pos) + String.get "//" 0 = ⟨1⟩ := rfl
  have past : (⟨1⟩ : String.Pos) + String.get ⟨'/' :: '/' :: rest⟩ ⟨1⟩ = ⟨2⟩ := rfl
  rw [String.substrEq.loop, dif_pos (by decide)]
  simp only [Bool.and_eq_true, beq_iff_eq]
  refine ⟨rfl, ?_⟩
  rw [second, secondSlash, String.substrEq.loop, dif_pos (by decide)]
  simp only [Bool.and_eq_true, beq_iff_eq]
  refine ⟨rfl, ?_⟩
  rw [String.substrEq.loop, past, dif_neg (by decide)]

/-- A kept path does not start with `//`: after a first `/` comes no second one. -/
theorem KeptPath.startsWith {path : String} (kept : KeptPath path.data) : path.startsWith "//" = false := by
  cases starts : path.startsWith "//" with
  | false => rfl
  | true =>
    obtain ⟨rest, slashes⟩ := startsWith_slashes starts
    exact absurd rfl (kept.segments ('/' :: rest) slashes).1

/--
The authority form, then the path `/` or none, then a query or none: a URL with a host, that
path and that query.
-/
theorem parse_authority {input scheme : String} {user : Option (List Char)} {host path : List Char}
    {port : Option UInt16} (query : Option (List Char)) (plain : PlainScheme scheme)
    (shape : input.data = scheme.data ++ ':' :: '/' :: '/' ::
      (authorityText user host port ++ path ++ (query.map ('?' :: ·)).getD []))
    (root : path = [] ∨ path = ['/']) (userPlain : ∀ name ∈ user, ∀ c ∈ name, isUserChar c = true)
    (hostPlain : ∀ c ∈ host, isHostChar c = true) (nonEmpty : host ≠ [])
    (queryPlain : ∀ c ∈ query.getD [], isQueryChar c = true) :
    parse input = some ⟨scheme, (user.getD []).asString, "", some host.asString, port, path.asString,
      query.map List.asString, none⟩ := by
  have facts := authorityText_facts port userPlain fun c member => .inl (hostPlain c member)
  have printable : ∀ c ∈ '/' :: '/' :: (authorityText user host port ++ path ++ (query.map ('?' :: ·)).getD []),
      isC0ControlOrSpace c = false := by
    simp only [List.mem_cons, List.mem_append]
    rintro c (rfl | rfl | (inner | inPath) | inQuery)
    · rfl
    · rfl
    · exact (facts c inner).1
    · rcases root with rfl | rfl
      · cases inPath
      · rw [List.mem_singleton.mp inPath]
        rfl
    · cases query with
      | none => cases inQuery
      | some text =>
        rcases List.mem_cons.mp inQuery with rfl | inText
        exacts [rfl, (isQueryChar_facts (queryPlain c inText)).1]
  rw [parse_scheme plain shape printable, parseNonSpecial_authority scheme query (fun c member => (facts c member).2)
    root fun c member => (isQueryChar_facts (queryPlain c member)).2,
    parseAuthority_plain userPlain hostPlain nonEmpty]
  rfl

/--
A path with no tab or newline, then `?` and a query, after a plain scheme: preprocessing keeps
it all, since the scheme or its colon comes first and `?` or a query character last.
-/
theorem parse_path_text {input scheme : String} {path query : List Char} (plain : PlainScheme scheme)
    (shape : input.data = scheme.data ++ ':' :: (path ++ '?' :: query))
    (pathChars : ∀ c ∈ path, isTabOrNewline c = false) (queryPlain : ∀ c ∈ query, isQueryChar c = true) :
    parse input = parseNonSpecial scheme (path ++ '?' :: query) := by
  have queryFacts := fun c member => isQueryChar_facts (queryPlain c member)
  -- The last character is the query's, or the `?` of an empty query.
  have ends : ∀ c ∈ (scheme.data ++ ':' :: path ++ '?' :: query).getLast?, isC0ControlOrSpace c = false :=
    getLast?_printable rfl fun d final => (queryFacts d (List.mem_of_mem_getLast? final)).1
  refine parse_of_preprocess plain shape (preprocess_of_ends (plain.first _) (by simpa using ends) ?_)
  · simp only [List.mem_append, List.mem_cons]
    rintro c (inScheme | rfl | inPath | rfl | inQuery)
    exacts [isTabOrNewline_of_printable (plain.printable c inScheme), rfl, pathChars c inPath, rfl,
      isTabOrNewline_of_printable (queryFacts c inQuery).1]

/-- A kept path with `?` and a query after it: a URL without a host, with the path and the query. -/
theorem parse_keptPath_query {input scheme : String} {path query : List Char} (plain : PlainScheme scheme)
    (shape : input.data = scheme.data ++ ':' :: (path ++ '?' :: query))
    (kept : KeptPath path) (queryPlain : ∀ c ∈ query, isQueryChar c = true) :
    parse input = some ⟨scheme, "", "", none, none, path.asString, some query.asString, none⟩ := by
  rw [parse_path_text plain shape (fun c member => (kept.chars c member).2) queryPlain,
    parseNonSpecial_keptPath_query scheme kept fun c member => (isQueryChar_facts (queryPlain c member)).2]

/--
The in-process form, a query then `#` and a fragment: a URL with no host, an empty path and the
query, whatever the fragment holds.
-/
theorem parse_query_fragment {input scheme : String} {query fragment : List Char} (plain : PlainScheme scheme)
    (shape : input.data = scheme.data ++ ':' :: '?' :: (query ++ '#' :: fragment))
    (queryPlain : ∀ c ∈ query, isQueryChar c = true) :
    ∃ kept, parse input = some ⟨scheme, "", "", none, none, "", some query.asString, kept⟩ := by
  -- Preprocessing keeps everything up to the `#`; only the fragment may lose characters.
  have queryFacts := fun c member => isQueryChar_facts (queryPlain c member)
  have front : ∀ c ∈ scheme.data ++ ':' :: '?' :: (query ++ ['#']), isC0ControlOrSpace c = false := by
    simp only [List.mem_append, List.mem_cons, List.mem_singleton, List.not_mem_nil, or_false]
    rintro c (inScheme | rfl | rfl | inQuery | rfl)
    exacts [plain.printable c inScheme, rfl, rfl, (queryFacts c inQuery).1, rfl]
  obtain ⟨kept, keptFront⟩ := preprocess_front fragment (by simp) front
  simp only [List.append_assoc, List.cons_append, List.nil_append] at keptFront
  refine ⟨(parseQueryFragment ('?' :: (query ++ '#' :: kept))).2, ?_⟩
  simp [parse, String.toList, shape, keptFront, plain.read, plain.notSpecial, parseNonSpecial, endsPath,
    parseQueryFragment_query_fragment kept fun c member => (queryFacts c member).2, String.asString_nil]

/--
The in-process form with a fragment that preprocessing keeps: a URL with no host, an empty path,
the query, and the fragment encoded with the fragment set.
-/
theorem parse_query_fragment_kept {input scheme : String} {query fragment : List Char}
    (plain : PlainScheme scheme) (shape : input.data = scheme.data ++ ':' :: '?' :: (query ++ '#' :: fragment))
    (queryPlain : ∀ c ∈ query, isQueryChar c = true) (inner : ∀ c ∈ fragment, isTabOrNewline c = false)
    (last : ∀ c ∈ fragment.getLast?, isC0ControlOrSpace c = false) :
    parse input = some ⟨scheme, "", "", none, none, "", some query.asString,
      some (percentEncode fragmentSet fragment).asString⟩ := by
  -- Preprocessing keeps the input, which the opaque-path branch reads as query and fragment.
  have queryFacts := fun c member => isQueryChar_facts (queryPlain c member)
  have ends : ∀ c ∈ (scheme.data ++ ':' :: '?' :: query ++ '#' :: fragment).getLast?,
      isC0ControlOrSpace c = false := getLast?_printable rfl last
  refine (parse_of_preprocess plain shape (preprocess_of_ends (plain.first _) (by simpa using ends) ?_)).trans ?_
  · simp only [List.mem_append, List.mem_cons]
    rintro c (inScheme | rfl | rfl | inQuery | rfl | inFragment)
    exacts [isTabOrNewline_of_printable (plain.printable c inScheme), rfl, rfl,
      isTabOrNewline_of_printable (queryFacts c inQuery).1, rfl, inner c inFragment]
  · simp [parseNonSpecial, endsPath, String.asString_nil,
      parseQueryFragment_fragment fragment fun c member => (queryFacts c member).2]

/-! ## Hosts with two colons -/

/-- A port text with a colon in it is rejected. -/
theorem parsePort_colon {text : List Char} (colon : ':' ∈ text) : parsePort text = none := by
  have notDigits : text.all isAsciiDigit = false := List.all_eq_false.mpr ⟨':', colon, by decide⟩
  simp [parsePort, List.ne_nil_of_mem colon, notDigits]

/--
A host text with a colon and another one after it, as IPv6 text without brackets, is split at
its first colon, and what follows is no port: the authority is rejected.
-/
theorem parseAuthority_colons {user : Option (List Char)} {before rest : List Char} (port : Option UInt16)
    (beforeChars : ∀ c ∈ before, c ≠ ':' ∧ c ≠ '[' ∧ c ≠ '@') (restNoAt : '@' ∉ rest)
    (colon : ':' ∈ rest) :
    parseAuthority (authorityText user (before ++ ':' :: rest) port) = none := by
  obtain ⟨portNoAt, -, -⟩ := portText_facts port
  unfold authorityText
  generalize (port.map fun p => ':' :: (decimal p.toNat).data).getD [] = portText at *
  have noAt : '@' ∉ before ++ ':' :: (rest ++ portText) := by
    simp only [List.mem_append, List.mem_cons, not_or]
    exact ⟨fun inBefore => (beforeChars '@' inBefore).2.2 rfl, by decide, restNoAt, portNoAt⟩
  have split : splitHost false (before ++ ':' :: (rest ++ portText)) = (before, ':' :: (rest ++ portText)) :=
    splitHost_append (fun c member => ⟨(beforeChars c member).1, (beforeChars c member).2.1⟩) (.inr rfl)
  have rejected : parsePort (rest ++ portText) = none := parsePort_colon (List.mem_append_left _ colon)
  cases user with
  | none => simp [parseAuthority, splitLast_none noAt, split, rejected]
  | some name => simp [parseAuthority, splitLast_append noAt, split, rejected]

/-- A rejected authority rejects the URL, whatever ends it. -/
theorem parseNonSpecial_authority_none (scheme : String) {authority tail : List Char}
    (inAuthority : ∀ c ∈ authority, endsAuthority c = false)
    (stop : ∀ c ∈ tail.head?, endsAuthority c = true) (rejected : parseAuthority authority = none) :
    parseNonSpecial scheme ('/' :: '/' :: (authority ++ tail)) = none := by
  have whole : ∀ c ∈ authority, (!endsAuthority c) = true := by simpa using inAuthority
  have ends : tail.takeWhile (fun c => !endsAuthority c) = [] := by
    cases tail with
    | nil => rfl
    | cons c rest => simp [stop c rfl]
  simp only [parseNonSpecial, List.takeWhile_append_of_pos whole, ends, List.append_nil, rejected]
  rfl

/--
A URL string whose host is host characters and two colons at least, as IPv6 text without
brackets, is rejected, whatever path and query follow the authority.
-/
theorem parse_colons {input scheme : String} {user : Option (List Char)} {host : List Char}
    (port : Option UInt16) (tail : List Char) (plain : PlainScheme scheme)
    (shape : input.data = scheme.data ++ ':' :: '/' :: '/' :: (authorityText user host port ++ tail))
    (userPlain : ∀ name ∈ user, ∀ c ∈ name, isUserChar c = true)
    (hostChars : ∀ c ∈ host, isHostChar c = true ∨ c = ':') (two : 2 ≤ host.count ':')
    (tailChars : ∀ c ∈ tail, isC0ControlOrSpace c = false)
    (stop : ∀ c ∈ tail.head?, endsAuthority c = true) :
    parse input = none := by
  -- The host is cut at its first colon, and what follows that colon is no port.
  have facts := authorityText_facts port userPlain hostChars
  have printable : ∀ c ∈ '/' :: '/' :: (authorityText user host port ++ tail),
      isC0ControlOrSpace c = false := by
    simp only [List.mem_cons, List.mem_append]
    rintro c (rfl | rfl | inner | inTail)
    exacts [rfl, rfl, (facts c inner).1, tailChars c inTail]
  obtain ⟨before, rest, rfl, noColon, colon⟩ := split_two_colons two
  have beforeChars : ∀ c ∈ before, c ≠ ':' ∧ c ≠ '[' ∧ c ≠ '@' := fun c member => by
    rcases hostChars c (List.mem_append_left _ member) with host | rfl
    · obtain ⟨-, -, notAt, notColon, notBracket, -⟩ := isHostChar_facts host
      exact ⟨notColon, notBracket, notAt⟩
    · exact absurd member noColon
  have restNoAt : '@' ∉ rest := fun member => by
    rcases hostChars '@' (List.mem_append_right _ (List.mem_cons_of_mem _ member)) with host | same
    · exact (isHostChar_facts host).2.2.1 rfl
    · cases same
  rw [parse_scheme plain shape printable, parseNonSpecial_authority_none scheme
    (fun c member => (facts c member).2) stop (parseAuthority_colons port beforeChars restNoAt colon)]

/-! ## Usernames come with hosts -/

/-- Percent-encoding writes at least one character for each one it reads. -/
theorem percentEncode_ne_nil {set : Char → Bool} {text : List Char} (nonEmpty : text ≠ []) :
    percentEncode set text ≠ [] := by
  obtain ⟨c, rest, rfl⟩ := List.exists_cons_of_ne_nil nonEmpty
  have bytes : String.utf8EncodeChar c ≠ [] :=
    List.ne_nil_of_length_pos (by simp [Char.utf8Size_pos])
  obtain ⟨byte, more, split⟩ := List.exists_cons_of_ne_nil bytes
  simp only [percentEncode, List.flatMap_cons, ne_eq, List.append_eq_nil, not_and]
  intro first
  unfold encodeChar at first
  split at first <;> simp [split, percentEncodeByte] at first

/-- The host and what follows it make up the text they were split from. -/
theorem splitHost_append_eq : ∀ (inside : Bool) (text : List Char),
    (splitHost inside text).1 ++ (splitHost inside text).2 = text
  | _, [] => rfl
  | inside, c :: rest => by
    unfold splitHost
    split
    · rfl
    · simp [splitHost_append_eq _ rest]

/-- A host read from a non-empty text is not empty. -/
theorem parseHost_ne_empty {text : List Char} {host : String} (nonEmpty : text ≠ [])
    (read : parseHost text = some host) : host ≠ "" := by
  unfold parseHost at read
  split at read
  · -- A bracketed address is written between brackets.
    split at read
    · split at read
      · cases read
        exact fun empty => List.cons_ne_nil _ _ (congrArg String.data empty)
      · cases read
    · cases read
  · split at read
    · cases read
    · cases read
      exact fun empty => percentEncode_ne_nil nonEmpty (congrArg String.data empty)

/-- An authority with a username has a non-empty host: `@` must be followed by one. -/
theorem parseAuthority_host_ne_empty {authority : List Char} {username password host : String}
    {port : Option UInt16} (read : parseAuthority authority = some (username, password, host, port))
    (named : username ≠ "") : host ≠ "" := by
  unfold parseAuthority at read
  cases split : splitLast '@' authority with
  | none =>
    -- Without `@` there is no userinfo, so the username is empty.
    simp only [split, Option.isSome_none, Bool.false_eq_true, false_and, if_false] at read
    simp [Option.bind_eq_some, String.asString_nil] at read
    obtain ⟨-, _, -, _, -, empty, -⟩ := read
    exact absurd empty.symm named
  | some parts =>
    -- After `@` comes a host and port that is not empty, and a host in front of any port.
    simp [split, Option.bind_eq_some] at read
    obtain ⟨hostPort, hostFirst, _, found, _, -, -, -, rfl, -⟩ := read
    have nonEmpty : (splitHost false parts.2).1 ≠ [] := fun empty => by
      have whole := splitHost_append_eq false parts.2
      rw [empty, List.nil_append] at whole
      exact hostFirst (by rw [whole]; exact hostPort) empty
    exact parseHost_ne_empty nonEmpty found

/-- A URL read with a username has a host, as `Url::host_str` gives it. -/
theorem parse_hostStr_of_username {input : String} {url : Url} (parsed : parse input = some url)
    (named : url.username ≠ "") : ∃ host, url.hostStr = some host := by
  -- Only the authority form reads a username, and there it is followed by a host.
  simp [parse, Option.bind_eq_some] at parsed
  obtain ⟨scheme, rest, -, -, result⟩ := parsed
  unfold parseNonSpecial at result
  split at result
  · simp [Option.bind_eq_some] at result
    obtain ⟨username, password, host, port, read, rfl⟩ := result
    have nonEmpty := parseAuthority_host_ne_empty read named
    exact ⟨host, by simp [hostStr, nonEmpty]⟩
  · cases result
    exact absurd rfl named
  · cases result
    exact absurd rfl named

end Url

end Internet2
