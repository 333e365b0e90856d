import Internet2.Proofs.Session.RoundTrip

/-!
What the codec reads from any string: a locator's node id is the key its URL's username names,
a username is never dropped, every error is raised by a part of the URL that is there, a string
meets an unknown scheme only in a build without the `zmq` or the `websockets` feature, and
controls and spaces after a string are ignored.
-/

namespace Internet2

/-- The schemes `TryFrom<Url>` reads, one per arm, in the order of the prefixes `FromStr` checks. -/
def NodeLocator.locatorSchemes : List String := ["lnp", "lnpu", "lnpz", "lnpws", "lnpt", "lnph"]

/-- The prefixes `FromStr` checks are the locator schemes with their colon. -/
theorem NodeLocator.schemePrefixes_eq : schemePrefixes = locatorSchemes.map (· ++ ":") := rfl

/--
Whether an error of reading a URL says something true of it, in a build with the given features:
`InvalidHost` comes with a host, `UnknownUrlScheme` carries the scheme, which has no arm in the
build, and `InvalidZmqType` the first `api` value lower-cased. The URL reader raises no
`UnsupportedForLocalAddr` and no `MalformedUrl`.
-/
def ParseError.describes (features : NodeLocator.Features) (url : Url) : ParseError → Bool
  | .invalidHost _ => url.hostStr.isSome
  | .unknownUrlScheme scheme => scheme = url.scheme ∧ (scheme ∉ NodeLocator.locatorSchemes ∨
      scheme = "lnpz" ∧ features.zmq = false ∨ scheme = "lnpws" ∧ features.websockets = false)
  | .invalidZmqType token =>
    (url.queryPairs.find? fun pair => pair.1 = "api").any fun pair => token = NodeLocator.asciiLowercase pair.2
  | .unsupportedForLocalAddr | .malformedUrl => false
  | _ => true

namespace NodeLocator

variable {Key : Type}

/-- A key read from a username is the key the username names. -/
theorem pubkeyOf_ok [PublicKeyText Key] {username : String} {key : Key}
    (read : pubkeyOf username = .ok key) : PublicKeyText.fromStr username = some key := by
  unfold pubkeyOf at read
  split at read
  · cases read
    assumption
  · cases read

/-- What the `lnpz` arms can give, with what each arm was given. -/
theorem zmqLocator_cases {zmqType : ApiType} {ip : Option (Except ParseError IpAddr)}
    {pubkey : Except ParseError Key} {username path : String} {port : Option UInt16}
    {v : NodeLocator Key} (read : zmqLocator zmqType ip pubkey username path port = .ok v) :
    (∃ key addr, ip = some (.ok addr) ∧ pubkey = .ok key ∧ v = zmqTcpEncrypted key zmqType addr port) ∨
      (∃ addr, ip = some (.ok addr) ∧ username = "" ∧ v = zmqTcpUnencrypted zmqType addr port) ∨
      (ip = none ∧ path ≠ "" ∧ (username = "" ∨ ∃ key, pubkey = .ok key) ∧ v = zmqIpc path zmqType) := by
  -- Each arm by the address and key it was given; the guarded arms fall through only for an
  -- empty username, and the path decides between an IPC locator and an error.
  unfold zmqLocator at read
  rcases ip with _ | ⟨_ | addr⟩ <;> rcases pubkey with _ | key <;> simp only at read <;>
    (try split_ifs at read) <;> cases read <;> simp_all

/-- What reading a URL can give: a node with the username's key, a ZMQ arm, or a host key. -/
theorem tryFrom_cases [PublicKeyText Key] [OnionText] {url : Url} {v : NodeLocator Key} (read : tryFrom url = .ok v) :
    (∃ key, pubkeyOf url.username = .ok key ∧
      ((∃ inet, inetOf url.hostStr = .ok inet ∧
          (v = native key inet url.port ∨ v = http key inet url.port ∨ v = websocket key inet url.port)) ∨
        ∃ addr, (url.hostStr.map ipOf).getD (.error .hostRequired) = .ok addr ∧
          v = udp key addr url.port)) ∨
      (∃ api, apiTypeOf url = .ok api ∧
        zmqLocator api (url.hostStr.map ipOf) (pubkeyOf url.username) url.username url.path url.port = .ok v) ∨
      (∃ host key, url.scheme = "lnpt" ∧ (PublicKeyText.fromStr url.username : Option Key) = none ∧
        url.port = none ∧ url.hostStr = some host ∧ pubkeyOf host = .ok key ∧ v = text key) := by
  -- One arm per scheme; the node arms read the username's key before the host.
  unfold tryFrom tryFromWith at read
  simp only [Features.all, ↓reduceIte] at read
  split at read
  case h_5 =>
    cases role : apiTypeOf url <;> simp only [role, Bind.bind, Except.bind] at read
    · cases read
    · exact .inr (.inl ⟨_, rfl, read⟩)
  case h_6 =>
    -- `lnpt`: a key as username or a port is refused, then the host is read as a key.
    split at read
    · cases read
    · cases read
    · simp only [Except.map] at read
      split at read
      · cases read
      · cases read
        refine .inr (.inr ⟨_, _, ‹_›, ?_, ‹_›, ‹_›, ‹_›, rfl⟩)
        cases named : (PublicKeyText.fromStr url.username : Option Key) with
        | none => rfl
        | some userKey => exact (‹∀ a, _ → False› userKey (by simp [pubkeyOf, named])).elim
    · cases read
  case h_7 => cases read
  all_goals
    cases keyRead : (pubkeyOf url.username : Except ParseError Key) <;>
      simp only [keyRead, Bind.bind, Except.bind] at read
    · cases read
    · split at read
      · cases read
      · cases read
        simp_all

/--
A locator read from a URL has no node id only when the URL has no username or no host, and
every node id but a text key's is the key the username names.
-/
theorem tryFrom_nodeId [PublicKeyText Key] [OnionText] {url : Url} {v : NodeLocator Key} (read : tryFrom url = .ok v) :
    (v.nodeId = none → url.username = "" ∨ url.hostStr = none) ∧
      ((∀ key, v ≠ text key) → ∀ key, v.nodeId = some key → PublicKeyText.fromStr url.username = some key) := by
  rcases tryFrom_cases read with ⟨key, keyRead, ⟨inet, -, node⟩ | ⟨addr, -, rfl⟩⟩ | ⟨api, -, zmq⟩ |
    ⟨host, key, -, -, -, -, -, rfl⟩
  · rcases node with rfl | rfl | rfl <;> simp [nodeId, components, pubkeyOf_ok keyRead]
  · simp [nodeId, components, pubkeyOf_ok keyRead]
  · rcases zmqLocator_cases zmq with ⟨key, addr, -, keyRead, rfl⟩ | ⟨addr, -, empty, rfl⟩ |
      ⟨noHost, -, -, rfl⟩
    · simp [nodeId, components, pubkeyOf_ok keyRead]
    · simp [nodeId, components, empty]
    · simp_all [nodeId, components]
  · exact ⟨by simp [nodeId, components], fun notText => absurd rfl (notText key)⟩

/-- A locator read from a string is read from the URL the normalised string parses as. -/
theorem fromStr_ok [PublicKeyText Key] [OnionText] {s : String} {v : NodeLocator Key} (read : fromStr s = .ok v) :
    ∃ url, Url.parse (normalize s) = some url ∧ tryFrom url = .ok v := by
  rw [fromStr_eq] at read
  split at read
  · exact ⟨_, ‹_›, read⟩
  · cases read

/--
A node id written in the URL is never dropped: with a username, the locator read has a node id,
and every node id but a text key's is the key the username names.
-/
theorem fromStr_keeps_nodeId [PublicKeyText Key] [OnionText] {s : String} {url : Url} {v : NodeLocator Key}
    (parsed : Url.parse (normalize s) = some url) (read : fromStr s = .ok v) :
    (url.username ≠ "" → v.nodeId ≠ none) ∧
      ((∀ key, v ≠ text key) → v.nodeId ≠ none → v.nodeId = PublicKeyText.fromStr url.username) := by
  -- A username comes with a host, and the reader drops node ids only without one of the two.
  obtain ⟨same, parsedAgain, read⟩ := fromStr_ok read
  obtain ⟨noId, keyed⟩ := tryFrom_nodeId (Option.some.inj (parsed.symm.trans parsedAgain) ▸ read)
  refine ⟨fun named missing => ?_, fun notText present => ?_⟩
  · obtain ⟨host, found⟩ := Url.parse_hostStr_of_username parsed named
    rcases noId missing with empty | noHost
    · exact named empty
    · rw [found] at noHost
      cases noHost
  · obtain ⟨key, found⟩ := Option.ne_none_iff_exists'.mp present
    rw [found, keyed notText key found]

set_option maxRecDepth 2000 in
/-- The encrypted ZMQ locator of the source's tests has the node id its username names. -/
theorem fromStr_keeps_nodeId_test :
    (zmqTcpEncrypted HexKey.test .peerConnecting (.v4 ⟨127, 0, 0, 1⟩) none).nodeId =
      PublicKeyText.fromStr "022e58afe51f9ed8ad3cc7897f634d881fdbe49a81564629ded8156bebd2ffd1af" :=
  (@fromStr_keeps_nodeId HexKey _ _
    "lnpz://022e58afe51f9ed8ad3cc7897f634d881fdbe49a81564629ded8156bebd2ffd1af@127.0.0.1/?api=p2p"
    ⟨"lnpz", "022e58afe51f9ed8ad3cc7897f634d881fdbe49a81564629ded8156bebd2ffd1af", "",
      some "127.0.0.1", none, "/", some "api=p2p", none⟩
    (zmqTcpEncrypted HexKey.test .peerConnecting (.v4 ⟨127, 0, 0, 1⟩) none) (by rfl) (by rfl)).2
    (fun _ => nofun) nofun

/-! ## Errors -/

/-- A failed bind failed in its first computation or in the continuation. -/
theorem bind_error {ε α β : Type} {x : Except ε α} {f : α → Except ε β} {e : ε}
    (failed : x >>= f = .error e) : x = .error e ∨ ∃ a, x = .ok a ∧ f a = .error e := by
  cases x with
  | error => exact .inl (by simpa [Bind.bind, Except.bind] using failed)
  | ok a => exact .inr ⟨a, rfl, failed⟩

/-- A key fails to be read only as an invalid public key. -/
theorem pubkeyOf_error [PublicKeyText Key] {text : String} {e : ParseError}
    (read : (pubkeyOf text : Except ParseError Key) = .error e) : e = .invalidPubkey := by
  unfold pubkeyOf at read
  split at read <;> cases read
  rfl

/-- A required host fails as missing, or as invalid when there is one. -/
theorem inetOf_error [OnionText] {features : Features} {url : Url} {e : ParseError}
    (read : inetOf url.hostStr = .error e) : e.describes features url = true := by
  unfold inetOf at read
  split at read
  · cases read
    rfl
  · split at read <;> cases read
    simp [ParseError.describes, *]

/-- An IP host fails as missing, or as invalid when there is one. -/
theorem hostIp_error {features : Features} {url : Url} {e : ParseError}
    (read : (url.hostStr.map ipOf).getD (.error .hostRequired) = .error e) : e.describes features url = true := by
  cases found : url.hostStr with
  | none =>
    simp only [found, Option.map_none', Option.getD_none, Except.error.injEq] at read
    simp [← read, ParseError.describes]
  | some host =>
    simp only [found, Option.map_some', Option.getD_some, ipOf] at read
    split at read <;> cases read
    simp [ParseError.describes, found]

/-- A role fails as missing, or as unsupported with the first `api` value lower-cased. -/
theorem apiTypeOf_error {features : Features} {url : Url} {e : ParseError} (read : apiTypeOf url = .error e) :
    e.describes features url = true := by
  unfold apiTypeOf apiTypeOfToken at read
  split at read
  · rename_i pair found
    split at read <;> cases read
    simp [ParseError.describes, found]
  · cases read
    rfl

/-- The `lnpz` arms fail only on an address they cannot read or an IPC locator with no path. -/
theorem zmqLocator_error {zmqType : ApiType} {ip : Option (Except ParseError IpAddr)}
    {pubkey : Except ParseError Key} {username path : String} {port : Option UInt16} {e : ParseError}
    (read : zmqLocator zmqType ip pubkey username path port = .error e) :
    e = .invalidIp ∨ e = .inprocRequireZmqContext := by
  unfold zmqLocator at read
  rcases ip with _ | ⟨_ | addr⟩ <;> rcases pubkey with _ | key <;> simp only at read <;>
    (try split_ifs at read) <;> cases read <;> simp

/-- Every error of reading a URL, in a build with any features, says something true of the URL. -/
theorem tryFromWith_error [PublicKeyText Key] [OnionText] {features : Features} {url : Url} {e : ParseError}
    (read : (tryFromWith features url : Except ParseError (NodeLocator Key)) = .error e) :
    e.describes features url = true := by
  -- One arm per scheme; each error is raised by the part of the URL it names.
  have keyFails : ∀ {text}, (pubkeyOf text : Except ParseError Key) = .error e → e.describes features url = true :=
    fun failed => by rw [pubkeyOf_error failed]; rfl
  have node : ∀ {f : Key → InetAddr → Option UInt16 → NodeLocator Key},
      (pubkeyOf url.username >>= fun key => inetOf url.hostStr >>= fun inet => pure (f key inet url.port)) =
        .error e → e.describes features url = true := fun read => by
    -- The key, then a network address.
    rcases bind_error read with failed | ⟨key, -, read⟩
    · exact keyFails failed
    rcases bind_error read with failed | ⟨inet, -, read⟩
    · exact inetOf_error failed
    · cases read
  unfold tryFromWith at read
  split at read
  case h_1 => exact node read
  case h_2 =>
    -- `lnpu`: the key, then an IP host.
    rcases bind_error read with failed | ⟨key, -, read⟩
    · exact keyFails failed
    rcases bind_error read with failed | ⟨addr, -, read⟩
    · exact hostIp_error failed
    · cases read
  case h_3 => exact node read
  case h_4 lnpws =>
    -- `lnpws`: a node arm, or the unknown scheme without the feature.
    split at read
    · exact node read
    · cases read
      simp_all [ParseError.describes]
  case h_5 lnpz =>
    -- `lnpz`: the role, then the ZMQ arms, or the unknown scheme without the feature.
    split at read
    · rcases bind_error read with failed | ⟨api, -, read⟩
      · exact apiTypeOf_error failed
      · rcases zmqLocator_error read with rfl | rfl <;> rfl
    · cases read
      simp_all [ParseError.describes]
  case h_6 =>
    dsimp only at read
    split at read
    · cases read
      rfl
    · cases read
      rfl
    · simp only [Except.map] at read
      split at read <;> cases read
      exact keyFails ‹_›
    · cases read
      rfl
  case h_7 =>
    -- Any other scheme is named by the error.
    cases read
    simp_all [ParseError.describes, locatorSchemes]

/-- An error of reading a string is a malformed URL, or says something true of the URL read. -/
theorem fromStrWith_error [PublicKeyText Key] [OnionText] {features : Features} {s : String} {e : ParseError}
    (read : (fromStrWith features s : Except ParseError (NodeLocator Key)) = .error e) :
    (Url.parse (normalize s) = none ∧ e = .malformedUrl) ∨
      ∃ url, Url.parse (normalize s) = some url ∧ e.describes features url = true := by
  unfold fromStrWith at read
  split at read
  · exact .inr ⟨_, ‹_›, tryFromWith_error read⟩
  · cases read
    exact .inl ⟨‹_›, rfl⟩

/-- The locator schemes are plain schemes. -/
theorem locatorScheme_plain : ∀ scheme ∈ locatorSchemes, Url.PlainScheme scheme := by
  simp only [locatorSchemes, List.mem_cons, List.mem_singleton, List.not_mem_nil, or_false]
  rintro scheme (rfl | rfl | rfl | rfl | rfl | rfl) <;> exact ⟨by decide, fun _ => rfl, rfl⟩

/-- Every string read as a URL after normalising has a locator scheme. -/
theorem parse_normalize_scheme {s : String} {url : Url} (parsed : Url.parse (normalize s) = some url) :
    url.scheme ∈ locatorSchemes := by
  unfold normalize at parsed
  split at parsed
  · -- The string starts with a locator scheme and its colon.
    obtain ⟨lead, member, isPrefix⟩ := List.any_eq_true.mp ‹_›
    obtain ⟨rest, whole⟩ := List.isPrefixOf_iff_prefix.mp isPrefix
    rw [schemePrefixes_eq, List.mem_map] at member
    obtain ⟨scheme, known, rfl⟩ := member
    rw [@Url.parse_scheme_eq _ _ rest _ (locatorScheme_plain scheme known)
      (by simpa [String.toList] using whole.symm) parsed]
    exact known
  · -- Any other string is read after `lnp://`.
    rw [@Url.parse_scheme_eq _ _ ('/' :: '/' :: s.data) _ (locatorScheme_plain "lnp" (by decide))
      (by simp) parsed]
    decide

/--
`from_str` meets an unknown scheme only in a build without a feature: every string is read with
a locator scheme, and the scheme of an arm the build leaves out falls to `UnknownUrlScheme`. So
with the `zmq` and `websockets` features on, no string gives `UnknownUrlScheme`.
-/
theorem fromStrWith_unknownUrlScheme [PublicKeyText Key] [OnionText] (features : Features) (s scheme : String) :
    (fromStrWith features s : Except ParseError (NodeLocator Key)) = .error (.unknownUrlScheme scheme) ↔
      (Url.parse (normalize s)).map Url.scheme = some scheme ∧
        (scheme = "lnpz" ∧ features.zmq = false ∨ scheme = "lnpws" ∧ features.websockets = false) := by
  constructor
  · intro read
    rcases fromStrWith_error read with ⟨-, wrong⟩ | ⟨url, parsed, described⟩
    · cases wrong
    · -- The scheme is a locator scheme, so its arm is one the build leaves out.
      simp only [ParseError.describes, decide_eq_true_eq] at described
      obtain ⟨rfl, unknown | gated⟩ := described
      · exact absurd (parse_normalize_scheme parsed) unknown
      · exact ⟨by simp [parsed], gated⟩
  · rintro ⟨named, gated⟩
    obtain ⟨url, parsed, rfl⟩ := Option.map_eq_some'.mp named
    unfold fromStrWith tryFromWith
    rw [parsed]
    rcases gated with ⟨scheme, off⟩ | ⟨scheme, off⟩ <;> simp [scheme, off]

/-! ## Blanks after a string -/

/-- A prefix ending in `:` is a prefix of text with a tail of no `:` only if it is one of the text. -/
theorem isPrefixOf_append_blank {front text blank : List Char} (last : front.getLast? = some ':')
    (noColon : ':' ∉ blank) : front.isPrefixOf (text ++ blank) = front.isPrefixOf text := by
  -- A prefix longer than the text would end inside the tail, at its `:`.
  rw [Bool.eq_iff_iff, List.isPrefixOf_iff_prefix, List.isPrefixOf_iff_prefix]
  refine ⟨fun longer => ?_, fun shorter => shorter.trans (List.prefix_append text blank)⟩
  rcases List.prefix_or_prefix_of_prefix longer (List.prefix_append text blank) with inText | ⟨tail, rfl⟩
  · exact inText
  · rcases tail.eq_nil_or_concat with rfl | ⟨more, c, rfl⟩
    · simp
    · have colon : c = ':' := by simpa using last
      subst colon
      exact absurd (((List.prefix_append_right_inj text).mp longer).subset (by simp)) noColon

/-- Controls and spaces after a string stay after the normalised string. -/
theorem normalize_append_blank (s : String) {blank : String}
    (trimmed : ∀ c ∈ blank.data, isC0ControlOrSpace c = true) : normalize (s ++ blank) = normalize s ++ blank := by
  -- Every scheme prefix ends in `:`, which no blank is.
  have noColon : ':' ∉ blank.data := fun colon => absurd (trimmed ':' colon) (by decide)
  have colons : ∀ p ∈ schemePrefixes, p.toList.getLast? = some ':' := by decide
  have same : (schemePrefixes.any fun p => p.toList.isPrefixOf (s ++ blank).toList) =
      schemePrefixes.any fun p => p.toList.isPrefixOf s.toList := by
    rw [Bool.eq_iff_iff, List.any_eq_true, List.any_eq_true]
    refine exists_congr fun p => and_congr_right fun member => ?_
    rw [show (s ++ blank).toList = s.toList ++ blank.data from rfl,
      isPrefixOf_append_blank (colons p member) noColon]
  unfold normalize
  rw [same]
  split <;> simp [String.append_assoc]

/--
`from_str` ignores controls and spaces after a string: the URL parser trims them, and each
scheme prefix ends in a `:` before them. Before a string they are not ignored.
-/
theorem fromStr_append_blank [PublicKeyText Key] [OnionText] (s : String) {blank : String}
    (trimmed : ∀ c ∈ blank.data, isC0ControlOrSpace c = true) :
    (fromStr (s ++ blank) : Except ParseError (NodeLocator Key)) = fromStr s := by
  rw [fromStr_eq, fromStr_eq, normalize_append_blank s trimmed, Url.parse_append_blank _ trimmed]

set_option maxRecDepth 2000 in
/-- A node address followed by a space and a newline is read as the node address. -/
theorem fromStr_append_blank_newline :
    (fromStr ("022e58afe51f9ed8ad3cc7897f634d881fdbe49a81564629ded8156bebd2ffd1af@127.0.0.1" ++ " \n") :
      Except ParseError (NodeLocator HexKey)) = .ok (native HexKey.test (.ipv4 ⟨127, 0, 0, 1⟩) none) :=
  (fromStr_append_blank _ (by decide)).trans (by rfl)

set_option maxRecDepth 2000 in
example : (fromStr (" " ++ "lnp://022e58afe51f9ed8ad3cc7897f634d881fdbe49a81564629ded8156bebd2ffd1af@127.0.0.1") :
      Except ParseError (NodeLocator HexKey)) = .error .malformedUrl := by
  rfl

/-! ## What the codec reads -/

/-- Roles an `api` token reads as are left alone by reading back. -/
theorem apiTypeOf_readBack {url : Url} {api : ApiType} (read : apiTypeOf url = .ok api) :
    api.readBack = api := by
  -- The four tokens give the connecting end, the client, the subscriber and the bus service.
  unfold apiTypeOf apiTypeOfToken at read
  split at read
  · split at read <;> cases read <;> rfl
  · cases read

/-- A locator read from a URL is left alone by reading its role back, and is no POSIX or in-process locator. -/
theorem tryFrom_readBack [PublicKeyText Key] [OnionText] {url : Url} {v : NodeLocator Key} (read : tryFrom url = .ok v) :
    v.readBack = v ∧ (∀ path, v ≠ posix path) ∧ ∀ name api, v ≠ zmqInproc name api := by
  rcases tryFrom_cases read with ⟨key, -, ⟨inet, -, node⟩ | ⟨addr, -, rfl⟩⟩ | ⟨api, role, zmq⟩ |
    ⟨host, key, -, -, -, -, -, rfl⟩
  · rcases node with rfl | rfl | rfl <;> simp [readBack, mapApi]
  · simp [readBack, mapApi]
  · have fixed := apiTypeOf_readBack role
    rcases zmqLocator_cases zmq with ⟨key, addr, -, -, rfl⟩ | ⟨addr, -, -, rfl⟩ | ⟨-, -, -, rfl⟩ <;>
      simp [readBack, mapApi, fixed]
  · simp [readBack, mapApi]

/-- A locator read from a string is left alone by reading its role back. -/
theorem fromStr_settled [PublicKeyText Key] [OnionText] {s : String} {v : NodeLocator Key} (read : fromStr s = .ok v) :
    v.readBack = v := by
  obtain ⟨url, -, read⟩ := fromStr_ok read
  exact (tryFrom_readBack read).1

/--
Every locator read from a string has a role some token reads as (never the listening end or
the reply server), and is no POSIX or in-process locator.
-/
theorem fromStr_readBack [PublicKeyText Key] [OnionText] {s : String} {v : NodeLocator Key} (read : fromStr s = .ok v) :
    v.readBack = v ∧ (∀ path, v ≠ posix path) ∧ ∀ name api, v ≠ zmqInproc name api := by
  obtain ⟨url, -, read⟩ := fromStr_ok read
  exact tryFrom_readBack read

set_option maxRecDepth 2000 in
/-- The source's encrypted ZMQ test locator carries the connecting role. -/
theorem fromStr_readBack_test :
    (zmqTcpEncrypted HexKey.test .peerConnecting (.v4 ⟨127, 0, 0, 1⟩) none).readBack =
      zmqTcpEncrypted HexKey.test .peerConnecting (.v4 ⟨127, 0, 0, 1⟩) none :=
  (@fromStr_readBack HexKey _ _
    "lnpz://022e58afe51f9ed8ad3cc7897f634d881fdbe49a81564629ded8156bebd2ffd1af@127.0.0.1/?api=p2p" _
    (by rfl)).1

/--
A ZMQ IPC path starting with `//` is read from an empty authority, but written back it
becomes an authority whose host is no IP address.
-/
theorem fromStr_ipc_slashes :
    (fromStr "lnpz:////foo?api=p2p" : Except ParseError (NodeLocator HexKey)) =
        .ok (zmqIpc "//foo" .peerConnecting) ∧
      (zmqIpc "//foo" .peerConnecting : NodeLocator HexKey).toUrlString = "lnpz://foo?api=p2p" ∧
      (fromStr (zmqIpc "//foo" .peerConnecting : NodeLocator HexKey).toUrlString :
        Except ParseError (NodeLocator HexKey)) = .error .invalidIp :=
  ⟨rfl, rfl, rfl⟩

end NodeLocator

end Internet2
