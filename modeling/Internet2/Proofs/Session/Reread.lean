import Internet2.Proofs.Url.Reread
import Internet2.Proofs.Session.Parsing

/-!
What the codec does with its own output. A rooted IPC path is read as the URL parser writes it,
percent-encoded and never decoded, and an IPC locator's string reads back exactly when the URL
parser keeps its path. A locator read from a string is written as a string
that reads back as the same locator exactly when it has no IPv6 address and no socket path that
starts with `//`; behind such a path's `//`, an IP address is read back as a TCP socket. An IPv6
address is only ever read into a native, HTTP or WebSocket locator: `IpAddr::from_str` never
reads the bracketed host a URL gives for one. The alternate display of a locator with a node id
and an address reads back as a native locator.
-/

namespace Internet2

namespace NodeLocator

variable {Key : Type}

/-! ## IPC paths -/

/-- A URL read as an IPC locator has no host, and its path is the locator's path, not empty. -/
theorem tryFrom_zmqIpc [PublicKeyText Key] [OnionText] {url : Url} {path : String} {api : ApiType}
    (read : tryFrom url = .ok (zmqIpc path api : NodeLocator Key)) :
    url.hostStr = none ∧ url.path = path ∧ path ≠ "" := by
  rcases tryFrom_cases read with ⟨key, -, ⟨inet, -, node⟩ | ⟨addr, -, same⟩⟩ | ⟨role, -, zmq⟩ |
    ⟨host, key, -, -, -, -, -, same⟩
  · rcases node with same | same | same <;> cases same
  · cases same
  · rcases zmqLocator_cases zmq with ⟨key, addr, -, -, same⟩ | ⟨addr, -, -, same⟩ | ⟨noHost, named, -, same⟩
    · cases same
    · cases same
    · cases same
      exact ⟨Option.map_eq_none'.mp noHost, rfl, named⟩
  · cases same

/-- Every IPC locator read from a string has a path the URL parser wrote, and not an empty one. -/
theorem fromStr_zmqIpc_path [PublicKeyText Key] [OnionText] {s path : String} {api : ApiType}
    (read : fromStr s = .ok (zmqIpc path api : NodeLocator Key)) : Url.ParsedPath path.data ∧ path ≠ "" := by
  obtain ⟨url, parsed, read⟩ := fromStr_ok read
  obtain ⟨-, rfl, named⟩ := tryFrom_zmqIpc read
  exact ⟨Url.parse_parsedPath parsed, named⟩

/--
A rooted IPC path read from a string is kept as the URL parser writes it and never decoded:
every segment after its first `/` is ASCII outside the path percent-encode set, and none is a
dot segment. So the socket `lnpz:/tmp/my socket` names is `/tmp/my%20socket`.
-/
theorem fromStr_zmqIpc_rooted [PublicKeyText Key] [OnionText] {s path : String} {rest : List Char} {api : ApiType}
    (read : fromStr s = .ok (zmqIpc path api : NodeLocator Key)) (rooted : path.data = '/' :: rest) :
    ∀ segment ∈ rest.splitOn '/', (∀ c ∈ segment, c.toNat < 128 ∧ Url.pathSet c = false) ∧
      Url.isSingleDot segment = false ∧ Url.isDoubleDot segment = false := by
  -- A written path with a leading `/` was read segment by segment.
  intro segment member
  have settled := (rooted ▸ (fromStr_zmqIpc_path read).1).settled_of_slash segment member
  exact ⟨settled.encoded, settled.notSingleDot, settled.notDoubleDot⟩

/-- A space in a rooted IPC path is read as `%20`. -/
theorem fromStr_zmqIpc_rooted_space :
    (fromStr "lnpz:/tmp/my socket?api=p2p" : Except ParseError (NodeLocator HexKey)) =
        .ok (zmqIpc "/tmp/my%20socket" .peerConnecting) ∧
      ∀ segment ∈ "tmp/my%20socket".data.splitOn '/', (∀ c ∈ segment, c.toNat < 128 ∧ Url.pathSet c = false) ∧
        Url.isSingleDot segment = false ∧ Url.isDoubleDot segment = false :=
  have read : (fromStr "lnpz:/tmp/my socket?api=p2p" : Except ParseError (NodeLocator HexKey)) =
      .ok (zmqIpc "/tmp/my%20socket" .peerConnecting) := by
    rfl
  ⟨read, fromStr_zmqIpc_rooted read rfl⟩

/-- The string of an IPC locator whose path the parser keeps reads back with the role read back. -/
theorem fromStr_zmqIpc_kept [PublicKeyText Key] [LawfulPublicKeyText Key] [OnionText] {path : String} (api : ApiType)
    (kept : Url.KeptPath path.data) :
    (fromStr (zmqIpc path api : NodeLocator Key).toUrlString : Except ParseError (NodeLocator Key)) =
      .ok (zmqIpc path api.readBack) := by
  have parsed : Url.parse (zmqIpc path api : NodeLocator Key).toUrlString = some (zmqIpc path api : NodeLocator Key).url := by
    rw [Url.parse_keptPath_query (urlScheme_plain _) ?_ kept (apiQuery_plain api)]
    · rfl
    · simp [toUrlString]
  have named : path ≠ "" := fun empty => kept.nonEmpty (by rw [empty])
  simp only [fromStr_eq, normalize_toUrlString, parsed]
  exact tryFrom_url_zmqIpc api named

/-- The string of an IPC locator whose written path starts with `//` is read as no IPC locator with that path. -/
theorem fromStr_zmqIpc_slashes [PublicKeyText Key] [OnionText] {path : String} (api role : ApiType)
    (parsed : Url.ParsedPath path.data) (slashes : path.startsWith "//" = true) :
    (fromStr (zmqIpc path api : NodeLocator Key).toUrlString : Except ParseError (NodeLocator Key)) ≠
      .ok (zmqIpc path role) := by
  -- Written after the scheme, the path's `//` starts an authority, and no host leaves another path.
  intro reread
  obtain ⟨rest, front⟩ := Url.startsWith_slashes slashes
  obtain ⟨url, parsedUrl, read⟩ := fromStr_ok reread
  obtain ⟨noHost, samePath, -⟩ := tryFrom_zmqIpc read
  rw [normalize_toUrlString] at parsedUrl
  refine Url.parse_slashes (urlScheme_plain (zmqIpc path api : NodeLocator Key)) ?_ (front ▸ parsed)
    (apiQuery_plain api) parsedUrl noHost (by rw [samePath, front])
  simp [toUrlString, front]

/--
The string of an IPC locator reads back as the locator with its role read back exactly when the
URL parser keeps its path: a path the parser rewrites, or one that starts with `//`, is not read
back.
-/
theorem fromStr_zmqIpc_iff [PublicKeyText Key] [LawfulPublicKeyText Key] [OnionText] {path : String}
    (api : ApiType) :
    (fromStr (zmqIpc path api : NodeLocator Key).toUrlString : Except ParseError (NodeLocator Key)) =
      .ok (zmqIpc path api.readBack) ↔ Url.KeptPath path.data := by
  refine ⟨fun reread => ?_, fromStr_zmqIpc_kept api⟩
  -- The path read back is one the parser wrote, and it does not start with `//`.
  obtain ⟨parsed, named⟩ := fromStr_zmqIpc_path reread
  exact parsed.kept (fun empty => named (String.ext empty)) fun rest front =>
    fromStr_zmqIpc_slashes api api.readBack parsed (Url.startsWith_of_slashes front) reread

/-- An IPC path with a space is kept by the URL parser when it does not start with `/`. -/
theorem fromStr_zmqIpc_iff_space :
    (fromStr (zmqIpc "./my socket" .peerConnecting : NodeLocator HexKey).toUrlString :
      Except ParseError (NodeLocator HexKey)) = .ok (zmqIpc "./my socket" .peerConnecting) ∧
      Url.KeptPath "./my socket".data :=
  have kept : Url.KeptPath "./my socket".data := by decide
  ⟨(fromStr_zmqIpc_iff .peerConnecting).mpr kept, kept⟩

/--
An IPC path `//host` is written as an authority: the string of `ZmqIpc("//host", role)` is read
as the unencrypted TCP locator of `host` when `host` is an IP address, and fails with `InvalidIp`
otherwise. Printing and reading again can change a locator's transport.
-/
theorem fromStr_zmqIpc_authority [PublicKeyText Key] [LawfulPublicKeyText Key] [OnionText] {host : String}
    (api : ApiType) (hostPlain : ∀ c ∈ host.data, Url.isHostChar c = true) (nonEmpty : host ≠ "") :
    (fromStr (zmqIpc ("//" ++ host) api : NodeLocator Key).toUrlString : Except ParseError (NodeLocator Key)) =
      match IpAddr.fromStr host with
      | some ip => .ok (zmqTcpUnencrypted api.readBack ip none)
      | none => .error .invalidIp := by
  -- The path's `//` opens an authority with no username, whose host is read as an IP address.
  have parsed : Url.parse (zmqIpc ("//" ++ host) api : NodeLocator Key).toUrlString =
      some ⟨"lnpz", "", "", some host, none, "", some ("api=" ++ api.apiName), none⟩ := by
    rw [@Url.parse_authority _ "lnpz" none host.data [] none (some ("api=" ++ api.apiName).data)
      (urlScheme_plain (zmqIpc "" api : NodeLocator Key)) ?_ (.inl rfl) (by simp) hostPlain
      (fun empty => nonEmpty (String.ext empty)) (apiQuery_plain api)]
    · rfl
    · simp [toUrlString, urlScheme, Url.authorityText]
  have noKey : (pubkeyOf "" : Except ParseError Key) = .error .invalidPubkey := by
    simp [pubkeyOf, LawfulPublicKeyText.fromStr_empty]
  have role : apiTypeOf ⟨"lnpz", "", "", some host, none, "", some ("api=" ++ api.apiName), none⟩ =
      .ok api.readBack :=
    apiTypeOf_apiName rfl
  simp only [fromStr_eq, normalize_toUrlString, parsed, tryFrom, tryFromWith, Features.all, ↓reduceIte,
    Url.hostStr_eq_filter]
  cases found : IpAddr.fromStr host <;>
    simp [Option.filter, nonEmpty, ipOf, found, zmqLocator, noKey, role, Bind.bind, Except.bind]

set_option maxRecDepth 2000 in
/-- The IPC socket `//127.0.0.1` becomes a TCP socket at the loopback address. -/
theorem fromStr_zmqIpc_authority_loopback :
    (fromStr "lnpz:////127.0.0.1?api=p2p" : Except ParseError (NodeLocator HexKey)) =
        .ok (zmqIpc "//127.0.0.1" .peerConnecting) ∧
      (fromStr (zmqIpc "//127.0.0.1" .peerConnecting : NodeLocator HexKey).toUrlString :
        Except ParseError (NodeLocator HexKey)) = .ok (zmqTcpUnencrypted .peerConnecting (.v4 ⟨127, 0, 0, 1⟩) none) :=
  ⟨by rfl,
    (@fromStr_zmqIpc_authority HexKey _ _ _ "127.0.0.1" .peerConnecting (by decide) (by decide)).trans (by rfl)⟩

/-! ## The codec on its own output -/

/-- A locator read from a string is readable exactly when it has no IPv6 address and no socket path that starts with `//`. -/
theorem isReadable_iff [PublicKeyText Key] [OnionText] {s : String} {v : NodeLocator Key}
    (read : fromStr s = .ok v) :
    v.isReadable = true ↔
      v.inetAddr.any InetAddr.isIpv6 = false ∧ v.socketName.any (·.startsWith "//") = false := by
  obtain ⟨url, -, readUrl⟩ := fromStr_ok read
  obtain ⟨-, notPosix, notInproc⟩ := tryFrom_readBack readUrl
  cases v with
  | posix path => exact absurd rfl (notPosix path)
  | zmqInproc name api => exact absurd rfl (notInproc name api)
  | zmqIpc path api =>
    -- A path the URL parser wrote is kept exactly when it does not start with `//`.
    obtain ⟨parsed, named⟩ := fromStr_zmqIpc_path read
    simp only [isReadable, decide_eq_true_eq, inetAddr, socketName, components, Option.any_none,
      Option.any_some, true_and]
    refine ⟨Url.KeptPath.startsWith, fun slashes => parsed.kept (fun empty => named (String.ext empty))
      fun rest front => ?_⟩
    simp [Url.startsWith_of_slashes front] at slashes
  | _ => simp [isReadable, socketName, components]

/-- A locator whose string reads back as itself is readable. -/
theorem isReadable_of_reread [PublicKeyText Key] [LawfulPublicKeyText Key] [OnionText] {v : NodeLocator Key}
    (reread : fromStr v.toUrlString = .ok v) : v.isReadable = true := by
  obtain ⟨url, -, readUrl⟩ := fromStr_ok reread
  obtain ⟨-, notPosix, notInproc⟩ := tryFrom_readBack readUrl
  refine (isReadable_iff reread).mpr ⟨Bool.eq_false_iff.mpr fun ipv6 => ?_, ?_⟩
  · -- An IPv6 address gives no URL.
    have missing := toUrl_none_of_ipv6 ipv6
    unfold toUrl at missing
    simp [fromStr_eq, normalize_toUrlString, missing] at reread
  · -- An IPC path that starts with `//` is read back as an authority.
    cases v with
    | zmqIpc path api =>
      obtain ⟨parsed, -⟩ := fromStr_zmqIpc_path reread
      cases slashes : path.startsWith "//" with
      | false => simp [socketName, components, slashes]
      | true => exact absurd reread (fromStr_zmqIpc_slashes api api parsed slashes)
    | posix path => exact absurd rfl (notPosix path)
    | zmqInproc name api => exact absurd rfl (notInproc name api)
    | _ => rfl

/--
A locator read from a string is written as a string that reads back as the same locator exactly
when it has no IPv6 address, which is written without brackets, and no socket path that starts
with `//`, which is read back as an authority.
-/
theorem fromStr_toUrlString_fromStr [PublicKeyText Key] [LawfulPublicKeyText Key] [OnionText] [LawfulOnionText]
    {s : String} {v : NodeLocator Key} (read : fromStr s = .ok v) :
    fromStr v.toUrlString = .ok v ↔
      v.inetAddr.any InetAddr.isIpv6 = false ∧ v.socketName.any (·.startsWith "//") = false := by
  -- The string reads back exactly when the locator is readable, and then as the locator itself.
  rw [← isReadable_iff read]
  exact ⟨isReadable_of_reread, fun readable => (fromStr_readable readable).trans (congrArg _ (fromStr_settled read))⟩

/-- An IPC socket path the URL parser percent-encoded reads back as itself. -/
theorem fromStr_toUrlString_fromStr_space :
    (fromStr "lnpz:/tmp/my socket?api=p2p" : Except ParseError (NodeLocator HexKey)) =
        .ok (zmqIpc "/tmp/my%20socket" .peerConnecting) ∧
      (fromStr (zmqIpc "/tmp/my%20socket" .peerConnecting : NodeLocator HexKey).toUrlString :
        Except ParseError (NodeLocator HexKey)) = .ok (zmqIpc "/tmp/my%20socket" .peerConnecting) :=
  have read : (fromStr "lnpz:/tmp/my socket?api=p2p" : Except ParseError (NodeLocator HexKey)) =
      .ok (zmqIpc "/tmp/my%20socket" .peerConnecting) := by
    rfl
  have noSlashes : "/tmp/my%20socket".startsWith "//" = false := by
    cases starts : "/tmp/my%20socket".startsWith "//" with
    | false => rfl
    | true =>
      obtain ⟨rest, front⟩ := Url.startsWith_slashes starts
      cases front
  ⟨read, (fromStr_toUrlString_fromStr read).mpr ⟨rfl, noSlashes⟩⟩

/-! ## IPv6 addresses -/

/-- An IP address read from a parsed URL's host is never an IPv6 address. -/
theorem hostIp_ne_v6 {s : String} {url : Url} {ip : IpAddr} (parsed : Url.parse (normalize s) = some url)
    (read : url.hostStr.map ipOf = some (.ok ip)) : ∀ addr, ip ≠ .v6 addr := by
  rintro addr rfl
  obtain ⟨host, named, hostRead⟩ := Option.map_eq_some'.mp read
  unfold ipOf at hostRead
  split at hostRead
  · cases hostRead
    exact Url.parse_hostStr_ne_v6 parsed named addr ‹_›
  · cases hostRead

/--
Every locator read from a string with an IPv6 address is a native, HTTP or WebSocket locator:
the UDP and ZMQ arms read the host with `IpAddr::from_str`, which refuses the brackets a URL
writes an IPv6 host in.
-/
theorem fromStr_ipv6_urlScheme [PublicKeyText Key] [OnionText] {s : String} {v : NodeLocator Key}
    (read : fromStr s = .ok v) (ipv6 : v.inetAddr.any InetAddr.isIpv6 = true) :
    v.urlScheme ∈ ["lnp", "lnph", "lnpws"] := by
  obtain ⟨url, parsed, read⟩ := fromStr_ok read
  have notV6 := fun ip (found : url.hostStr.map ipOf = some (.ok ip)) => hostIp_ne_v6 parsed found
  rcases tryFrom_cases read with ⟨key, -, ⟨inet, -, node⟩ | ⟨addr, found, rfl⟩⟩ | ⟨role, -, zmq⟩ |
    ⟨host, key, -, -, -, -, -, rfl⟩
  · rcases node with rfl | rfl | rfl <;> simp [urlScheme]
  · -- A UDP address came through `IpAddr::from_str`.
    obtain ⟨v6addr, rfl⟩ := IpAddr.isIpv6_iff.mp (by simpa [inetAddr, components] using ipv6)
    cases host : url.hostStr with
    | none => simp [host] at found
    | some text => exact absurd rfl (notV6 _ (by simpa [host] using found) v6addr)
  · -- A ZMQ TCP address came through `IpAddr::from_str`; an IPC locator has no address.
    rcases zmqLocator_cases zmq with ⟨_, addr, found, -, rfl⟩ | ⟨addr, found, -, rfl⟩ | ⟨-, -, -, rfl⟩
    rotate_right
    · simp [inetAddr, components] at ipv6
    all_goals
      obtain ⟨v6addr, rfl⟩ := IpAddr.isIpv6_iff.mp (by simpa [inetAddr, components] using ipv6)
      exact absurd rfl (notV6 _ found v6addr)
  · simp [inetAddr, components] at ipv6

set_option maxRecDepth 2000 in
/-- A bracketed IPv6 host is read into a native locator. -/
theorem fromStr_ipv6_urlScheme_loopback :
    (fromStr "lnp://022e58afe51f9ed8ad3cc7897f634d881fdbe49a81564629ded8156bebd2ffd1af@[::1]" :
        Except ParseError (NodeLocator HexKey)) =
      .ok (native HexKey.test (.ipv6 ⟨[0, 0, 0, 0, 0, 0, 0, 1], rfl⟩) none) ∧
    (native HexKey.test (.ipv6 ⟨[0, 0, 0, 0, 0, 0, 0, 1], rfl⟩) none).urlScheme ∈ ["lnp", "lnph", "lnpws"] :=
  have read : (fromStr "lnp://022e58afe51f9ed8ad3cc7897f634d881fdbe49a81564629ded8156bebd2ffd1af@[::1]" :
      Except ParseError (NodeLocator HexKey)) = .ok (native HexKey.test (.ipv6 ⟨[0, 0, 0, 0, 0, 0, 0, 1], rfl⟩) none) := by
    rfl
  ⟨read, fromStr_ipv6_urlScheme read rfl⟩

set_option maxRecDepth 2000 in
example :
    (fromStr "lnpu://022e58afe51f9ed8ad3cc7897f634d881fdbe49a81564629ded8156bebd2ffd1af@[::1]:9735" :
      Except ParseError (NodeLocator HexKey)) = .error (.invalidHost "[::1]") := by
  rfl

/-! ## The alternate display read back -/

/-- No scheme prefix, letters then `:`, starts text that has a `@` before any colon. -/
theorem isPrefixOf_colon_at : ∀ {scheme name : List Char} (rest : List Char), '@' ∉ scheme → ':' ∉ name →
    (scheme ++ [':']).isPrefixOf (name ++ '@' :: rest) = false
  -- The two texts are compared character by character until the colon or the `@` differs.
  | [], [], _, _, _ => rfl
  | [], c :: name, rest, _, noColon => by
    simpa [List.isPrefixOf] using fun same : ':' = c => noColon (same ▸ List.mem_cons_self _ _)
  | d :: scheme, [], rest, noAt, _ => by
    simp only [List.cons_append, List.nil_append, List.isPrefixOf, Bool.and_eq_false_iff, beq_eq_false_iff_ne]
    exact .inl fun same => noAt (same ▸ List.mem_cons_self _ _)
  | d :: scheme, c :: name, rest, noAt, noColon => by
    simp [List.isPrefixOf, isPrefixOf_colon_at rest (fun m => noAt (List.mem_cons_of_mem _ m))
      (fun m => noColon (List.mem_cons_of_mem _ m))]

/-- Text with a `@` before any colon has no scheme prefix, and is read as a native locator's authority. -/
theorem normalize_of_at {text : String} {name rest : List Char} (front : text.data = name ++ '@' :: rest)
    (noColon : ':' ∉ name) : normalize text = "lnp://" ++ text := by
  -- Each prefix is a locator scheme and a colon, and no scheme holds a `@`.
  have noPrefix : schemePrefixes.any (fun p => p.toList.isPrefixOf text.toList) = false := by
    rw [schemePrefixes_eq, List.any_map]
    refine List.any_eq_false.mpr fun scheme known => ?_
    have noAt : '@' ∉ scheme.data := by
      revert scheme
      decide
    show ¬ (scheme.data ++ [':']).isPrefixOf text.data = true
    rw [front, isPrefixOf_colon_at rest noAt noColon]
    decide
  rw [normalize, noPrefix]
  rfl

/--
The alternate display of a locator with a node id and an IPv4 or onion address is read back by
`from_str` as the native locator with that node id, address and port: with no scheme in front,
the string is read as `lnp://`, and the role it may end with is a query the native arm ignores.
-/
theorem fromStr_fmt_alternate [PublicKeyText Key] [LawfulPublicKeyText Key] [OnionText] [LawfulOnionText] {l : NodeLocator Key} {key : Key}
    {inet : InetAddr} (named : l.nodeId = some key) (placed : l.inetAddr = some inet)
    (notIpv6 : inet.isIpv6 = false) :
    ∃ text, l.fmt true = some text ∧ fromStr text = .ok (native key inet l.port) := by
  -- The display is the authority of a native URL, with the role as a query the native arm ignores.
  obtain ⟨nonEmpty, hostPlain, -⟩ := InetAddr.toString_host notIpv6
  have readable : (native key inet l.port).isReadable = true := by
    simp [isReadable, inetAddr, components, notIpv6]
  have read := tryFrom_url readable
  have keyNoColon : ':' ∉ (PublicKeyText.toString key).data := fun colon =>
    (Url.isUserChar_facts ((key_plain key).2 ':' colon).1).2.2.2.1 rfl
  have display : l.fmt true = some (PublicKeyText.toString key ++ ("@" ++ inet.toString ++ portSuffix l.port) ++
      (l.apiType.map fun api => "?api=" ++ api.apiName).getD "") := by
    simp [fmt, named, placed]
  refine ⟨_, display, ?_⟩
  have front : (PublicKeyText.toString key ++ ("@" ++ inet.toString ++ portSuffix l.port) ++
      (l.apiType.map fun api => "?api=" ++ api.apiName).getD "").data =
      (PublicKeyText.toString key).data ++ '@' :: ((inet.toString ++ portSuffix l.port) ++
        (l.apiType.map fun api => "?api=" ++ api.apiName).getD "").data := by
    simp [String.append_assoc]
  simp only [fromStr_eq, normalize_of_at front keyNoColon]
  cases role : l.apiType with
  | none =>
    rw [Url.parse_authority none (urlScheme_plain (native key inet l.port)) ?_ (.inl rfl) (key_user key)
      hostPlain nonEmpty nofun]
    · exact read
    · simp [urlScheme, Url.authorityText, portSuffix_data]
  | some api =>
    rw [@Url.parse_authority _ _ _ _ [] l.port (some ("api=" ++ api.apiName).data)
      (urlScheme_plain (native key inet l.port)) ?_ (.inl rfl) (key_user key) hostPlain nonEmpty
      (apiQuery_plain api)]
    · exact read
    · simp [urlScheme, Url.authorityText, portSuffix_data]

set_option maxRecDepth 2000 in
/-- The alternate display of a UDP locator is read back as a native locator. -/
theorem fromStr_fmt_alternate_udp :
    (udp HexKey.test (.v4 ⟨127, 0, 0, 1⟩) (some 9735)).fmt true =
        some "022e58afe51f9ed8ad3cc7897f634d881fdbe49a81564629ded8156bebd2ffd1af@127.0.0.1:9735" ∧
      (fromStr "022e58afe51f9ed8ad3cc7897f634d881fdbe49a81564629ded8156bebd2ffd1af@127.0.0.1:9735" :
        Except ParseError (NodeLocator HexKey)) = .ok (native HexKey.test (.ipv4 ⟨127, 0, 0, 1⟩) (some 9735)) := by
  obtain ⟨text, shown, read⟩ := fromStr_fmt_alternate (l := udp HexKey.test (.v4 ⟨127, 0, 0, 1⟩) (some 9735)) rfl rfl rfl
  obtain rfl : text = "022e58afe51f9ed8ad3cc7897f634d881fdbe49a81564629ded8156bebd2ffd1af@127.0.0.1:9735" :=
    Option.some.inj (shown.symm.trans (by rfl))
  exact ⟨shown, read⟩

end NodeLocator

end Internet2
