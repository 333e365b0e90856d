import Internet2.Proofs.Url.Parse
import Internet2.Proofs.Session.Equality

/-!
A locator's URL string reads back as the locator with each role read through its token,
for every readable locator: no POSIX or in-process locator, no IPv6 address, and an IPC path the
URL parser keeps as it is, given an onion text that reads back; a locator with an IPv6 address
has no URL, and an in-process locator is never read back.
-/

namespace Internet2

/-- The role a role's token reads back as: each pair reads as its connecting end or its client. -/
def ApiType.readBack : ApiType → ApiType
  | .peerListening => .peerConnecting
  | .server => .client
  | api => api

/-- A role read back is merged with the role itself unless it is the reply server. -/
theorem ApiType.canonical_readBack (api : ApiType) :
    api.readBack.canonical = api.canonical ↔ api ≠ .server := by
  cases api <;> decide

/-- Whether a network address is an IPv6 address. -/
def InetAddr.isIpv6 : InetAddr → Bool
  | .ipv6 _ => true
  | _ => false

/-- A network address is IPv6 exactly when it holds an IPv6 address. -/
theorem InetAddr.isIpv6_iff {inet : InetAddr} : inet.isIpv6 = true ↔ ∃ addr, inet = .ipv6 addr := by
  cases inet <;> simp [isIpv6]

/-- An IP address is IPv6 as a network address exactly when it is an IPv6 address. -/
theorem IpAddr.isIpv6_iff {ip : IpAddr} : (InetAddr.ofIpAddr ip).isIpv6 = true ↔ ∃ addr, ip = .v6 addr := by
  cases ip <;> simp [InetAddr.ofIpAddr, InetAddr.isIpv6]

/-- An IP address as a network address is written as the IP address. -/
@[simp] theorem InetAddr.toString_ofIpAddr [OnionText] (ip : IpAddr) :
    (InetAddr.ofIpAddr ip).toString = ip.toString := by
  cases ip <;> rfl

/-! ## Host texts -/

/-- Letters and digits are username and host characters. -/
theorem alphanumeric_plain {c : Char} (alnum : isAsciiAlphanumeric c = true) :
    Url.isUserChar c = true ∧ Url.isHostChar c = true := by
  simp [isAsciiAlphanumeric, isAsciiAlpha, isAsciiDigit, Url.isUserChar, Url.isHostChar,
    Url.userinfoSet, Url.pathSet, Url.fragmentSet, Url.controls, Url.isForbiddenHost,
    ← toNat_eq_iff] at alnum ⊢
  omega

/-- Letters, digits and dots are host characters. -/
theorem isHostChar_of_name {c : Char} (name : isAsciiAlphanumeric c = true ∨ c = '.') :
    Url.isHostChar c = true := by
  rcases name with alnum | rfl
  exacts [(alphanumeric_plain alnum).2, by decide]

/-- The text of an IPv4 address: a non-empty host of digits and dots. -/
theorem Ipv4Addr.toString_host (addr : Ipv4Addr) :
    addr.toString.data ≠ [] ∧ ∀ c ∈ addr.toString.data, Url.isHostChar c = true := by
  refine ⟨by simp [Ipv4Addr.toString_data, decimal_ne_nil], fun c member => isHostChar_of_name ?_⟩
  rcases Ipv4Addr.toString_chars addr c member with digit | dot
  exacts [.inl (by simp [isAsciiAlphanumeric, digit]), .inr dot]

/-- The text of an address other than IPv6: a non-empty host that reads back as the address. -/
theorem InetAddr.toString_host [OnionText] [LawfulOnionText] {inet : InetAddr} (notIpv6 : inet.isIpv6 = false) :
    inet.toString.data ≠ [] ∧ (∀ c ∈ inet.toString.data, Url.isHostChar c = true) ∧
      InetAddr.fromStr inet.toString = .ok inet := by
  cases inet with
  | ipv4 addr => exact ⟨(Ipv4Addr.toString_host addr).1, (Ipv4Addr.toString_host addr).2, fromStr_toString_ipv4 addr⟩
  | ipv6 => cases notIpv6
  | tor addr =>
    -- The onion text is lawful: a non-empty name that reads back.
    exact ⟨LawfulOnionText.toString_ne_nil addr,
      fun c member => isHostChar_of_name (LawfulOnionText.toString_chars addr c member), fromStr_toString_tor addr⟩

/-- The text of an IP address other than IPv6: a non-empty host that reads back as the address. -/
theorem IpAddr.toString_host {ip : IpAddr} (notIpv6 : (InetAddr.ofIpAddr ip).isIpv6 = false) :
    ip.toString.data ≠ [] ∧ (∀ c ∈ ip.toString.data, Url.isHostChar c = true) ∧
      IpAddr.fromStr ip.toString = some ip := by
  cases ip with
  | v4 addr => exact ⟨(Ipv4Addr.toString_host addr).1, (Ipv4Addr.toString_host addr).2, IpAddr.fromStr_toString_v4 addr⟩
  | v6 => cases notIpv6

/-- The text of an IPv6 address: host characters and two colons at least. -/
theorem Ipv6Addr.toString_host (addr : Ipv6Addr) :
    (∀ c ∈ addr.toString.data, Url.isHostChar c = true ∨ c = ':') ∧ 2 ≤ addr.toString.data.count ':' := by
  obtain ⟨chars, two⟩ := Ipv6Addr.toString_facts addr
  refine ⟨fun c member => ?_, two⟩
  rcases chars c member with alnum | colon | rfl
  exacts [.inl (alphanumeric_plain alnum).2, .inr colon, .inl (by decide)]

/-- `Url::host_str` is the host when it is not empty. -/
theorem Url.hostStr_eq_filter (url : Url) : url.hostStr = url.host.filter (· ≠ "") := by
  unfold hostStr
  split
  · next empty => simp [empty, Option.filter]
  · next notEmpty => cases host : url.host <;> simp_all [Option.filter]

/-- The `api` parameter of a role is read as the role read back. -/
theorem apiTypeOf_apiName {url : Url} {api : ApiType} (query : url.query = some ("api=" ++ api.apiName)) :
    NodeLocator.apiTypeOf url = .ok api.readBack := by
  cases api <;> simp [NodeLocator.apiTypeOf, Url.queryPairs, query] <;> rfl

namespace NodeLocator

variable {Key : Type}

/-! ## The URL a locator stands for -/

/-- The locator with each role read back through its token. -/
def readBack (l : NodeLocator Key) : NodeLocator Key := l.mapApi ApiType.readBack

/--
Locators the codec reads back from their URL string: no POSIX or in-process locator, no IPv6
address, and a ZMQ IPC path the URL parser keeps as it is.
-/
def isReadable : NodeLocator Key → Bool
  | posix _ | zmqInproc _ _ => false
  | zmqIpc path _ => decide (Url.KeptPath path.data)
  | l => !(l.inetAddr.any InetAddr.isIpv6)

/--
The URL a locator's string stands for: the node id as username, the address as host,
the port, the socket path, and the role as the `api` query parameter.
-/
def url [PublicKeyText Key] [OnionText] (l : NodeLocator Key) : Url :=
  match l with
  | native pubkey inet port | http pubkey inet port | websocket pubkey inet port =>
    ⟨l.urlScheme, PublicKeyText.toString pubkey, "", some inet.toString, port, "", none, none⟩
  | udp pubkey ip port =>
    ⟨l.urlScheme, PublicKeyText.toString pubkey, "", some ip.toString, port, "", none, none⟩
  | posix path => ⟨l.urlScheme, "", "", none, none, path, none, none⟩
  | zmqIpc path api => ⟨l.urlScheme, "", "", none, none, path, some ("api=" ++ api.apiName), none⟩
  | zmqInproc name api =>
    ⟨l.urlScheme, "", "", none, none, "", some ("api=" ++ api.apiName), some name⟩
  | zmqTcpEncrypted pubkey api ip port =>
    ⟨l.urlScheme, PublicKeyText.toString pubkey, "", some ip.toString, port, "/",
      some ("api=" ++ api.apiName), none⟩
  | zmqTcpUnencrypted api ip port =>
    ⟨l.urlScheme, "", "", some ip.toString, port, "/", some ("api=" ++ api.apiName), none⟩
  | text pubkey => ⟨l.urlScheme, "", "", some (PublicKeyText.toString pubkey), none, "", none, none⟩

/-- Every locator scheme is read back from the front of a URL string and is not special. -/
theorem urlScheme_plain (l : NodeLocator Key) : Url.PlainScheme l.urlScheme := by
  cases l <;> exact ⟨by simp only [urlScheme]; decide, fun _ => rfl, rfl⟩

/-- The `api` parameter of every role is kept by the query encoding. -/
theorem apiQuery_plain (api : ApiType) : ∀ c ∈ ("api=" ++ api.apiName).data, Url.isQueryChar c = true := by
  cases api <;> decide

/-- A key's text is a non-empty run of username and host characters. -/
theorem key_plain [PublicKeyText Key] [LawfulPublicKeyText Key] (key : Key) :
    (PublicKeyText.toString key).data ≠ [] ∧
      ∀ c ∈ (PublicKeyText.toString key).data, Url.isUserChar c = true ∧ Url.isHostChar c = true :=
  ⟨LawfulPublicKeyText.toString_ne_nil key,
    fun c member => alphanumeric_plain (LawfulPublicKeyText.toString_alphanumeric key c member)⟩

/-- The port suffix is the port part of an authority. -/
theorem portSuffix_data (port : Option UInt16) :
    (portSuffix port).data = (port.map fun p => ':' :: (decimal p.toNat).data).getD [] := by
  cases port <;> rfl

/-- A key's text as a username is made of username characters. -/
theorem key_user [PublicKeyText Key] [LawfulPublicKeyText Key] (key : Key) :
    ∀ name ∈ some (PublicKeyText.toString key).data, ∀ c ∈ name, Url.isUserChar c = true := by
  rintro name ⟨⟩ c member
  exact ((key_plain key).2 c member).1

/-- The string of a readable locator is read as its URL. -/
theorem toUrl_eq_url [PublicKeyText Key] [LawfulPublicKeyText Key] [OnionText] [LawfulOnionText] {l : NodeLocator Key}
    (readable : l.isReadable = true) : l.toUrl = some l.url := by
  -- Each variant's string has one of the three shapes the URL lemmas read back.
  have userNone : ∀ name ∈ (none : Option (List Char)), ∀ c ∈ name, Url.isUserChar c = true :=
    fun _ named => by cases named
  unfold toUrl
  cases l with
  | native key inet port | http key inet port | websocket key inet port =>
    obtain ⟨nonEmpty, hostChars, -⟩ := InetAddr.toString_host (by simpa [isReadable, inetAddr, components] using readable)
    rw [Url.parse_authority none (urlScheme_plain _) ?_ (.inl rfl) (key_user key) hostChars nonEmpty nofun]
    · rfl
    · simp [toUrlString, Url.authorityText, portSuffix_data]
  | udp key ip port =>
    obtain ⟨nonEmpty, hostChars, -⟩ := IpAddr.toString_host (by simpa [isReadable, inetAddr, components] using readable)
    rw [Url.parse_authority none (urlScheme_plain _) ?_ (.inl rfl) (key_user key) hostChars nonEmpty nofun]
    · rfl
    · simp [toUrlString, Url.authorityText, portSuffix_data]
  | posix | zmqInproc => cases readable
  | zmqIpc path api =>
    rw [Url.parse_keptPath_query (urlScheme_plain _) ?_ (of_decide_eq_true readable) (apiQuery_plain api)]
    · rfl
    · simp [toUrlString]
  | zmqTcpEncrypted key api ip port =>
    obtain ⟨nonEmpty, hostChars, -⟩ := IpAddr.toString_host (by simpa [isReadable, inetAddr, components] using readable)
    rw [Url.parse_authority (some ("api=" ++ api.apiName).data) (urlScheme_plain _) ?_ (.inr rfl) (key_user key)
      hostChars nonEmpty (apiQuery_plain api)]
    · rfl
    · simp [toUrlString, Url.authorityText, portSuffix_data]
  | zmqTcpUnencrypted api ip port =>
    obtain ⟨nonEmpty, hostChars, -⟩ := IpAddr.toString_host (by simpa [isReadable, inetAddr, components] using readable)
    rw [Url.parse_authority (some ("api=" ++ api.apiName).data) (urlScheme_plain _) ?_ (.inr rfl) userNone
      hostChars nonEmpty (apiQuery_plain api)]
    · rfl
    · simp [toUrlString, Url.authorityText, portSuffix_data]
  | text key =>
    rw [Url.parse_authority none (urlScheme_plain _) ?_ (.inl rfl) userNone
      (fun c member => ((key_plain key).2 c member).2) (key_plain key).1 nofun]
    · rfl
    · simp [toUrlString, Url.authorityText]

/-- A locator with an IPv6 address has no URL. -/
theorem toUrl_none_of_ipv6 [PublicKeyText Key] [LawfulPublicKeyText Key] [OnionText] {l : NodeLocator Key}
    (ipv6 : l.inetAddr.any InetAddr.isIpv6 = true) : l.toUrl = none := by
  -- The string writes the address without brackets, so the host is cut at its first colon.
  have plain := urlScheme_plain l
  unfold toUrl
  cases l with
  | native key inet port | http key inet port | websocket key inet port =>
    obtain ⟨addr, rfl⟩ := InetAddr.isIpv6_iff.mp (by simpa [inetAddr, components] using ipv6)
    exact Url.parse_colons port [] plain (by simp [toUrlString, Url.authorityText, portSuffix_data, InetAddr.toString])
      (key_user key) (Ipv6Addr.toString_host addr).1 (Ipv6Addr.toString_host addr).2 nofun (by simp)
  | udp key ip port =>
    obtain ⟨addr, rfl⟩ := IpAddr.isIpv6_iff.mp (by simpa [inetAddr, components] using ipv6)
    exact Url.parse_colons port [] plain (by simp [toUrlString, Url.authorityText, portSuffix_data, IpAddr.toString])
      (key_user key) (Ipv6Addr.toString_host addr).1 (Ipv6Addr.toString_host addr).2 nofun (by simp)
  | zmqTcpEncrypted key api ip port =>
    obtain ⟨addr, rfl⟩ := IpAddr.isIpv6_iff.mp (by simpa [inetAddr, components] using ipv6)
    exact Url.parse_colons port ('/' :: '?' :: ("api=" ++ api.apiName).data) plain
      (by simp [toUrlString, Url.authorityText, portSuffix_data, IpAddr.toString]) (key_user key)
      (Ipv6Addr.toString_host addr).1 (Ipv6Addr.toString_host addr).2 (by cases api <;> decide)
      (by rintro _ ⟨⟩; decide)
  | zmqTcpUnencrypted api ip port =>
    obtain ⟨addr, rfl⟩ := IpAddr.isIpv6_iff.mp (by simpa [inetAddr, components] using ipv6)
    exact Url.parse_colons port ('/' :: '?' :: ("api=" ++ api.apiName).data) plain
      (by simp [toUrlString, Url.authorityText, portSuffix_data, IpAddr.toString]) (fun name (named : name ∈ none) => nomatch named)
      (Ipv6Addr.toString_host addr).1 (Ipv6Addr.toString_host addr).2 (by cases api <;> decide)
      (by rintro _ ⟨⟩; decide)
  | posix | zmqIpc | zmqInproc | text => simp [inetAddr, components] at ipv6

/-- Every locator with an IPv6 address has no URL, and its plain display panics. -/
theorem toUrl_eq_none_of_ipv6 [PublicKeyText Key] [LawfulPublicKeyText Key] [OnionText] {l : NodeLocator Key}
    (ipv6 : l.inetAddr.any InetAddr.isIpv6 = true) : l.toUrl = none ∧ l.fmt false = none := by
  have missing := toUrl_none_of_ipv6 ipv6
  exact ⟨missing, by simp [fmt, missing]⟩

/-- The unencrypted ZMQ locator at `::1` has no URL and no plain display. -/
theorem toUrl_eq_none_of_ipv6_loopback :
    (zmqTcpUnencrypted .peerConnecting (.v6 ⟨[0, 0, 0, 0, 0, 0, 0, 1], rfl⟩) (some 24) :
        NodeLocator HexKey).inetAddr.any InetAddr.isIpv6 = true ∧
      (zmqTcpUnencrypted .peerConnecting (.v6 ⟨[0, 0, 0, 0, 0, 0, 0, 1], rfl⟩) (some 24) :
        NodeLocator HexKey).toUrl = none ∧
      (zmqTcpUnencrypted .peerConnecting (.v6 ⟨[0, 0, 0, 0, 0, 0, 0, 1], rfl⟩) (some 24) :
        NodeLocator HexKey).fmt false = none :=
  ⟨rfl, toUrl_eq_none_of_ipv6 rfl⟩

/-- An IPv6 address is written without brackets, so a native locator at `::1` has no URL. -/
theorem toUrl_ipv6_none :
    (native HexKey.test (.ipv6 ⟨[0, 0, 0, 0, 0, 0, 0, 1], rfl⟩) none).toUrlString =
        "lnp://022e58afe51f9ed8ad3cc7897f634d881fdbe49a81564629ded8156bebd2ffd1af@::1" ∧
      (native HexKey.test (.ipv6 ⟨[0, 0, 0, 0, 0, 0, 0, 1], rfl⟩) none).toUrl = none ∧
      (native HexKey.test (.ipv6 ⟨[0, 0, 0, 0, 0, 0, 0, 1], rfl⟩) none).fmt false = none :=
  ⟨rfl, rfl, rfl⟩

/-- The URL of an IPC locator with a path is read as the locator with its role read back. -/
theorem tryFrom_url_zmqIpc [PublicKeyText Key] [LawfulPublicKeyText Key] [OnionText] {path : String} (api : ApiType)
    (named : path ≠ "") :
    (tryFrom (zmqIpc path api : NodeLocator Key).url : Except ParseError (NodeLocator Key)) =
      .ok (zmqIpc path api.readBack) := by
  -- No host and no username leave the IPC arm, which the path keeps from the in-process error.
  have role : apiTypeOf (zmqIpc path api : NodeLocator Key).url = .ok api.readBack := apiTypeOf_apiName rfl
  have noKey : (pubkeyOf "" : Except ParseError Key) = .error .invalidPubkey := by
    simp [pubkeyOf, LawfulPublicKeyText.fromStr_empty]
  unfold tryFrom tryFromWith
  rw [role]
  simp [url, urlScheme, zmqLocator, noKey, Url.hostStr_eq_filter, Option.filter, named, Bind.bind,
    Except.bind, pure, Except.pure, Features.all]

/-- The URL of a readable locator is read as the locator with its role read back. -/
theorem tryFrom_url [PublicKeyText Key] [LawfulPublicKeyText Key] [OnionText] [LawfulOnionText] {l : NodeLocator Key}
    (readable : l.isReadable = true) : tryFrom l.url = .ok l.readBack := by
  -- The username reads back as the key, the host as the address, and the query as the role.
  have keyRead : ∀ key : Key, pubkeyOf (PublicKeyText.toString key) = .ok key := fun key => by
    simp [pubkeyOf, LawfulPublicKeyText.fromStr_toString key]
  have noKey : (pubkeyOf "" : Except ParseError Key) = .error .invalidPubkey := by
    simp [pubkeyOf, LawfulPublicKeyText.fromStr_empty]
  cases l with
  | native key inet port | http key inet port | websocket key inet port =>
    obtain ⟨nonEmpty, -, read⟩ := InetAddr.toString_host (by simpa [isReadable, inetAddr, components] using readable)
    have named : inet.toString ≠ "" := fun empty => nonEmpty (by rw [empty])
    simp [url, tryFrom, tryFromWith, Features.all, urlScheme, keyRead, inetOf, read, Url.hostStr_eq_filter, Option.filter, named,
      readBack, mapApi, Bind.bind, Except.bind, pure, Except.pure]
  | udp key ip port =>
    obtain ⟨nonEmpty, -, read⟩ := IpAddr.toString_host (by simpa [isReadable, inetAddr, components] using readable)
    have named : ip.toString ≠ "" := fun empty => nonEmpty (by rw [empty])
    simp [url, tryFrom, tryFromWith, Features.all, urlScheme, keyRead, ipOf, read, Url.hostStr_eq_filter, Option.filter, named,
      readBack, mapApi, Bind.bind, Except.bind, pure, Except.pure]
  | posix | zmqInproc => cases readable
  | zmqIpc path api =>
    exact tryFrom_url_zmqIpc api fun empty => (of_decide_eq_true readable).nonEmpty (by rw [empty])
  | zmqTcpEncrypted key api ip port =>
    obtain ⟨nonEmpty, -, read⟩ := IpAddr.toString_host (by simpa [isReadable, inetAddr, components] using readable)
    have named : ip.toString ≠ "" := fun empty => nonEmpty (by rw [empty])
    have role : apiTypeOf (zmqTcpEncrypted key api ip port).url = .ok api.readBack := apiTypeOf_apiName rfl
    unfold tryFrom tryFromWith
    rw [role]
    simp [url, Features.all, urlScheme, zmqLocator, keyRead, ipOf, read, Url.hostStr_eq_filter, Option.filter, named,
      readBack, mapApi, Bind.bind, Except.bind, pure, Except.pure]
  | zmqTcpUnencrypted api ip port =>
    obtain ⟨nonEmpty, -, read⟩ := IpAddr.toString_host (by simpa [isReadable, inetAddr, components] using readable)
    have named : ip.toString ≠ "" := fun empty => nonEmpty (by rw [empty])
    have role : apiTypeOf (zmqTcpUnencrypted api ip port : NodeLocator Key).url = .ok api.readBack :=
      apiTypeOf_apiName rfl
    unfold tryFrom tryFromWith
    rw [role]
    simp [url, Features.all, urlScheme, zmqLocator, noKey, ipOf, read, Url.hostStr_eq_filter, Option.filter, named,
      readBack, mapApi, Bind.bind, Except.bind, pure, Except.pure]
  | text key =>
    have named : PublicKeyText.toString key ≠ "" := fun empty =>
      LawfulPublicKeyText.toString_ne_nil key (by rw [empty]; rfl)
    simp [url, tryFrom, tryFromWith, Features.all, urlScheme, keyRead, noKey, Url.hostStr_eq_filter, Option.filter, named,
      readBack, mapApi, Except.map]

/-! ## The round trip -/

/-- Every locator string starts with a locator scheme prefix, so it is parsed as it is. -/
theorem normalize_toUrlString [PublicKeyText Key] [OnionText] (l : NodeLocator Key) :
    normalize l.toUrlString = l.toUrlString := by
  cases l <;> simp [normalize, schemePrefixes, toUrlString, urlScheme, List.isPrefixOf]

/-- A locator read back equals itself, unless it is a POSIX locator or has the reply-server role. -/
theorem readBack_eq_iff [DecidableEq Key] {v : NodeLocator Key} (notPosix : ∀ path, v ≠ posix path) :
    v.readBack.eq v = true ↔ v.apiType ≠ some .server := by
  -- Equality compares representatives, and reading back changes a representative only for the server.
  rw [eq_iff]
  cases v <;> simp_all [readBack, canonical, mapApi, apiType, components, ApiType.canonical_readBack]

/-- The string of a readable locator reads back as the locator with its role read through its token. -/
theorem fromStr_readable [PublicKeyText Key] [LawfulPublicKeyText Key] [OnionText] [LawfulOnionText] {v : NodeLocator Key}
    (readable : v.isReadable = true) : fromStr v.toUrlString = .ok v.readBack := by
  -- The parser reads the URL the locator stands for, and the codec reads that URL back.
  have parsed := toUrl_eq_url readable
  unfold toUrl at parsed
  simp [fromStr_eq, normalize_toUrlString, parsed, tryFrom_url readable]

/--
The string of a readable locator reads back as the locator with its role read through its
token, which equals the locator unless the role is the reply server.
-/
theorem fromStr_toUrlString [DecidableEq Key] [PublicKeyText Key] [LawfulPublicKeyText Key] [OnionText] [LawfulOnionText]
    {v : NodeLocator Key} (readable : v.isReadable = true) :
    fromStr v.toUrlString = .ok v.readBack ∧ (v.readBack.eq v = true ↔ v.apiType ≠ some .server) := by
  -- A readable locator is no POSIX locator, so reading back is equality off the server role.
  refine ⟨fromStr_readable readable, readBack_eq_iff ?_⟩
  rintro path rfl
  cases readable

/-- An encrypted ZMQ locator with the listening role reads back with the connecting role. -/
theorem fromStr_toUrlString_test :
    (zmqTcpEncrypted HexKey.test .peerListening (.v4 ⟨127, 0, 0, 1⟩) (some 24)).isReadable = true ∧
      fromStr (zmqTcpEncrypted HexKey.test .peerListening (.v4 ⟨127, 0, 0, 1⟩) (some 24)).toUrlString =
        .ok (zmqTcpEncrypted HexKey.test .peerConnecting (.v4 ⟨127, 0, 0, 1⟩) (some 24)) :=
  ⟨by decide, (fromStr_toUrlString (by decide)).1⟩

/-- A reply-server role is written `rpc` and reads back as the client role, a different locator. -/
theorem fromStr_toUrlString_server :
    (fromStr (zmqTcpUnencrypted .server (.v4 ⟨127, 0, 0, 1⟩) none : NodeLocator HexKey).toUrlString :
        Except ParseError (NodeLocator HexKey)) =
      .ok (zmqTcpUnencrypted .client (.v4 ⟨127, 0, 0, 1⟩) none) ∧
    (zmqTcpUnencrypted .client (.v4 ⟨127, 0, 0, 1⟩) none : NodeLocator HexKey).eq
      (zmqTcpUnencrypted .server (.v4 ⟨127, 0, 0, 1⟩) none) = false :=
  ⟨rfl, rfl⟩

/--
An in-process locator is never read back from its string: whatever its name and role, the
string is read as an IPC locator with an empty path, which needs a ZMQ context.
-/
theorem fromStr_zmqInproc [PublicKeyText Key] [LawfulPublicKeyText Key] [OnionText] (name : String) (api : ApiType) :
    (fromStr (zmqInproc name api : NodeLocator Key).toUrlString : Except ParseError (NodeLocator Key)) =
      .error .inprocRequireZmqContext := by
  -- The name is the fragment, which the reader ignores; no host and no username leave the IPC arm.
  obtain ⟨fragment, parsed⟩ := @Url.parse_query_fragment (zmqInproc name api : NodeLocator Key).toUrlString _ _
    name.data (urlScheme_plain (zmqInproc name api : NodeLocator Key)) (by simp [toUrlString]) (apiQuery_plain api)
  have role : apiTypeOf ⟨(zmqInproc name api : NodeLocator Key).urlScheme, "", "", none, none, "",
      some ("api=" ++ api.apiName).data.asString, fragment⟩ = .ok api.readBack := apiTypeOf_apiName rfl
  have noKey : (pubkeyOf "" : Except ParseError Key) = .error .invalidPubkey := by
    simp [pubkeyOf, LawfulPublicKeyText.fromStr_empty]
  simp only [fromStr_eq, normalize_toUrlString, parsed]
  unfold tryFrom tryFromWith
  rw [role]
  simp [urlScheme, zmqLocator, noKey, Url.hostStr, Bind.bind, Except.bind, Features.all]

/-- The in-process locator of the source's tests is not read back. -/
theorem fromStr_zmqInproc_socket :
    (fromStr (zmqInproc "socket1" .peerConnecting : NodeLocator HexKey).toUrlString :
      Except ParseError (NodeLocator HexKey)) = .error .inprocRequireZmqContext :=
  fromStr_zmqInproc "socket1" .peerConnecting

set_option maxRecDepth 2000 in
/-- A POSIX path that starts with `//` and names a key and a host is read back as a native locator. -/
example :
    (fromStr (posix "//022e58afe51f9ed8ad3cc7897f634d881fdbe49a81564629ded8156bebd2ffd1af@127.0.0.1" :
        NodeLocator HexKey).toUrlString : Except ParseError (NodeLocator HexKey)) =
      .ok (native HexKey.test (.ipv4 ⟨127, 0, 0, 1⟩) none) := by
  rfl

end NodeLocator

end Internet2
