import Internet2.Session.NodeLocator

/-! Reading locators from strings and URLs, and the conversions and formats built on the codec. -/

namespace Internet2

namespace NodeLocator

variable {Key : Type}

/-- The key a username names, with the error `pubkey?` raises. -/
def pubkeyOf [PublicKeyText Key] (username : String) : Except ParseError Key :=
  match PublicKeyText.fromStr username with
  | some key => .ok key
  | none => .error .invalidPubkey

/-- The IP address a host names, with the error `InvalidHost` carrying the host. -/
def ipOf (host : String) : Except ParseError IpAddr :=
  match IpAddr.fromStr host with
  | some ip => .ok ip
  | none => .error (.invalidHost host)

/--
The network address a required host names: `host.ok_or(HostRequired)?.parse::<InetAddr>()?`.
The `?` turns the reader's message into `InvalidHost`, by `#[from] InvalidHost(String)`.
-/
def inetOf [OnionText] : Option String → Except ParseError InetAddr
  | none => .error .hostRequired
  | some host =>
    match InetAddr.fromStr host with
    | .ok inet => .ok inet
    | .error message => .error (.invalidHost message)

/-- The text with ASCII letters lower-cased, as `str::to_ascii_lowercase`. -/
def asciiLowercase (text : String) : String := (text.toList.map Char.toLower).asString

/-- The role an `api` token names, after lower-casing. -/
def apiTypeOfToken (token : String) : Except ParseError ApiType :=
  match asciiLowercase token with
  | "p2p" => .ok .peerConnecting
  | "rpc" => .ok .client
  | "sub" => .ok .subscribe
  | "esb" => .ok .esbService
  | unknown => .error (.invalidZmqType unknown)

/-- The role the first `api` query parameter names. -/
def apiTypeOf (url : Url) : Except ParseError ApiType :=
  match url.queryPairs.find? (fun pair => pair.1 = "api") with
  | some pair => apiTypeOfToken pair.2
  | none => .error .apiTypeRequired

/--
The locator of an `lnpz` URL, by the arms of the source's match in their order.

The second arm, `(_, Err(_)) if !url.username().is_empty()`, falls through to the
later arms when its guard fails.
-/
def zmqLocator (zmqType : ApiType) (ip : Option (Except ParseError IpAddr))
    (pubkey : Except ParseError Key) (username path : String) (port : Option UInt16) :
    Except ParseError (NodeLocator Key) :=
  let ipc : Except ParseError (NodeLocator Key) :=
    if path = "" then .error .inprocRequireZmqContext else .ok (zmqIpc path zmqType)
  match ip, pubkey with
  | some (.error _), _ => .error .invalidIp
  | some (.ok ip), .ok pubkey => .ok (zmqTcpEncrypted pubkey zmqType ip port)
  | some (.ok ip), .error _ =>
    if username ≠ "" then .error .invalidIp else .ok (zmqTcpUnencrypted zmqType ip port)
  | none, .ok _ => ipc
  | none, .error _ => if username ≠ "" then .error .invalidIp else ipc

/-- The cargo features that compile in arms of `TryFrom<Url>`: `zmq` the `lnpz` arm, `websockets` the `lnpws` arm. -/
structure Features where
  zmq : Bool
  websockets : Bool
  deriving DecidableEq

/-- Every feature on: the build the rest of the model describes. -/
def Features.all : Features := ⟨true, true⟩

/--
The locator a URL describes, as `TryFrom<Url> for NodeLocator` built with the given features.
An arm left out by its feature lets its scheme fall to the last arm, `UnknownUrlScheme`.
-/
def tryFromWith [PublicKeyText Key] [OnionText] (features : Features) (url : Url) :
    Except ParseError (NodeLocator Key) :=
  let pubkey : Except ParseError Key := pubkeyOf url.username
  let host := url.hostStr
  let ip := host.map ipOf
  let port := url.port
  match url.scheme with
  | "lnp" => do pure (native (← pubkey) (← inetOf host) port)
  | "lnpu" => do
    let key ← pubkey
    pure (udp key (← ip.getD (.error .hostRequired)) port)
  | "lnph" => do pure (http (← pubkey) (← inetOf host) port)
  | "lnpws" =>
    if features.websockets then do pure (websocket (← pubkey) (← inetOf host) port)
    else .error (.unknownUrlScheme "lnpws")
  | "lnpz" =>
    if features.zmq then do zmqLocator (← apiTypeOf url) ip pubkey url.username url.path port
    else .error (.unknownUrlScheme "lnpz")
  | "lnpt" =>
    match pubkey, port, host with
    | .ok _, _, _ => .error .hostPresent
    | _, some _, _ => .error .portPresent
    | _, none, some host => (pubkeyOf host).map text
    | _, none, none => .error .invalidPubkey
  | unknown => .error (.unknownUrlScheme unknown)

/-- The locator a URL describes, as `TryFrom<Url> for NodeLocator` with every feature on. -/
def tryFrom [PublicKeyText Key] [OnionText] (url : Url) : Except ParseError (NodeLocator Key) :=
  tryFromWith .all url

/-- The prefixes of the locator schemes. -/
def schemePrefixes : List String := ["lnp:", "lnpu:", "lnpz:", "lnpws:", "lnpt:", "lnph:"]

/-- The string the URL parser is given: `lnp://` is put before a string with no scheme prefix. -/
def normalize (s : String) : String :=
  if schemePrefixes.any (fun p => p.toList.isPrefixOf s.toList) then s else "lnp://" ++ s

/-- The locator a string names, as `FromStr for NodeLocator` built with the given features. -/
def fromStrWith [PublicKeyText Key] [OnionText] (features : Features) (s : String) :
    Except ParseError (NodeLocator Key) :=
  match Url.parse (normalize s) with
  | some url => tryFromWith features url
  | none => .error .malformedUrl

/-- The locator a string names, as `FromStr for NodeLocator` with every feature on. -/
def fromStr [PublicKeyText Key] [OnionText] (s : String) : Except ParseError (NodeLocator Key) :=
  fromStrWith .all s

/-- With every feature on, a string is read by `tryFrom` from the URL it parses as. -/
theorem fromStr_eq [PublicKeyText Key] [OnionText] (s : String) :
    (fromStr s : Except ParseError (NodeLocator Key)) =
      match Url.parse (normalize s) with
      | some url => tryFrom url
      | none => .error .malformedUrl :=
  rfl

/-- The URL of a locator, as `From<&NodeLocator> for Url`; none where its `expect` panics. -/
def toUrl [PublicKeyText Key] [OnionText] (l : NodeLocator Key) : Option Url := Url.parse l.toUrlString

/--
What `Display for NodeLocator` writes; none where it panics.

The alternate form `{:#}` writes the node id, then `@address:port` or the socket name,
then the role. The plain form writes the URL of the locator.
-/
def fmt [PublicKeyText Key] [OnionText] (alternate : Bool) (l : NodeLocator Key) : Option String :=
  if alternate then do
    let node := (l.nodeId.map PublicKeyText.toString).getD ""
    let place ← match l.inetAddr with
      | some addr => some ("@" ++ addr.toString ++ portSuffix l.port)
      | none => l.socketName
    let api := (l.apiType.map fun api => "?api=" ++ api.apiName).getD ""
    pure (node ++ place ++ api)
  else l.toUrl.map Url.serialize

/-- What `Hash for NodeLocator` does to a hasher: it writes the bytes of the URL string. -/
def hash [PublicKeyText Key] [OnionText] {σ : Type} (write : σ → List UInt8 → σ) (state : σ)
    (l : NodeLocator Key) : σ :=
  write state l.toUrlString.toUTF8.toList

end NodeLocator

/-- The local address of a locator, as `TryFrom<NodeLocator> for LocalAddr`. -/
def LocalAddr.tryFrom {Key : Type} : NodeLocator Key → Except ParseError LocalAddr
  | .posix path => .ok (.posix path)
  | .zmqIpc path _ => .ok (.zmq (.ipc path))
  | .zmqInproc name _ => .ok (.zmq (.inproc name))
  | .zmqTcpUnencrypted _ ip (some port) => .ok (.zmq (.tcp ⟨ip, port⟩))
  | _ => .error .unsupportedForLocalAddr

end Internet2
