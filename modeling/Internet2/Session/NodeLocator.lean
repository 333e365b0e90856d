import Internet2.Net.InetAddr
import Internet2.Net.PublicKey
import Internet2.Transport.Zmq
import Internet2.Url.Parse

/-! Universal node locators of the LNP protocol (LNPBP-19): values, accessors and URL codec. -/

namespace Internet2

/--
A universal node locator: where a node is and which transport reaches it, as `NodeLocator`.

Node ids are keys of type `Key`, read and written through `PublicKeyText`.
-/
inductive NodeLocator (Key : Type) where
  /-- Native Lightning connection: `lnp://<node-id>@<ip>|<onion>:<port>`. -/
  | native (pubkey : Key) (inet : InetAddr) (port : Option UInt16)
  /-- UDP connection: `lnpu://<node-id>@<ip>:<port>`. -/
  | udp (pubkey : Key) (ip : IpAddr) (port : Option UInt16)
  /-- POSIX socket: `lnp:<file-path>`. -/
  | posix (path : String)
  /-- ZMQ IPC socket: `lnpz:<file-path>?api=<p2p|rpc|sub>`. -/
  | zmqIpc (path : String) (api : ApiType)
  /-- In-process ZMQ socket, which needs a ZMQ context and has no URL of its own. -/
  | zmqInproc (name : String) (api : ApiType)
  /-- Encrypted ZMQ over TCP: `lnpz://<node-id>@<ip>[:<port>]/?api=<p2p|rpc|sub>`. -/
  | zmqTcpEncrypted (pubkey : Key) (api : ApiType) (ip : IpAddr) (port : Option UInt16)
  /-- Unencrypted ZMQ over TCP: `lnpz://<ip>[:<port>]/?api=<p2p|rpc|sub>`. -/
  | zmqTcpUnencrypted (api : ApiType) (ip : IpAddr) (port : Option UInt16)
  /-- HTTP: `lnph://<node-id>@<ip>|<onion>[:<port>]`. -/
  | http (pubkey : Key) (inet : InetAddr) (port : Option UInt16)
  /-- WebSocket: `lnpws://<node-id>@<ip>|<onion>[:<port>]`. -/
  | websocket (pubkey : Key) (inet : InetAddr) (port : Option UInt16)
  /-- Text (Bech32-based) connection: `lnpt://<node-id>@`. -/
  | text (pubkey : Key)
  deriving DecidableEq

/-- Errors from reading a string as a locator, as `ParseError`. -/
inductive ParseError where
  /-- The provided protocol can't be used for a `LocalAddr`. -/
  | unsupportedForLocalAddr
  /-- Can't parse URL from the given string. -/
  | malformedUrl
  /-- The provided URL scheme was not recognized. -/
  | unknownUrlScheme (scheme : String)
  /-- No host information found in URL, while it is required for the given schema. -/
  | hostRequired
  /-- Invalid public key data representing node id. -/
  | invalidPubkey
  /-- Unrecognized host information. -/
  | invalidHost (host : String)
  /-- Used schema must not contain information about host. -/
  | hostPresent
  /-- Used schema must not contain information about port. -/
  | portPresent
  /-- Invalid IP information. -/
  | invalidIp
  /-- Unsupported ZMQ API type. -/
  | invalidZmqType (api : String)
  /-- No ZMQ API type information for URL scheme that requires one. -/
  | apiTypeRequired
  /-- Creation of `Inproc` ZMQ locator requires ZMQ context, while no context is provided. -/
  | inprocRequireZmqContext
  deriving DecidableEq

/-- The optional parts of a locator, as the tuple `NodeLocator::components` returns. -/
structure Components (Key : Type) where
  nodeId : Option Key
  inetAddr : Option InetAddr
  port : Option UInt16
  /-- File path or name of a socket. -/
  socketName : Option String
  apiType : Option ApiType

namespace NodeLocator

variable {Key : Type}

/-- Roles compare equal when they are equal or the two ends of one peer-to-peer pair. -/
def apiEq (a b : ApiType) : Bool :=
  a == b || (a == .peerListening && b == .peerConnecting) ||
    (b == .peerListening && a == .peerConnecting)

/-- Equality of locators, as `PartialEq for NodeLocator`: roles are compared with `apiEq`. -/
def eq [DecidableEq Key] : NodeLocator Key → NodeLocator Key → Bool
  | native a1 a2 a3, native b1 b2 b3 => a1 == b1 && a2 == b2 && a3 == b3
  | udp a1 a2 a3, udp b1 b2 b3 => a1 == b1 && a2 == b2 && a3 == b3
  | websocket a1 a2 a3, websocket b1 b2 b3 => a1 == b1 && a2 == b2 && a3 == b3
  | zmqIpc a1 a2, zmqIpc b1 b2 => a1 == b1 && apiEq a2 b2
  | zmqInproc a1 a2, zmqInproc b1 b2 => a1 == b1 && apiEq a2 b2
  | zmqTcpUnencrypted a1 a2 a3, zmqTcpUnencrypted b1 b2 b3 => apiEq a1 b1 && a2 == b2 && a3 == b3
  | zmqTcpEncrypted a1 a2 a3 a4, zmqTcpEncrypted b1 b2 b3 b4 =>
    a1 == b1 && apiEq a2 b2 && a3 == b3 && a4 == b4
  | http a1 a2 a3, http b1 b2 b3 => a1 == b1 && a2 == b2 && a3 == b3
  | text pubkey1, text pubkey2 => pubkey1 == pubkey2
  | _, _ => false

/-- The locator with its port set, if it can carry one, as `NodeLocator::with_port`. -/
def withPort (l : NodeLocator Key) (port : UInt16) : NodeLocator Key :=
  match l with
  | native a b _ => native a b (some port)
  | udp a b _ => udp a b (some port)
  | zmqTcpEncrypted a b c _ => zmqTcpEncrypted a b c (some port)
  | zmqTcpUnencrypted a b _ => zmqTcpUnencrypted a b (some port)
  | http a b _ => http a b (some port)
  | websocket a b _ => websocket a b (some port)
  | me => me

/-- The URL scheme of the locator, as `UrlScheme for NodeLocator`. -/
def urlScheme : NodeLocator Key → String
  | native .. => "lnp"
  | udp .. => "lnpu"
  | posix .. => "lnp"
  | zmqIpc .. | zmqInproc .. => "lnpz"
  | zmqTcpEncrypted .. | zmqTcpUnencrypted .. => "lnpz"
  | http .. => "lnph"
  | websocket .. => "lnpws"
  | text .. => "lnpt"

/-- `:` and the port in decimal, or nothing without a port. -/
def portSuffix (port : Option UInt16) : String :=
  (port.map fun x => ":" ++ decimal x.toNat).getD ""

/-- The URL string of a locator, as `NodeLocator::to_url_string`. -/
def toUrlString [PublicKeyText Key] [OnionText] (l : NodeLocator Key) : String :=
  match l with
  | native pubkey inet port =>
    l.urlScheme ++ "://" ++ PublicKeyText.toString pubkey ++ "@" ++ inet.toString ++ portSuffix port
  | udp pubkey ip port =>
    l.urlScheme ++ "://" ++ PublicKeyText.toString pubkey ++ "@" ++ ip.toString ++ portSuffix port
  | posix path => l.urlScheme ++ ":" ++ path
  | zmqIpc path zmqType => l.urlScheme ++ ":" ++ path ++ "?api=" ++ zmqType.apiName
  | zmqInproc name zmqType => l.urlScheme ++ ":?api=" ++ zmqType.apiName ++ "#" ++ name
  | zmqTcpEncrypted pubkey zmqType ip port =>
    l.urlScheme ++ "://" ++ PublicKeyText.toString pubkey ++ "@" ++ ip.toString ++
      portSuffix port ++ "/?api=" ++ zmqType.apiName
  | zmqTcpUnencrypted zmqType ip port =>
    l.urlScheme ++ "://" ++ ip.toString ++ portSuffix port ++ "/?api=" ++ zmqType.apiName
  | http pubkey inet port =>
    l.urlScheme ++ "://" ++ PublicKeyText.toString pubkey ++ "@" ++ inet.toString ++ portSuffix port
  | websocket pubkey inet port =>
    l.urlScheme ++ "://" ++ PublicKeyText.toString pubkey ++ "@" ++ inet.toString ++ portSuffix port
  | text pubkey => l.urlScheme ++ "://" ++ PublicKeyText.toString pubkey

/-- The optional parts of a locator, as `NodeLocator::components`. -/
def components : NodeLocator Key → Components Key
  | native pubkey inet port => ⟨some pubkey, some inet, port, none, none⟩
  | udp pubkey ip port => ⟨some pubkey, some (InetAddr.ofIpAddr ip), port, none, none⟩
  | posix path => ⟨none, none, none, some path, none⟩
  | zmqIpc path api => ⟨none, none, none, some path, some api⟩
  | zmqInproc name api => ⟨none, none, none, some name, some api⟩
  | zmqTcpEncrypted pubkey api ip port => ⟨some pubkey, some (InetAddr.ofIpAddr ip), port, none, some api⟩
  | zmqTcpUnencrypted api ip port => ⟨none, some (InetAddr.ofIpAddr ip), port, none, some api⟩
  | http pubkey inet port => ⟨some pubkey, some inet, port, none, none⟩
  | websocket pubkey inet port => ⟨some pubkey, some inet, port, none, none⟩
  | text pubkey => ⟨some pubkey, none, none, none, none⟩

/-- The node id, as `NodeLocator::node_id`. -/
def nodeId (l : NodeLocator Key) : Option Key := l.components.nodeId

/-- The network address, as `NodeLocator::inet_addr`. -/
def inetAddr (l : NodeLocator Key) : Option InetAddr := l.components.inetAddr

/-- The port, as `NodeLocator::port`. -/
def port (l : NodeLocator Key) : Option UInt16 := l.components.port

/-- The socket name, as `NodeLocator::socket_name`. -/
def socketName (l : NodeLocator Key) : Option String := l.components.socketName

/-- The ZMQ role, as `NodeLocator::api_type`. -/
def apiType (l : NodeLocator Key) : Option ApiType := l.components.apiType

end NodeLocator

end Internet2
