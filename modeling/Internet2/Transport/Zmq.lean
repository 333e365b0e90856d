import Internet2.Net.IpAddr

/-! ZMQ socket roles and the local addresses of the transport layer. -/

namespace Internet2

/--
The role of a ZMQ socket, as `zmqsocket::ApiType`.

Modelled from the spec: the `zmqsocket` module is not among the sources. The spec lists the
roles "listening, connecting, request-client, reply-server, subscriber, service-bus".
-/
inductive ApiType where
  /-- The connecting end of a peer-to-peer socket pair. -/
  | peerConnecting
  /-- The listening end of a peer-to-peer socket pair. -/
  | peerListening
  /-- The client of a request-reply pair. -/
  | client
  /-- The server of a request-reply pair. -/
  | server
  /-- A subscriber. -/
  | subscribe
  /-- A service on the enterprise service bus. -/
  | esbService
  deriving DecidableEq

/--
The token a role is written as in the `api` query parameter, as `ApiType::api_name`.

Modelled from the spec: "listening/connecting → `p2p`; request-client → `rpc`;
reply-server → … serializes identically to request-client's peer form; subscriber → `sub`;
service-bus → `esb`".
-/
def ApiType.apiName : ApiType → String
  | .peerConnecting | .peerListening => "p2p"
  | .client | .server => "rpc"
  | .subscribe => "sub"
  | .esbService => "esb"

/-- A socket address: an IP address and a port, as `std::net::SocketAddr`. -/
structure SocketAddr where
  ip : IpAddr
  port : UInt16
  deriving DecidableEq

/--
Where a ZMQ socket is bound, as `zmqsocket::SocketLocator`.

Modelled from the spec: "a local-address type with constructors for socket-path/ipc-path/
inproc-name/tcp-plain-with-port".
-/
inductive SocketLocator where
  /-- An IPC socket at a file path. -/
  | ipc (path : String)
  /-- An in-process socket under a name. -/
  | inproc (name : String)
  /-- A TCP socket. -/
  | tcp (addr : SocketAddr)
  deriving DecidableEq

/-- A local address of the transport layer, as `LocalAddr`. -/
inductive LocalAddr where
  /-- A POSIX socket at a file path. -/
  | posix (path : String)
  /-- A ZMQ socket. -/
  | zmq (locator : SocketLocator)
  deriving DecidableEq

end Internet2
