/-
Nodes of the mesh.

A node has a tunnel address, endpoints under which it can be reached, tags that
access rules speak about, and further subnets behind it.  It answers for its own
address and for those subnets.
-/
import TunnelMesh.Key.Basic
import TunnelMesh.Mesh.Id
import TunnelMesh.Net.Subnet
import TunnelMesh.Time.Instant

namespace TunnelMesh

open Net

/-- A set of tags. -/
abbrev Tags := Std.ExtTreeSet String

/-- Where a node can be reached: a host and port, or a URL. -/
structure NodeEndpoint where
  host : String
  port : UInt16
  uri : Option String
deriving DecidableEq

/-- What is wrong with an endpoint. -/
inductive EndpointFault where
  | emptyHost
  | zeroPort (host : String)
  | unsupportedScheme (uri : String)
deriving DecidableEq

/-- The wording of a fault. -/
def EndpointFault.message : EndpointFault → String
  | .emptyHost => "empty host"
  | .zeroPort h => "port 0 for " ++ h
  | .unsupportedScheme u => "unsupported uri scheme: " ++ u

namespace NodeEndpoint

/-- The text to connect to: the URL if there is one, else host and port. -/
def dialText (e : NodeEndpoint) : String :=
  match e.uri with
  | some u => u
  | none =>
    match Address.ofText? e.host with
    | some (.v6 ip) => "[" ++ ip.toText ++ "]:" ++ toString e.port.toNat
    | _ => e.host ++ ":" ++ toString e.port.toNat

/-- Whether the endpoint is reached over a web socket. -/
def isWebSocket (e : NodeEndpoint) : Bool :=
  e.uri.any fun u => u.startsWith "ws://" || u.startsWith "wss://"

/-- The first fault of an endpoint, if any. -/
def fault? (e : NodeEndpoint) : Option EndpointFault :=
  if (Text.trim e.host).isEmpty then some .emptyHost
  else if e.port = 0 then some (.zeroPort e.host)
  else
    match e.uri with
    | some u => if e.isWebSocket then none else some (.unsupportedScheme u)
    | none => none

end NodeEndpoint

/-- A node of the mesh. -/
structure Node where
  id : NodeId
  clientId : ClientId
  networkId : NetworkId
  publicKey : PublicKey
  /-- The tunnel address with the network around it. -/
  address : Subnet
  listenPort : UInt16
  /-- Endpoints, the preferred one first. -/
  endpoints : List NodeEndpoint
  tags : Tags
  /-- Subnets behind the node. -/
  routes : List Subnet
  /-- When the node was last heard of. -/
  lastSeen : Option Instant

namespace Node

/-- The port that tunnels listen on by default. -/
def defaultPort : UInt16 := 51820

/-- A node of its own client in network zero. -/
def new (id : NodeId) (key : PublicKey) (address : Subnet) : Node :=
  ⟨id, ⟨id.value⟩, ⟨0⟩, key, address, defaultPort, [], ∅, [], none⟩

/-- Whether the node can be reached at all. -/
def advertises (n : Node) : Bool := !n.endpoints.isEmpty

/-- The endpoint to reach the node at. -/
def preferred (n : Node) : Option NodeEndpoint := n.endpoints.head?

/-- The text to connect to the node, if it can be reached. -/
def dialText (n : Node) : Option String := n.preferred.map (·.dialText)

/-- The subnet of the node's tunnel address alone. -/
def hostRoute (n : Node) : Subnet := .host n.address.address

/-- The subnets that the node answers for. -/
def routedSubnets (n : Node) : List Subnet := n.hostRoute :: n.routes.map Subnet.trunc

end Node

end TunnelMesh
