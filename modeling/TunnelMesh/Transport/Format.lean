/-
Endpoints of transports in JSON.
-/
import TunnelMesh.Transport.WebSocket
import TunnelMesh.Tunnel.Format

namespace TunnelMesh.Transport

open Net

/-- The name of an endpoint's kind: dialed and accepted relay peers are told apart. -/
def Endpoint.kindName : Endpoint → String
  | .udp _ => "udp"
  | .relay (.dialed _) => "dialed"
  | .relay (.accepted _) => "accepted"

/-- An endpoint as JSON: its text under the name of its kind. -/
def Endpoint.toJson (e : Endpoint) : Json :=
  match e with
  | .udp a | .relay (.accepted a) => .obj [(e.kindName, a.toJson)]
  | .relay (.dialed url) => .obj [(e.kindName, .str url.toText)]

/-- An endpoint out of JSON. -/
def Endpoint.ofJson? : Json → Option Endpoint
  | .obj [("udp", v)] => (SocketAddress.ofJson? v).map .udp
  | .obj [("accepted", v)] => (SocketAddress.ofJson? v).map fun a => .relay (.accepted a)
  | .obj [("dialed", v)] => Json.parsed? (RelayTransport.endpoint? RelayUrl.ofText?) v
  | _ => none

/-- An endpoint of a bind as JSON, with its texts. -/
def BindEndpoint.toJson (e : BindEndpoint) : Json :=
  .obj [("display", .str e.toText), ("inner", .str e.inner.toText),
    ("kind", .str e.inner.kindName), ("transport", .nat e.transport)]

end TunnelMesh.Transport
