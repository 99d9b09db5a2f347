/-
What can go wrong with transports.
-/
import TunnelMesh.Transport.Endpoint

namespace TunnelMesh.Transport

/-- Why a transport, or a bind of several, failed. -/
inductive BindError where
  /-- The operating system reports a fault. -/
  | io (message : String)
  /-- A relay connection could not be set up or broke its protocol. -/
  | webSocket (message : String)
  /-- No transport takes an endpoint. -/
  | unsupported (endpoint : String)
  /-- There is no connection, and the peer cannot be dialed. -/
  | notConnected (endpoint : String)
  /-- The connection closed before the datagram went out. -/
  | connectionClosed (endpoint : String)
  /-- The peer did not answer in time. -/
  | connectTimeout (url : String)
  | notOpen (kind : Kind)
  | alreadyOpen (kind : Kind)
  /-- Nothing can be received any more. -/
  | closed
  /-- Several transports failed. -/
  | joined (errors : List BindError)
deriving Inhabited

namespace BindError

mutual

/-- The wording of an error. -/
def message : BindError → String
  | io m => "I/O error: " ++ m
  | webSocket m => "websocket error: " ++ m
  | unsupported e => "unsupported endpoint: " ++ e
  | notConnected e => "not connected: " ++ e
  | connectionClosed e => "connection to " ++ e ++ " closed"
  | connectTimeout u => "timed out connecting to " ++ u
  | notOpen k => "transport " ++ k.name ++ " is not open"
  | alreadyOpen k => "transport " ++ k.name ++ " is already open"
  | closed => "bind closed"
  | joined es => "; ".intercalate (messages es)

/-- The wordings of several errors. -/
def messages : List BindError → List String
  | [] => []
  | e :: es => e.message :: messages es

end

/-- The name of an error's kind. -/
def kind : BindError → String
  | io _ => "Io"
  | webSocket _ => "WebSocket"
  | unsupported _ => "UnsupportedEndpoint"
  | notConnected _ => "NotConnected"
  | connectionClosed _ => "ConnectionClosed"
  | connectTimeout _ => "ConnectTimeout"
  | notOpen _ => "NotOpen"
  | alreadyOpen _ => "AlreadyOpen"
  | closed => "Closed"
  | joined _ => "Joined"

/-- What several attempts amount to: success without errors, and one error as it is. -/
def join : List BindError → Except BindError Unit
  | [] => .ok ()
  | [e] => .error e
  | es => .error (joined es)

end BindError

/-- How a call can end without an answer. -/
inductive Fault (ε : Type) where
  | failed (error : ε)
  /-- The call broke off where it was, and nothing that it had done was undone. -/
  | broken

/-- An end with its error in another form. -/
def Fault.map {ε ε' : Type} (f : ε → ε') : Fault ε → Fault ε'
  | failed e => failed (f e)
  | broken => broken

/-- Why connecting failed. -/
inductive ConnectFault where
  | timedOut
  /-- The relay refused the connection, or broke the protocol. -/
  | broken (message : String)
deriving DecidableEq

/-- The error that a send gets for a failure to connect to an address. -/
def ConnectFault.error (url : RelayUrl) : ConnectFault → BindError
  | timedOut => .connectTimeout url.toText
  | broken message => .webSocket message

end TunnelMesh.Transport
