/-
The control socket of a tunnel device.

A request is sent as a whole; the reply is read up to its first empty line or to
the end of the connection.  The socket of an interface lies in a directory under
the interface's name.
-/
import TunnelMesh.Tunnel.Status

namespace TunnelMesh

/-- The far end of a control socket. -/
class ControlPeer (σ : Type) where
  /-- Whether connections are accepted. -/
  listening : σ → Bool
  /-- Takes a request and gives the whole text sent back. -/
  exchange : σ → String → String × σ

/-- A control socket. -/
structure ControlSocket where
  interface : String
  directory : String
deriving DecidableEq

namespace ControlSocket

/-- The directory that sockets lie in by default. -/
def defaultDirectory : String := "/var/run/wireguard"

/-- A path below a directory; an absolute one stands alone. -/
def joinPath (directory path : String) : String :=
  if path.startsWith "/" then path
  else if directory.endsWith "/" || directory.isEmpty then directory ++ path
  else directory ++ "/" ++ path

/-- The path of the socket. -/
def path (s : ControlSocket) : String := joinPath s.directory (s.interface ++ ".sock")

/-- The lines of a reply up to the first empty one, with their endings. -/
def replyChars (lineStart : Bool) : List Char → List Char
  | [] => []
  | c :: rest =>
    if c = '\n' ∧ lineStart then []
    else c :: replyChars (c = '\n') rest

/-- The part of a reply that counts, closed by a line feed. -/
def readReply (sent : String) : String :=
  String.ofList (replyChars true sent.toList) ++ "\n"

/-- The fault of a socket that nobody serves. -/
def refused : TunnelError := .io "connection failed"

/-- Sends a text and reads the reply. -/
def send {σ : Type} [ControlPeer σ] (s : ControlSocket) (far : σ) (text : String) :
    Except TunnelError InterfaceStatus × σ :=
  if !ControlPeer.listening far then (.error refused, far)
  else
    let (reply, far) := ControlPeer.exchange far text
    (InterfaceStatus.ofText s.interface (readReply reply), far)

/-- Sends a request that changes the device. -/
def set {σ : Type} [ControlPeer σ] (s : ControlSocket) (far : σ) (body : String) :
    Except TunnelError Unit × σ :=
  let (r, far) := s.send far ("set=1\n" ++ body)
  (r.map fun _ => (), far)

/-- Asks for the status of the device. -/
def get {σ : Type} [ControlPeer σ] (s : ControlSocket) (far : σ) :
    Except TunnelError InterfaceStatus × σ :=
  s.send far "get=1\n\n"

/-- Whether the socket answers. -/
def ready {σ : Type} [ControlPeer σ] (s : ControlSocket) (far : σ) : Except TunnelError Unit :=
  if ControlPeer.listening far then .ok ()
  else .error (.device s.interface ("UAPI socket " ++ s.path ++ " not ready"))

end ControlSocket

/-- A far end that gives prepared replies, then empty ones. -/
structure ScriptedPeer where
  listening : Bool
  replies : List String
  /-- The texts received, oldest first. -/
  received : List String := []

namespace ScriptedPeer

/-- Takes a request and gives the next reply. -/
def exchange (p : ScriptedPeer) (text : String) : String × ScriptedPeer :=
  (p.replies.headD "", { p with replies := p.replies.tail, received := p.received ++ [text] })

instance : ControlPeer ScriptedPeer where
  listening := listening
  exchange := exchange

end ScriptedPeer

end TunnelMesh
