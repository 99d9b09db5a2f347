/-
What can go wrong with a tunnel: keys and addresses that do not read, settings
that do not fit together, lines of the control protocol that break its grammar,
and devices that refuse.
-/
import TunnelMesh.Key.Basic

namespace TunnelMesh

/-- What is wrong with the settings of an interface or a peer. -/
inductive SettingsFault where
  /-- The interface name has no character or more than 15 bytes. -/
  | nameLength (name : String)
  /-- The interface name has a character that is no letter, digit, hyphen or underscore. -/
  | nameCharacters (name : String)
  /-- Two peers have the same key. -/
  | duplicatePeer (key : PublicKey)
  /-- A peer has no key. -/
  | missingPublicKey
  /-- No peer has this key. -/
  | unknownPeer (key : PublicKey)
deriving DecidableEq

/-- The wording of a fault in settings. -/
def SettingsFault.message : SettingsFault → String
  | .nameLength n => "interface name must be 1-15 characters: " ++ Text.Quoted.text n
  | .nameCharacters n => "interface name contains invalid characters: " ++ Text.Quoted.text n
  | .duplicatePeer k => "duplicate peer " ++ k.toBase64
  | .missingPublicKey => "public key is required"
  | .unknownPeer k => "unknown peer " ++ k.toBase64

/-- What is wrong with a line of the control protocol. -/
inductive LineFault where
  /-- The line has no equals sign. -/
  | noSeparator (line : String)
  /-- The value does not read as its key demands. -/
  | badValue (key value : String)
  /-- The value is neither `true` nor `false`. -/
  | badBool (value : String)
  /-- The value is no key. -/
  | badKey (cause : Key.Error)
  /-- The value is no subnet; the text is without the blanks around it. -/
  | badSubnet (text : String)
  /-- The key is unknown where interface lines stand. -/
  | unknownInterfaceKey (key : String)
  /-- An interface line stands after a peer. -/
  | lateInterfaceKey (key : String)
  /-- The key is unknown where peer lines stand. -/
  | unknownPeerKey (key : String)
  /-- The text ends before an empty line. -/
  | unterminated
deriving DecidableEq

/-- The wording of a fault in a line. -/
def LineFault.message : LineFault → String
  | .noSeparator l => "expected key=value, got " ++ Text.Quoted.text l
  | .badValue k v => "invalid " ++ k ++ ": " ++ Text.Quoted.text v
  | .badBool v => "expected true or false, got " ++ Text.Quoted.text v
  | .badKey e => e.message
  | .badSubnet t => "invalid CIDR: " ++ t
  | .unknownInterfaceKey k => "unexpected interface key " ++ Text.Quoted.text k
  | .lateInterfaceKey k => "interface key " ++ Text.Quoted.text k ++ " after peer block"
  | .unknownPeerKey k => "unknown peer key " ++ Text.Quoted.text k
  | .unterminated => "missing terminating blank line"

/-- Why something about a tunnel failed. -/
inductive TunnelError where
  | key (cause : Key.Error)
  /-- The text is no subnet; it is without the blanks around it. -/
  | subnet (text : String)
  /-- The text is no address with a port. -/
  | endpoint (text : String)
  | settings (fault : SettingsFault)
  /-- The line with this number, counted from one, breaks the grammar. -/
  | line (number : Nat) (fault : LineFault)
  /-- The device reports a fault in words. -/
  | device (interface message : String)
  /-- The device answers with an error number. -/
  | errno (interface : String) (number : Int)
  | notFound (interface : String)
  | exists (interface : String)
  /-- The operating system reports a fault. -/
  | io (message : String)
deriving DecidableEq

/-- The wording of an error. -/
def TunnelError.message : TunnelError → String
  | .key e => e.message
  | .subnet t => "invalid CIDR: " ++ t
  | .endpoint t => "invalid endpoint: " ++ t ++ ": invalid socket address syntax"
  | .settings f => "invalid configuration: " ++ f.message
  | .line n f => s!"parse error at line {n}: {f.message}"
  | .device i m => s!"device {i}: {m}"
  | .errno i n => s!"device {i} returned errno={n}"
  | .notFound i => "interface not found: " ++ i
  | .exists i => "interface already exists: " ++ i
  | .io m => "I/O error: " ++ m

/-- The name of an error's kind. -/
def TunnelError.kind : TunnelError → String
  | .key (.length _) => "InvalidKeyLength"
  | .key (.base64 _) => "InvalidBase64"
  | .key (.hex _) => "InvalidKey"
  | .subnet _ => "InvalidCidr"
  | .endpoint _ => "InvalidEndpoint"
  | .settings _ => "InvalidConfig"
  | .line .. => "Parse"
  | .device .. => "Device"
  | .errno .. => "Errno"
  | .notFound _ => "InterfaceNotFound"
  | .exists _ => "InterfaceExists"
  | .io _ => "Io"

end TunnelMesh
