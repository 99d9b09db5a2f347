/-
Tunnel devices that a daemon provides.

Creating one launches the daemon, waits for its control socket, adds the addresses
and sets the size of packets; the first failure ends it.  Deleting the interface
ends the daemon.
-/
import TunnelMesh.Host.Command
import TunnelMesh.Tunnel.Control
import TunnelMesh.Tunnel.Device

namespace TunnelMesh

open Host

/-- A device behind a daemon, with the host it runs on and the far end of its control socket. -/
structure SocketDevice (ρ σ : Type) where
  name : String
  host : ρ
  socket : ControlSocket
  far : σ

namespace SocketDevice

variable {ρ σ : Type} [Runner ρ] [ControlPeer σ]

/-- A device of a given name with its socket in a directory. -/
def named (name directory : String) (host : ρ) (far : σ) : SocketDevice ρ σ :=
  ⟨name, host, ⟨name, directory⟩, far⟩

/-- Runs a command for the device. -/
def run (d : SocketDevice ρ σ) (program : Program) (args : List String) :
    Except TunnelError Unit × SocketDevice ρ σ :=
  let (r, host) := runChecked d.host program args
  (r.mapError fun e => .device d.name e.message, { d with host })

/-- Runs commands one after the other, up to the first failure. -/
def runAll (d : SocketDevice ρ σ) :
    List (Program × List String) → Except TunnelError Unit × SocketDevice ρ σ
  | [] => (.ok (), d)
  | (program, args) :: rest =>
    match d.run program args with
    | (.error e, d) => (.error e, d)
    | (.ok (), d) => d.runAll rest

/-- The commands that give an interface its addresses and its packet size. -/
def linkCommands (name : String) (c : InterfaceConfig) : List (Program × List String) :=
  (c.addresses.map fun a => (.ip, ["address", "add", a.toText, "dev", name])) ++
  (c.mtu.map fun n => (Program.ip, ["link", "set", "dev", name, "mtu", toString n.toNat])).toList

/-- Launches the daemon and sets the interface up. -/
def create (d : SocketDevice ρ σ) (c : InterfaceConfig) :
    Except TunnelError Unit × SocketDevice ρ σ :=
  match c.validate with
  | .error e => (.error e, d)
  | .ok () =>
    match d.run .wireguardGo [d.name] with
    | (.error e, d) => (.error e, d)
    | (.ok (), d) =>
      match d.socket.ready d.far with
      | .error e => (.error e, d)
      | .ok () => d.runAll (linkCommands d.name c)

/-- Sends a request over the control socket. -/
def apply (d : SocketDevice ρ σ) (text : String) : Except TunnelError Unit × SocketDevice ρ σ :=
  let (r, far) := d.socket.set d.far text
  (r, { d with far })

/-- Brings the interface up. -/
def up (d : SocketDevice ρ σ) : Except TunnelError Unit × SocketDevice ρ σ :=
  d.run .ip ["link", "set", "dev", d.name, "up"]

/-- Asks over the control socket. -/
def status (d : SocketDevice ρ σ) : Except TunnelError InterfaceStatus × SocketDevice ρ σ :=
  let (r, far) := d.socket.get d.far
  (r, { d with far })

/-- Deletes the interface. -/
def close (d : SocketDevice ρ σ) : Except TunnelError Unit × SocketDevice ρ σ :=
  d.run .ip ["link", "delete", "dev", d.name]

instance : TunnelDevice (SocketDevice ρ σ) where
  name := name
  create := create
  apply := apply
  up := up
  status := status
  close := close

end SocketDevice

end TunnelMesh
