/-
Forwarding rules for tunnel interfaces.

An interface with a subnet has two rules, one for each direction.  Rules are
looked up before they are appended, so that a restart adds none twice; a change of
the subnet takes the old rules away first.  Version 4 subnets belong to one
program, version 6 subnets to the other.
-/
import TunnelMesh.Host.Command
import TunnelMesh.Net.Subnet

namespace TunnelMesh.Host

open Net

/-- The rules that a program manages. -/
structure Firewall where
  /-- A disabled firewall leaves the host alone. -/
  enabled : Bool
  /-- The subnet of each interface whose rules are in place. -/
  installed : Std.ExtTreeMap String Subnet

namespace Firewall

/-- A firewall that has placed no rule yet. -/
def empty (enabled : Bool) : Firewall := ⟨enabled, ∅⟩

/-- The program that keeps the rules of a subnet. -/
def programFor (subnet : Subnet) : Program :=
  if subnet.address.isV4 then .iptables else .ip6tables

/-- The rules of an interface with a subnet: packets that go in, packets that come out. -/
def forwardRules (iface : String) (subnet : Subnet) : List (List String) :=
  let net := subnet.toText
  [["FORWARD", "-i", iface, "-d", net, "-j", "ACCEPT"],
   ["FORWARD", "-s", net, "-o", iface, "-j", "ACCEPT"]]

/-- Deletes rules; what fails is left. -/
def deleteRules {ρ : Type} [Runner ρ] (program : Program) (host : ρ) : List (List String) → ρ
  | [] => host
  | rule :: rest => deleteRules program (runChecked host program ("-D" :: rule)).2 rest

/-- Appends a rule unless the host has it. -/
def installRule {ρ : Type} [Runner ρ] (program : Program) (host : ρ) (rule : List String) :
    Except CommandError Unit × ρ :=
  match Command.mk? program ("-C" :: rule) with
  | .error e => (.error e, host)
  | .ok check =>
    match Runner.run host check with
    | (.error e, host) => (.error e, host)
    | (.ok o, host) =>
      if o.success then (.ok (), host) else runChecked host program ("-A" :: rule)

/-- Installs rules one after the other, up to the first failure. -/
def installRules {ρ : Type} [Runner ρ] (program : Program) (host : ρ) :
    List (List String) → Except CommandError Unit × ρ
  | [] => (.ok (), host)
  | rule :: rest =>
    match installRule program host rule with
    | (.error e, host) => (.error e, host)
    | (.ok (), host) => installRules program host rest

/-- Forgets the subnet of an interface and deletes its rules, unless the subnet is `keep`. -/
def retire {ρ : Type} [Runner ρ] (fw : Firewall) (host : ρ) (iface : String)
    (keep : Option Subnet) : Firewall × ρ :=
  match fw.installed[iface]? with
  | none => (fw, host)
  | some old =>
    if keep = some old then (fw, host)
    else
      ({ fw with installed := fw.installed.erase iface },
        deleteRules (programFor old) host (forwardRules iface old))

/-- Puts the rules of an interface with a subnet in place. -/
def ensure {ρ : Type} [Runner ρ] (fw : Firewall) (host : ρ) (iface : String) (subnet : Subnet) :
    Except CommandError Unit × Firewall × ρ :=
  if !fw.enabled then (.ok (), fw, host)
  else
    let (fw, host) := fw.retire host iface (some subnet)
    match installRules (programFor subnet) host (forwardRules iface subnet) with
    | (.error e, host) => (.error e, fw, host)
    | (.ok (), host) => (.ok (), { fw with installed := fw.installed.insert iface subnet }, host)

/-- Takes the rules of an interface away. -/
def cleanup {ρ : Type} [Runner ρ] (fw : Firewall) (host : ρ) (iface : String) : Firewall × ρ :=
  if !fw.enabled then (fw, host) else fw.retire host iface none

end Firewall

end TunnelMesh.Host
