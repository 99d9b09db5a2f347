/-
What a start that fails leaves on the host.

Starting a device launches its daemon, waits for the control socket, gives the interface
its addresses and packet size, sends the settings and brings it up.  Each of these can
fail.  If the interface was created but could not be set up, it is deleted again before
the start returns.  If it is creating the interface that fails after the launch, nothing
is deleted, and the daemon and its interface stay.

A journal is a host that keeps what it ran and what came of it, so that all this is said
of the commands that the host has seen.
-/
import TunnelMesh.Device.Manager
import TunnelMesh.Proofs.Host.RuleTable
import TunnelMesh.Proofs.Tunnel.Line
import TunnelMesh.Tunnel.SocketDevice

namespace TunnelMesh

namespace Host

/-- A host with the commands that it ran, oldest first, and what they gave. -/
structure Journal (ρ : Type) where
  host : ρ
  ran : List (Command × Except CommandError Output)

namespace Journal

variable {ρ : Type} [Runner ρ]

/-- Runs a command and keeps what it gave. -/
def run (j : Journal ρ) (c : Command) : Except CommandError Output × Journal ρ :=
  let (r, host) := Runner.run j.host c
  (r, ⟨host, j.ran ++ [(c, r)]⟩)

instance : Runner (Journal ρ) where
  run := run

end Journal

/-- Whether a command ran and its exit code was zero. -/
def Succeeded (r : Except CommandError Output) : Prop := ∃ o, r = .ok o ∧ o.success = true

end Host

open Host

namespace SocketDevice

section Journaled

variable {ρ σ : Type}

/-- The device on a host that keeps what it runs from now on. -/
def journaled (d : SocketDevice ρ σ) : SocketDevice (Journal ρ) σ :=
  ⟨d.name, ⟨d.host, []⟩, d.socket, d.far⟩

/-- The command that launches the daemon. -/
def launch (name : String) : Command := ⟨.wireguardGo, [name]⟩

/-- The command that deletes the interface. -/
def deletion (name : String) : Command := ⟨.ip, ["link", "delete", "dev", name]⟩

/-- The commands that create an interface. -/
def creation (name : String) (c : InterfaceConfig) : List Command :=
  launch name :: (linkCommands name c).map fun k => ⟨k.1, k.2⟩

/-- The interface was created: every command for it succeeded, before any other ran. -/
def Created (name : String) (c : InterfaceConfig)
    (ran : List (Command × Except CommandError Output)) : Prop :=
  ∃ made rest, ran = made ++ rest ∧ made.map Prod.fst = creation name c ∧
    ∀ e ∈ made, Succeeded e.2

/-- What commands do to a journal: a first part of them ran, and all of them did and succeeded if
there was no error. -/
structure Ran (d d' : SocketDevice (Journal ρ) σ) (commands : List Command)
    (r : Except TunnelError Unit) : Prop where
  name_eq : d'.name = d.name
  far_eq : d'.far = d.far
  ran_eq : ∃ new, d'.host.ran = d.host.ran ++ new ∧ new.map Prod.fst <+: commands ∧
    (r = .ok () ↔ new.map Prod.fst = commands ∧ ∀ e ∈ new, Succeeded e.2)

variable {d d' d'' : SocketDevice (Journal ρ) σ} {commands more : List Command}
  {r : Except TunnelError Unit} {e : TunnelError}

theorem Ran.append (h : Ran d d' commands (.ok ())) (h' : Ran d' d'' more r) :
    Ran d d'' (commands ++ more) r where
  name_eq := h'.name_eq.trans h.name_eq
  far_eq := h'.far_eq.trans h.far_eq
  ran_eq := by
    obtain ⟨new, hnew, -, hok⟩ := h.ran_eq
    obtain ⟨new', hnew', hfirst, hok'⟩ := h'.ran_eq
    obtain ⟨hmap, hall⟩ := hok.mp rfl
    refine ⟨new ++ new', by rw [hnew', hnew, List.append_assoc], ?_, ?_⟩
    · rw [List.map_append, hmap]
      exact (List.prefix_append_right_inj commands).mpr hfirst
    · rw [hok', List.map_append, hmap, List.append_cancel_left_eq]
      simp only [List.mem_append]
      constructor
      · rintro ⟨hmap', hall'⟩
        exact ⟨hmap', fun x hx => hx.elim (hall x) (hall' x)⟩
      · rintro ⟨hmap', hall'⟩
        exact ⟨hmap', fun x hx => hall' x (.inr hx)⟩

/-- After a failure nothing more runs. -/
theorem Ran.of_error (h : Ran d d' commands (.error e)) :
    Ran d d' (commands ++ more) (.error e) where
  name_eq := h.name_eq
  far_eq := h.far_eq
  ran_eq := by
    obtain ⟨new, hnew, hfirst, hok⟩ := h.ran_eq
    refine ⟨new, hnew, hfirst.trans (List.prefix_append commands more), ?_⟩
    refine iff_of_false (by simp) ?_
    rintro ⟨hmap, hall⟩
    -- All the commands ran, so there were no more than those before the failure.
    have hle := hfirst.length_le
    rw [hmap, List.length_append] at hle
    obtain rfl : more = [] := List.length_eq_zero_iff.mp (by omega)
    rw [List.append_nil] at hmap
    simpa using hok.mpr ⟨hmap, hall⟩

theorem deletion_notMem_creation (name : String) (c : InterfaceConfig) :
    deletion name ∉ creation name c := by
  simp [deletion, creation, launch, linkCommands]

/-- A journal of commands for creating an interface that did not all succeed. -/
theorem Ran.not_created {c : InterfaceConfig} (h : Ran d d' (creation d.name c) (.error e))
    (hfresh : d.host.ran = []) :
    ¬Created d.name c d'.host.ran ∧ deletion d.name ∉ d'.host.ran.map Prod.fst := by
  obtain ⟨new, hnew, hfirst, hok⟩ := h.ran_eq
  rw [hfresh, List.nil_append] at hnew
  rw [hnew]
  refine ⟨?_, fun hmem => deletion_notMem_creation d.name c (hfirst.subset hmem)⟩
  rintro ⟨made, rest, rfl, hmade, hall⟩
  rw [List.map_append, hmade] at hfirst hok
  -- All of them ran, so nothing ran after them, and all of them succeeded.
  have hle := hfirst.length_le
  rw [List.length_append, List.length_map] at hle
  obtain rfl : rest = [] := List.length_eq_zero_iff.mp (by omega)
  simpa using hok.mpr ⟨by simp, by simpa using hall⟩

/-- A journal of commands for creating an interface that all succeeded, whatever ran later. -/
theorem Ran.created {c : InterfaceConfig} (h : Ran d d' (creation d.name c) (.ok ()))
    (hfresh : d.host.ran = []) (rest : List (Command × Except CommandError Output)) :
    Created d.name c (d'.host.ran ++ rest) := by
  obtain ⟨new, hnew, -, hok⟩ := h.ran_eq
  obtain ⟨hmap, hall⟩ := hok.mp rfl
  rw [hnew, hfresh, List.nil_append]
  exact ⟨new, rest, rfl, hmap, hall⟩

/-- **One command is one entry of the journal.** -/
theorem run_journal [Runner ρ] (program : Program) {args : List String}
    (h : ∀ a ∈ args, Command.admits a = true) (d : SocketDevice (Journal ρ) σ) :
    ∃ host x, (d.run program args).2 =
        { d with host := ⟨host, d.host.ran ++ [(⟨program, args⟩, x)]⟩ } ∧
      ((d.run program args).1 = .ok () ↔ Succeeded x) := by
  rcases hrun : Runner.run d.host.host ⟨program, args⟩ with ⟨x, host⟩
  refine ⟨host, x, ?_⟩
  rw [SocketDevice.run, runChecked, Command.mk?_eq_ok h]
  simp only [Runner.run, Journal.run, hrun]
  cases x with
  | error e => simp [Except.mapError, Succeeded]
  | ok o =>
      cases hsuccess : o.success <;>
        simp [Except.mapError, Except.map, Succeeded, Output.check, hsuccess]

theorem ran_run [Runner ρ] (program : Program) {args : List String}
    (h : ∀ a ∈ args, Command.admits a = true) (d : SocketDevice (Journal ρ) σ) :
    Ran d (d.run program args).2 [⟨program, args⟩] (d.run program args).1 := by
  obtain ⟨host, x, hd, hok⟩ := run_journal program h d
  rw [hd]
  exact ⟨rfl, rfl, [(⟨program, args⟩, x)], rfl, List.prefix_rfl, by simpa using hok⟩

theorem ran_runAll [Runner ρ] {cs : List (Program × List String)}
    (h : ∀ k ∈ cs, ∀ a ∈ k.2, Command.admits a = true) (d : SocketDevice (Journal ρ) σ) :
    Ran d (d.runAll cs).2 (cs.map fun k => ⟨k.1, k.2⟩) (d.runAll cs).1 := by
  induction cs generalizing d with
  | nil => exact ⟨rfl, rfl, [], by simp [runAll], List.nil_prefix, by simp [runAll]⟩
  | cons k cs ih =>
      have hfirst := ran_run k.1 (h k (by simp)) d
      rw [runAll, List.map_cons, ← List.singleton_append]
      rcases hrun : d.run k.1 k.2 with ⟨_ | _, d'⟩
      · rw [hrun] at hfirst
        exact hfirst.of_error
      · rw [hrun] at hfirst
        exact hfirst.append (ih (fun k hk => h k (by simp [hk])) d')

/-! ### Starts -/

variable [Runner ρ] [ControlPeer σ] {c : InterfaceConfig}

theorem admits_words : Command.admits "address" = true ∧ Command.admits "add" = true ∧
    Command.admits "link" = true ∧ Command.admits "set" = true ∧ Command.admits "delete" = true ∧
    Command.admits "dev" = true ∧ Command.admits "mtu" = true ∧ Command.admits "up" = true := by
  decide

theorem admits_linkCommands {name : String} (h : Command.admits name = true) (c : InterfaceConfig) :
    ∀ k ∈ linkCommands name c, ∀ a ∈ k.2, Command.admits a = true := by
  intro k hk
  rcases List.mem_append.mp hk with hk | hk
  · obtain ⟨n, -, rfl⟩ := List.mem_map.mp hk
    simp [admits_words, h, Command.admits_of_graphic n.graphic_toText]
  · obtain ⟨n, -, rfl⟩ : ∃ n, c.mtu = some n ∧ (Program.ip, ["link", "set", "dev", name, "mtu",
        toString n.toNat]) = k := by simpa using hk
    have hmtu : Command.admits n.toNat.repr = true :=
      Command.admits_of_graphic (RequestLine.graphic_toString n.toNat)
    simp [admits_words, h, hmtu]

/-- Creating an interface behind a socket that is ready runs the commands for it. -/
theorem ran_create (hvalid : c.validate = .ok ()) (hname : Command.admits d.name = true)
    (hready : ControlPeer.listening d.far = true) :
    Ran d (d.create c).2 (creation d.name c) (d.create c).1 := by
  have hlaunch : Ran d (d.run .wireguardGo [d.name]).2 [launch d.name]
      (d.run .wireguardGo [d.name]).1 := ran_run .wireguardGo (by simpa using hname) d
  rcases hrun : d.run .wireguardGo [d.name] with ⟨e | _, d₁⟩
  · have hcreate : d.create c = (.error e, d₁) := by simp only [create, hvalid, hrun]
    rw [hrun] at hlaunch
    rw [hcreate]
    exact hlaunch.of_error
  · rw [hrun] at hlaunch
    have hsocket : d₁.socket.ready d₁.far = .ok () := by
      rw [ControlSocket.ready, hlaunch.far_eq]
      exact if_pos hready
    have hcreate : d.create c = d₁.runAll (linkCommands d.name c) := by
      simp only [create, hvalid, hrun, hsocket]
      rw [hlaunch.name_eq]
    rw [hcreate]
    exact hlaunch.append (ran_runAll (admits_linkCommands hname c) d₁)

/-- Setting a device up adds to its journal, and it keeps its name. -/
theorem ran_setUp (hname : Command.admits d.name = true) (c : InterfaceConfig) :
    (ManagedDevice.setUp d c).2.name = d.name ∧
      ∃ more, (ManagedDevice.setUp d c).2.host.ran = d.host.ran ++ more := by
  rcases happly : TunnelDevice.apply d (ManagedDevice.setupRequest c) with ⟨_ | _, d₁⟩
  all_goals
    have hd₁ : (TunnelDevice.apply d (ManagedDevice.setupRequest c)).2 = d₁ := by rw [happly]
    have hname₁ : d₁.name = d.name := hd₁ ▸ rfl
    have hhost₁ : d₁.host = d.host := hd₁ ▸ rfl
    simp only [ManagedDevice.setUp, happly]
  · exact ⟨hname₁, [], by rw [hhost₁, List.append_nil]⟩
  · have hwords : ∀ a ∈ ["link", "set", "dev", d₁.name, "up"], Command.admits a = true := by
      simp [admits_words, hname₁, hname]
    obtain ⟨host, x, hd, -⟩ := run_journal .ip hwords d₁
    have hup : (TunnelDevice.up d₁).2 = (d₁.run .ip ["link", "set", "dev", d₁.name, "up"]).2 := rfl
    rw [hup, hd]
    exact ⟨hname₁, _, by rw [hhost₁]⟩

/-- Closing a device runs the command that deletes its interface. -/
theorem ran_close (hname : Command.admits d.name = true) :
    ∃ x, (TunnelDevice.close d).2.host.ran = d.host.ran ++ [(deletion d.name, x)] := by
  have hwords : ∀ a ∈ ["link", "delete", "dev", d.name], Command.admits a = true := by
    simp [admits_words, hname]
  obtain ⟨host, x, hd, -⟩ := run_journal .ip hwords d
  have hclose : (TunnelDevice.close d).2 = (d.run .ip ["link", "delete", "dev", d.name]).2 := rfl
  exact ⟨x, by rw [hclose, hd]; rfl⟩

/-- A device that could not be set up runs the deletion last. -/
theorem ran_abandon (hname : Command.admits d.name = true)
    (hsetUp : ManagedDevice.setUp d c = (.error e, d')) :
    ∃ more x, (TunnelDevice.close d').2.host.ran =
      d.host.ran ++ (more ++ [(deletion d.name, x)]) := by
  obtain ⟨hname', more, hmore⟩ := ran_setUp hname c
  rw [hsetUp] at hname' hmore
  obtain ⟨x, hclose⟩ := ran_close (d := d') (hname' ▸ hname)
  exact ⟨more, x, by rw [hclose, hmore, hname', List.append_assoc]⟩

/-- A device whose name is no argument runs nothing. -/
theorem create_of_not_admits (hname : Command.admits d.name = false) (c : InterfaceConfig) :
    ∃ e, d.create c = (.error e, d) := by
  obtain ⟨e, he⟩ := Command.mk?_eq_error (List.mem_singleton_self d.name) hname .wireguardGo
  have hrun : d.run .wireguardGo [d.name] = (.error (.device d.name e.message), d) := by
    rw [SocketDevice.run, runChecked, he]
    rfl
  cases hvalid : c.validate with
  | error e => exact ⟨e, by simp only [create, hvalid]⟩
  | ok _ => exact ⟨.device d.name e.message, by simp only [create, hvalid, hrun]⟩

/-- Behind a socket that is not ready nothing but the daemon is launched. -/
theorem create_of_not_ready (hvalid : c.validate = .ok ()) (hname : Command.admits d.name = true)
    (hready : ControlPeer.listening d.far = false) :
    ∃ e x d', d.create c = (.error e, d') ∧ d'.host.ran = d.host.ran ++ [(launch d.name, x)] := by
  obtain ⟨host, x, hd, -⟩ := run_journal .wireguardGo
    (show ∀ a ∈ [d.name], Command.admits a = true by simpa using hname) d
  rcases hrun : d.run .wireguardGo [d.name] with ⟨e | _, d₁⟩
  all_goals
    rw [hrun] at hd
    dsimp only at hd
    subst hd
  · exact ⟨e, x, _, by simp only [create, hvalid, hrun]; rfl, rfl⟩
  · have hsocket : d.socket.ready d.far =
        .error (.device d.socket.interface ("UAPI socket " ++ d.socket.path ++ " not ready")) := by
      simp [ControlSocket.ready, hready]
    exact ⟨_, x, _, by simp only [create, hvalid, hrun, hsocket]; rfl, rfl⟩

/-- **An interface is deleted after a failed start if and only if it had been created.** -/
theorem deleted_bringUp {d : SocketDevice ρ σ} (hvalid : c.validate = .ok ())
    (h : ManagedDevice.bringUp d.journaled c = (.error e, d'))
    (hlaunched : ∃ r, (launch d.name, r) ∈ d'.host.ran ∧ Succeeded r) :
    deletion d.name ∈ d'.host.ran.map Prod.fst ↔
      ControlPeer.listening d.far = true ∧ Created d.name c d'.host.ran := by
  have hcreate : TunnelDevice.create d.journaled c = d.journaled.create c := rfl
  rw [ManagedDevice.bringUp, hcreate] at h
  cases hname : Command.admits d.name with
  | false =>
      obtain ⟨e', he'⟩ := create_of_not_admits (d := d.journaled) hname c
      rw [he'] at h
      cases h
      simp [journaled] at hlaunched
  | true =>
      cases hready : ControlPeer.listening d.far with
      | false =>
          obtain ⟨e', x, d₁, hd₁, hran⟩ := create_of_not_ready (d := d.journaled) hvalid hname hready
          rw [hd₁] at h
          cases h
          rw [hran]
          simp [journaled, deletion, launch]
      | true =>
          have hran := ran_create (d := d.journaled) hvalid hname hready
          rcases hd₁ : d.journaled.create c with ⟨e' | _, d₁⟩
          · rw [hd₁] at h hran
            cases h
            obtain ⟨hnot, hmem⟩ := hran.not_created rfl
            exact iff_of_false hmem fun hc => hnot hc.2
          · rw [hd₁] at h hran
            dsimp only at h hran
            have hname₁ : Command.admits d₁.name = true := hran.name_eq ▸ hname
            rcases hsetUp : ManagedDevice.setUp d₁ c with ⟨e' | _, d₂⟩
            · rw [hsetUp] at h
              cases h
              obtain ⟨more, x, hclose⟩ := ran_abandon hname₁ hsetUp
              rw [hclose, hran.name_eq]
              exact iff_of_true (by simp [journaled]) ⟨rfl, hran.created rfl _⟩
            · rw [hsetUp] at h
              cases h

end Journaled

end SocketDevice

namespace DeviceManager

open SocketDevice

variable {ρ σ : Type} [Runner ρ] [ControlPeer σ]

/-- **A start that fails after its daemon was launched deletes the interface if and only if the
socket was ready and every command that creates the interface succeeded.** -/
theorem deletion_mem_iff_created {m : DeviceManager (SocketDevice (Journal ρ) σ)}
    {d : SocketDevice ρ σ} {c : InterfaceConfig} {e : AgentError}
    {d' : SocketDevice (Journal ρ) σ} (h : m.start d.journaled c = .error (e, d'))
    (hlaunched : ∃ r, (launch d.name, r) ∈ d'.host.ran ∧ Succeeded r) :
    deletion d.name ∈ d'.host.ran.map Prod.fst ↔
      ControlPeer.listening d.far = true ∧ Created d.name c d'.host.ran := by
  have hnone : d' ≠ d.journaled := by
    rintro rfl
    simp [journaled] at hlaunched
  cases hvalid : c.validate with
  | error e' =>
      simp only [start, hvalid, Except.error.injEq, Prod.mk.injEq] at h
      exact absurd h.2.symm hnone
  | ok _ =>
      simp only [start, hvalid] at h
      split at h
      · cases h
        exact absurd rfl hnone
      · rcases hup : ManagedDevice.bringUp d.journaled c with ⟨e' | _, d₁⟩
        · simp only [ManagedDevice.start, ManagedDevice.fresh, hup] at h
          cases h
          exact deleted_bringUp hvalid hup hlaunched
        · simp only [ManagedDevice.start, ManagedDevice.fresh, hup] at h
          cases h

/-- An interface with an address and a packet size. -/
def addressed : InterfaceConfig :=
  { name := "wm0", privateKey := ⟨.replicate 32 7, rfl⟩, listenPort := none,
    addresses := [⟨.v4 (.ofOctets 10 8 0 1), 24, by decide⟩], mtu := some 1420, peers := [] }

/-- A device on a host that gives prepared outputs, behind a daemon that gives one reply. -/
def prepared (outputs : List Output) (reply : String) : SocketDevice Recording ScriptedPeer :=
  .named "wm0" "/var/run/wireguard" { queue := outputs } ⟨true, [reply], []⟩

/-- A device that cannot be brought up loses its interface. -/
theorem deletion_mem_iff_created_down :
    let d := prepared [.ok, .ok, .ok, .failed 1 "down"] "errno=0\n\n"
    ∃ e d', (empty : DeviceManager (SocketDevice (Journal Recording) ScriptedPeer)).start
        d.journaled addressed = .error (e, d') ∧
      (∃ r, (launch d.name, r) ∈ d'.host.ran ∧ Succeeded r) ∧
      (deletion d.name ∈ d'.host.ran.map Prod.fst ↔
        ControlPeer.listening d.far = true ∧ Created d.name addressed d'.host.ran) := by
  dsimp only
  obtain ⟨e, d', hstart, hlaunched⟩ : ∃ e d',
      (empty : DeviceManager (SocketDevice (Journal Recording) ScriptedPeer)).start
        (prepared [.ok, .ok, .ok, .failed 1 "down"] "errno=0\n\n").journaled addressed =
          .error (e, d') ∧
      ∃ r, (launch "wm0", r) ∈ d'.host.ran ∧ Succeeded r := by
    refine ⟨_, _, rfl, .ok .ok, ?_, .ok, rfl, rfl⟩
    decide
  exact ⟨e, d', hstart, hlaunched, deletion_mem_iff_created hstart hlaunched⟩

/-- An interface that cannot be given its address stays on the host. -/
theorem launched_not_deleted :
    ∃ e d', (empty : DeviceManager (SocketDevice (Journal Recording) ScriptedPeer)).start
        (prepared [.ok, .failed 2 "exists"] "errno=0\n\n").journaled addressed = .error (e, d') ∧
      (∃ r, (launch "wm0", r) ∈ d'.host.ran ∧ Succeeded r) ∧
      deletion "wm0" ∉ d'.host.ran.map Prod.fst := by
  refine ⟨_, _, rfl, ⟨.ok .ok, ?_, .ok, rfl, rfl⟩, ?_⟩
  · decide
  · decide

end DeviceManager

end TunnelMesh
