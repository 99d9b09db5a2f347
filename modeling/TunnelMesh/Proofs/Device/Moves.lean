/-
What a call does in one step.

`Move` lists the steps that a call on the devices of a node can make, each with what
it found and what it leaves.  Nothing later looks into `advance`.  A step is also a
`Shift`: it takes one call from one stage to another and touches one device at most.
-/
import TunnelMesh.Device.Calls
import TunnelMesh.Proofs.Device.Managed

namespace TunnelMesh

variable {δ : Type}

/-- Whether a call starts a device. -/
def DeviceCall.IsStart : DeviceCall δ → Prop
  | start _ _ => True
  | _ => False

/-- What a call has begun with a device, or has done with any. -/
def CallStage.Concerns (n : Nat) : CallStage → Prop
  | settingUp m | takingDown m | leaving m _ => m = n
  | returned _ => True
  | called | waiting _ => False

namespace DeviceCalls

/-! ### Calls and their stages -/

theorem calls_moveOn_self {s : DeviceCalls δ} {i : Nat} {call : DeviceCall δ} {a : CallStage}
    (h : s.calls[i]? = some ⟨call, a⟩) (b : CallStage) :
    (s.moveOn i b).calls[i]? = some ⟨call, b⟩ := by
  rw [moveOn, List.getElem?_modify, h]
  simp

theorem calls_moveOn_of_ne (s : DeviceCalls δ) {i j : Nat} (h : j ≠ i) (b : CallStage) :
    (s.moveOn i b).calls[j]? = s.calls[j]? := by
  rw [moveOn, List.getElem?_modify]
  cases s.calls[j]? with
  | none => rfl
  | some c => simp [Ne.symm h]

theorem devices_put_self {s : DeviceCalls δ} {n : Nat} {d : ManagedDevice δ}
    (h : s.devices[n]? = some d) (d' : ManagedDevice δ) : (s.put n d').devices[n]? = some d' := by
  obtain ⟨hn, -⟩ := List.getElem?_eq_some_iff.mp h
  rw [put, List.getElem?_set_self hn]

theorem devices_put_of_ne (s : DeviceCalls δ) {n m : Nat} (h : m ≠ n) (d : ManagedDevice δ) :
    (s.put n d).devices[m]? = s.devices[m]? :=
  List.getElem?_set_ne (Ne.symm h)

/-- A device that is put where it is changes nothing. -/
theorem put_self {s : DeviceCalls δ} {n : Nat} {d : ManagedDevice δ} (h : s.devices[n]? = some d) :
    s.put n d = s := by
  obtain ⟨hn, rfl⟩ := List.getElem?_eq_some_iff.mp h
  rw [put, List.set_getElem_self]

/-! ### Shifts -/

section Shifts

variable {s : DeviceCalls δ} {i : Nat} {call : DeviceCall δ} {a b : CallStage}

/-- A name leads to a device, and no other does. -/
def Listed (s : DeviceCalls δ) (n : Nat) (name : String) : Prop :=
  ∀ x : String, s.names[x]? = some n ↔ x = name

/-- No name leads to a device. -/
def Unlisted (s : DeviceCalls δ) (n : Nat) : Prop := ∀ x : String, s.names[x]? ≠ some n

/-- A call goes from one stage to another, and at most one device has a part in it. -/
structure Shift (s s' : DeviceCalls δ) (i : Nat) (call : DeviceCall δ) (a b : CallStage)
    (n₀ : Nat) : Prop where
  before : s.calls[i]? = some ⟨call, a⟩
  after : s'.calls[i]? = some ⟨call, b⟩
  others : ∀ j : Nat, j ≠ i → s'.calls[j]? = s.calls[j]?
  devices : ∀ n : Nat, n ≠ n₀ → s'.devices[n]? = s.devices[n]?
  names : ∀ n, n ≠ n₀ → ∀ x : String, s'.names[x]? = some n ↔ s.names[x]? = some n
  begun : ∀ n, n ≠ n₀ → ¬a.Concerns n
  begins : ∀ n, n ≠ n₀ → b ≠ .settingUp n ∧ b ≠ .takingDown n

/-- A call moves on and touches no device. -/
theorem Shift.moveOn (hi : s.calls[i]? = some ⟨call, a⟩) (ha : ∀ m, ¬a.Concerns m)
    (hb : ∀ m, b ≠ .settingUp m ∧ b ≠ .takingDown m) (n : Nat) :
    Shift s (s.moveOn i b) i call a b n :=
  ⟨hi, calls_moveOn_self hi b, fun _ hj => calls_moveOn_of_ne s hj b, fun _ _ => rfl,
    fun _ _ _ => Iff.rfl, fun m _ => ha m, fun m _ => hb m⟩

/-- A call moves on and changes one device. -/
theorem Shift.put {n : Nat} (hi : s.calls[i]? = some ⟨call, a⟩)
    (ha : ∀ m, m ≠ n → ¬a.Concerns m) (hb : ∀ m, m ≠ n → b ≠ .settingUp m ∧ b ≠ .takingDown m)
    (d : ManagedDevice δ) : Shift s ((s.put n d).moveOn i b) i call a b n :=
  ⟨hi, calls_moveOn_self hi b, fun _ hj => calls_moveOn_of_ne (s.put n d) hj b,
    fun _ hm => devices_put_of_ne s hm d, fun _ _ _ => Iff.rfl, ha, hb⟩

theorem getElem?_names_leave (s : DeviceCalls δ) (i : Nat) (name x : String)
    (r : Except AgentError CallValue) :
    (s.leave i name r).names[x]? = if name = x then none else s.names[x]? :=
  Map.getElem?_erase _ _ _

end Shifts

/-! ### Moves -/

variable [TunnelDevice δ]

/-- The state after a new device was registered by a call. -/
def register (s : DeviceCalls δ) (i : Nat) (device : δ) : DeviceCalls δ :=
  { s with
    devices := s.devices ++ [ManagedDevice.fresh device]
    names := s.names.insert (TunnelDevice.name device) s.devices.length }.moveOn i
      (.settingUp s.devices.length)

/-- The steps of a call. -/
inductive Move (s : DeviceCalls δ) (i : Nat) : DeviceCalls δ → Prop where
  | stay : Move s i s
  /-- It returns without having had a device for itself, or only to look at it. -/
  | answer {call : DeviceCall δ} {stage : CallStage} {r : Except AgentError CallValue}
      (h : s.calls[i]? = some ⟨call, stage⟩) (hstage : ∀ n, ¬stage.Concerns n) :
      Move s i (s.moveOn i (.returned r))
  | find {call : DeviceCall δ} {n : Nat} (h : s.calls[i]? = some ⟨call, .called⟩)
      (hcall : ¬call.IsStart) (hname : s.names[call.name]? = some n) :
      Move s i (s.moveOn i (.waiting n))
  | register {device : δ} {config : InterfaceConfig}
      (h : s.calls[i]? = some ⟨.start device config, .called⟩)
      (hfree : s.names[TunnelDevice.name device]? = none) : Move s i (s.register i device)
  | run {device : δ} {config : InterfaceConfig} {n : Nat} {d d' : ManagedDevice δ}
      (h : s.calls[i]? = some ⟨.start device config, .settingUp n⟩)
      (hd : s.devices[n]? = some d) (hstart : d.start config = (.ok (), d')) :
      Move s i ((s.put n d').moveOn i (.returned (.ok .done)))
  | fail {device : δ} {config : InterfaceConfig} {n : Nat} {d d' : ManagedDevice δ} {e : AgentError}
      (h : s.calls[i]? = some ⟨.start device config, .settingUp n⟩)
      (hd : s.devices[n]? = some d) (hstart : d.start config = (.error e, d')) :
      Move s i ((s.put n d').moveOn i (.leaving n (.error e)))
  | update {name : String} {desired reachable : List PeerConfig} {n : Nat} {d : ManagedDevice δ}
      {r : Except AgentError CallValue}
      (h : s.calls[i]? = some ⟨.update name desired reachable, .waiting n⟩)
      (hlock : s.isLocked n = false) (hd : s.devices[n]? = some d) (hstate : d.state = .running) :
      Move s i ((s.put n (d.reach (.ofLists desired reachable)).2).moveOn i (.returned r))
  | claim {name : String} {n : Nat} {d : ManagedDevice δ}
      (h : s.calls[i]? = some ⟨.stop name, .waiting n⟩)
      (hlock : s.isLocked n = false) (hd : s.devices[n]? = some d) (hstate : d.state = .running) :
      Move s i ((s.put n { d with state := .stopping }).moveOn i (.takingDown n))
  | close {call : DeviceCall δ} {n : Nat} {d : ManagedDevice δ} {r : Except AgentError CallValue}
      (h : s.calls[i]? = some ⟨call, .takingDown n⟩) (hd : s.devices[n]? = some d) :
      Move s i ((s.put n d.takeDown.2).moveOn i (.leaving n r))
  | leave {call : DeviceCall δ} {n : Nat} {r : Except AgentError CallValue}
      (h : s.calls[i]? = some ⟨call, .leaving n r⟩) : Move s i (s.leave i call.name r)

variable {s : DeviceCalls δ} {i n : Nat} {d : ManagedDevice δ}

theorem not_concerns_called (m : Nat) : ¬CallStage.called.Concerns m := id

theorem not_concerns_waiting (n m : Nat) : ¬(CallStage.waiting n).Concerns m := id

theorem move_enroll {device : δ} {config : InterfaceConfig}
    (h : s.calls[i]? = some ⟨.start device config, .called⟩) :
    Move s i (s.enroll i device config) := by
  unfold enroll
  cases config.validate with
  | error e => exact .answer h not_concerns_called
  | ok _ =>
      dsimp only
      split
      · exact .answer h not_concerns_called
      · rename_i hfree
        rw [Std.ExtTreeMap.contains_eq_isSome_getElem?, Bool.not_eq_true,
          Option.isSome_eq_false_iff, Option.isNone_iff_eq_none] at hfree
        exact .register h hfree

theorem move_lookUp {call : DeviceCall δ} (h : s.calls[i]? = some ⟨call, .called⟩)
    (hcall : ¬call.IsStart) : Move s i (s.lookUp i call.name) := by
  unfold lookUp
  cases hname : s.names[call.name]? with
  | some n => exact .find h hcall hname
  | none => exact .answer h not_concerns_called

theorem move_setUp {device : δ} {config : InterfaceConfig}
    (h : s.calls[i]? = some ⟨.start device config, .settingUp n⟩) (hd : s.devices[n]? = some d) :
    Move s i (s.setUp i n d config) := by
  unfold setUp
  rcases hstart : d.start config with ⟨_ | _, d'⟩
  · exact .fail h hd hstart
  · exact .run h hd hstart

theorem move_attend {call : DeviceCall δ} (h : s.calls[i]? = some ⟨call, .waiting n⟩)
    (hlock : s.isLocked n = false) (hd : s.devices[n]? = some d) :
    Move s i (s.attend i n d call) := by
  unfold attend
  cases call with
  | start => exact .stay
  | stop name =>
      dsimp only
      split
      · rename_i hstate
        exact .claim h hlock hd hstate
      · exact .answer h (not_concerns_waiting n)
  | update name desired reachable =>
      dsimp only
      by_cases hstate : d.state = .running
      · rw [ManagedDevice.update, ManagedDevice.ifRunning, if_pos hstate]
        exact .update h hlock hd hstate
      · rw [ManagedDevice.update, ManagedDevice.ifRunning, if_neg hstate]
        dsimp only
        rw [put_self hd]
        exact .answer h (not_concerns_waiting n)
  | status name => exact .answer h (not_concerns_waiting n)

/-- **Every step of a call is one of its moves.** -/
theorem move_advance (s : DeviceCalls δ) (i : Nat) : Move s i (s.advance i) := by
  unfold advance
  rcases h : s.calls[i]? with _ | ⟨call, stage⟩
  · exact .stay
  cases stage with
  | called =>
      cases call with
      | start device config => exact move_enroll h
      | stop name => exact move_lookUp h id
      | update name desired reachable => exact move_lookUp h id
      | status name => exact move_lookUp h id
  | settingUp n =>
      cases call with
      | start device config =>
          dsimp only
          cases hd : s.devices[n]? with
          | none => exact .stay
          | some d => exact move_setUp h hd
      | stop | update | status => exact .stay
  | waiting n =>
      dsimp only
      split
      · exact .stay
      · rename_i hlock
        rw [Bool.not_eq_true] at hlock
        cases hd : s.devices[n]? with
        | none => exact .stay
        | some d => exact move_attend h hlock hd
  | takingDown n =>
      dsimp only
      cases hd : s.devices[n]? with
      | none => exact .stay
      | some d => exact .close h hd
  | leaving n r => exact .leave h
  | returned r => exact .stay

/-! ### Moves of one device -/

/-- A call that takes a name out of the table touches the device that it leaves, and no other. -/
theorem Shift.leave {call : DeviceCall δ} {n : Nat} {r : Except AgentError CallValue}
    (hi : s.calls[i]? = some ⟨call, .leaving n r⟩) (hlisted : s.Listed n call.name) :
    Shift s (s.leave i call.name r) i call (.leaving n r) (.returned r) n ∧
      (s.leave i call.name r).Unlisted n := by
  have hname : s.names[call.name]? = some n := (hlisted _).mpr rfl
  refine ⟨⟨hi, ?_, ?_, fun _ _ => rfl, ?_, fun m hm hc => hm hc.symm, by simp⟩, ?_⟩
  · exact calls_moveOn_self (s := { s with names := s.names.erase call.name }) hi _
  · exact fun j hj => calls_moveOn_of_ne { s with names := s.names.erase call.name } hj _
  · intro m hm x
    rw [getElem?_names_leave]
    split
    · rename_i hx
      rw [← hx, hname]
      simp [Ne.symm hm]
    · exact Iff.rfl
  · intro x hx
    rw [getElem?_names_leave] at hx
    split at hx
    · cases hx
    · rename_i hne
      exact hne ((hlisted x).mp hx).symm

theorem getElem?_names_register (s : DeviceCalls δ) (i : Nat) (device : δ) (x : String) :
    (s.register i device).names[x]? =
      if TunnelDevice.name device = x then some s.devices.length else s.names[x]? :=
  Map.getElem?_insert _ _ _ _

theorem getElem?_devices_register (s : DeviceCalls δ) (i n : Nat) (device : δ) :
    (s.register i device).devices[n]? =
      if n = s.devices.length then some (.fresh device) else s.devices[n]? := by
  show (s.devices ++ [ManagedDevice.fresh device])[n]? = _
  by_cases hn : n = s.devices.length
  · rw [if_pos hn, hn, List.getElem?_concat_length]
  · rw [if_neg hn, List.getElem?_append]
    split
    · rfl
    · rw [List.getElem?_eq_none (by simp; omega), List.getElem?_eq_none (by omega)]

/-- A call that registers a device touches no other. -/
theorem Shift.register {device : δ} {config : InterfaceConfig}
    (hi : s.calls[i]? = some ⟨.start device config, .called⟩)
    (hfree : s.names[TunnelDevice.name device]? = none) :
    Shift s (s.register i device) i (.start device config) .called (.settingUp s.devices.length)
      s.devices.length := by
  refine ⟨hi, ?_, fun _ hj => calls_moveOn_of_ne _ hj _, ?_, ?_, fun _ _ => id, ?_⟩
  · exact calls_moveOn_self (s := { s with
      devices := s.devices ++ [ManagedDevice.fresh device]
      names := s.names.insert (TunnelDevice.name device) s.devices.length }) hi _
  · intro m hm
    rw [getElem?_devices_register, if_neg hm]
  · intro m hm x
    rw [getElem?_names_register]
    split
    · rename_i hx
      rw [← hx, hfree]
      simp [Ne.symm hm]
    · exact Iff.rfl
  · intro m hm
    simp [Ne.symm hm]

end DeviceCalls

end TunnelMesh
