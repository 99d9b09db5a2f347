/-
Calls on devices run to completion.

No order of steps leads calls on devices into a deadlock.  A call that keeps others
from a device can always go on, and when no call does so every call that has not
returned can.  Each step that is not a wait brings its call closer to its return, so
steps that are not waits come to an end, and then all calls have returned.
-/
import TunnelMesh.Proofs.Device.Registry

namespace TunnelMesh

variable {δ : Type}

/-- The most steps that a call still has to take. -/
def CallStage.remaining : CallStage → Nat
  | called => 4
  | waiting _ => 3
  | settingUp _ | takingDown _ => 2
  | leaving _ _ => 1
  | returned _ => 0

theorem CallStage.remaining_eq_zero {stage : CallStage} :
    stage.remaining = 0 ↔ ∃ r, stage = .returned r := by
  cases stage <;> simp [remaining]

namespace DeviceCalls

/-- The most steps that calls together still have to take. -/
def stepsLeft (calls : List (PendingCall δ)) : Nat :=
  calls.foldr (fun c n => c.stage.remaining + n) 0

/-- A call has come closer to its return. -/
def GoesOn (s s' : DeviceCalls δ) (i : Nat) : Prop :=
  ∃ c b, s.calls[i]? = some c ∧ b.remaining < c.stage.remaining ∧
    s'.calls = s.calls.modify i fun c => { c with stage := b }

theorem stepsLeft_modify_lt {calls : List (PendingCall δ)} {b : CallStage} :
    ∀ {i : Nat} {c : PendingCall δ}, calls[i]? = some c → b.remaining < c.stage.remaining →
      stepsLeft (calls.modify i fun c => { c with stage := b }) < stepsLeft calls := by
  induction calls with
  | nil =>
      intro i c hc
      cases hc
  | cons c' calls ih =>
      intro i c hc hb
      unfold stepsLeft at ih ⊢
      cases i with
      | zero =>
          cases hc
          simp only [List.modify_zero_cons, List.foldr_cons]
          omega
      | succ i =>
          have htail := ih (i := i) hc hb
          simp only [List.modify_succ_cons, List.foldr_cons]
          omega

theorem GoesOn.stepsLeft_lt {s s' : DeviceCalls δ} {i : Nat} (h : GoesOn s s' i) :
    stepsLeft s'.calls < stepsLeft s.calls := by
  obtain ⟨c, b, hc, hb, hcalls⟩ := h
  rw [hcalls]
  exact stepsLeft_modify_lt hc hb

/-! ### Calls that go on -/

variable [TunnelDevice δ] {events : List (Event δ)} {i n : Nat} {call : DeviceCall δ}

theorem goesOn_called {s : DeviceCalls δ} (hi : s.calls[i]? = some ⟨call, .called⟩) :
    GoesOn s (s.advance i) i := by
  unfold advance
  rw [hi]
  cases call with
  | start device config =>
      dsimp only [enroll]
      split
      · exact ⟨_, _, hi, by simp [CallStage.remaining], rfl⟩
      · split
        · exact ⟨_, _, hi, by simp [CallStage.remaining], rfl⟩
        · exact ⟨_, _, hi, by simp [CallStage.remaining], rfl⟩
  | stop | update | status =>
      dsimp only [lookUp]
      split
      · exact ⟨_, _, hi, by simp [CallStage.remaining], rfl⟩
      · exact ⟨_, _, hi, by simp [CallStage.remaining], rfl⟩

theorem goesOn_settingUp {s : DeviceCalls δ} {device : δ} {config : InterfaceConfig}
    {d : ManagedDevice δ} (hi : s.calls[i]? = some ⟨.start device config, .settingUp n⟩)
    (hd : s.devices[n]? = some d) : GoesOn s (s.advance i) i := by
  unfold advance
  rw [hi]
  dsimp only
  rw [hd]
  dsimp only [setUp]
  split
  · exact ⟨_, _, hi, by simp [CallStage.remaining], rfl⟩
  · exact ⟨_, _, hi, by simp [CallStage.remaining], rfl⟩

theorem goesOn_waiting {s : DeviceCalls δ} {d : ManagedDevice δ}
    (hi : s.calls[i]? = some ⟨call, .waiting n⟩) (hcall : ¬call.IsStart)
    (hlock : s.isLocked n = false) (hd : s.devices[n]? = some d) : GoesOn s (s.advance i) i := by
  unfold advance
  rw [hi]
  dsimp only
  rw [hlock, hd, if_neg Bool.false_ne_true]
  cases call with
  | start => exact absurd trivial hcall
  | stop =>
      dsimp only [attend]
      split
      · exact ⟨_, _, hi, by simp [CallStage.remaining], rfl⟩
      · exact ⟨_, _, hi, by simp [CallStage.remaining], rfl⟩
  | update => exact ⟨_, _, hi, by simp [CallStage.remaining], rfl⟩
  | status => exact ⟨_, _, hi, by simp [CallStage.remaining], rfl⟩

theorem goesOn_takingDown {s : DeviceCalls δ} {d : ManagedDevice δ}
    (hi : s.calls[i]? = some ⟨call, .takingDown n⟩) (hd : s.devices[n]? = some d) :
    GoesOn s (s.advance i) i := by
  unfold advance
  rw [hi]
  dsimp only
  rw [hd]
  exact ⟨_, _, hi, by simp [CallStage.remaining], rfl⟩

theorem goesOn_leaving {s : DeviceCalls δ} {r : Except AgentError CallValue}
    (hi : s.calls[i]? = some ⟨call, .leaving n r⟩) : GoesOn s (s.advance i) i := by
  unfold advance
  rw [hi]
  exact ⟨_, _, hi, by simp [CallStage.remaining], rfl⟩

/-- A call that keeps others from a device can go on. -/
theorem goesOn_of_holds {c : PendingCall δ} (hi : (run events).calls[i]? = some c)
    (hc : c.stage.holds n = true) : GoesOn (run events) ((run events).advance i) i := by
  obtain ⟨call, stage⟩ := c
  have h := consistent events
  cases stage with
  | settingUp m =>
      obtain ⟨k, device, config, d, hd, hk, hlife⟩ := h.exists_life (.inl (reached_now hi))
      obtain rfl := (hk i).mp (reached_now hi)
      obtain ⟨stage', hstart⟩ := hlife.exists_call
      cases hstart.symm.trans hi
      exact goesOn_settingUp hi hd
  | takingDown m =>
      obtain ⟨_, _, _, d, hd, _⟩ := h.exists_life (.inr (reached_now hi))
      exact goesOn_takingDown hi hd
  | called | waiting | leaving | returned => cases hc

/-- **As long as a call has not returned, some call can go on.** -/
theorem exists_goesOn {c : PendingCall δ} (hi : (run events).calls[i]? = some c)
    (hc : c.stage.remaining ≠ 0) : ∃ j, GoesOn (run events) ((run events).advance j) j := by
  by_cases hlocked : ∃ n, (run events).isLocked n = true
  · obtain ⟨n, hlocked⟩ := hlocked
    obtain ⟨c', hmem, hholds⟩ := List.any_eq_true.mp hlocked
    obtain ⟨j, hj⟩ := List.mem_iff_getElem?.mp hmem
    exact ⟨j, goesOn_of_holds hj hholds⟩
  · have hfree : ∀ n, (run events).isLocked n = false :=
      fun n => Bool.eq_false_iff.mpr fun hn => hlocked ⟨n, hn⟩
    obtain ⟨call, stage⟩ := c
    refine ⟨i, ?_⟩
    cases stage with
    | called => exact goesOn_called hi
    | settingUp n | takingDown n => exact goesOn_of_holds hi (beq_self_eq_true n)
    | waiting n =>
        obtain ⟨hcall, _, _, _, _, hregistered, _⟩ := (consistent events).waiting i call n hi
        obtain ⟨_, _, _, d, hd, _⟩ := (consistent events).exists_life (.inl hregistered)
        exact goesOn_waiting hi hcall (hfree n) hd
    | leaving n r => exact goesOn_leaving hi
    | returned r => exact absurd rfl hc

/-- **Calls can always be run to completion.** -/
theorem exists_completion (events : List (Event δ)) :
    ∃ steps : List Nat, ∀ (i : Nat) c,
      (run (events ++ steps.map .advance)).calls[i]? = some c → ∃ r, c.stage = .returned r := by
  generalize hn : stepsLeft (run events).calls = n
  induction n using Nat.strong_induction_on generalizing events with
  | _ n ih =>
      by_cases hdone : ∀ (i : Nat) c, (run events).calls[i]? = some c → ∃ r, c.stage = .returned r
      · exact ⟨[], by simpa using hdone⟩
      · push Not at hdone
        obtain ⟨i, c, hi, hc⟩ := hdone
        have hopen : c.stage.remaining ≠ 0 := by
          intro hzero
          obtain ⟨r, hr⟩ := CallStage.remaining_eq_zero.mp hzero
          exact hc r hr
        obtain ⟨j, hj⟩ := exists_goesOn hi hopen
        have hlt : stepsLeft (run (events ++ [.advance j])).calls < n := by
          rw [run_concat, ← hn]
          exact hj.stepsLeft_lt
        obtain ⟨steps, hsteps⟩ := ih _ hlt (events ++ [.advance j]) rfl
        exact ⟨j :: steps, by simpa using hsteps⟩

end DeviceCalls

end TunnelMesh
