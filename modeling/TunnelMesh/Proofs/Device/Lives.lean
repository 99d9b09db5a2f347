/-
The life of a device among calls that run at the same time.

A device is registered by one start.  It is set up, and then it fails or runs; one
stop may take it down.  `Life` says which calls are busy with a device at each point,
what state it is in and whether its name leads to it.  A step of a call moves the life
of one device at most, and leaves all others as they are, because the call has begun
nothing with them.
-/
import TunnelMesh.Proofs.Device.Moves
import Mathlib.Data.List.Induction

namespace TunnelMesh.DeviceCalls

variable {δ : Type} [TunnelDevice δ]

/-! ### Histories -/

/-- The state after events, one after the other. -/
def run (events : List (Event δ)) : DeviceCalls δ := events.foldl step empty

/-- In the course of events a call comes to a stage. -/
def Reached (events : List (Event δ)) (i : Nat) (stage : CallStage) : Prop :=
  ∃ before call, before <+: events ∧ (run before).calls[i]? = some ⟨call, stage⟩

/-- A call registered a device. -/
def Registered (events : List (Event δ)) (i n : Nat) : Prop := Reached events i (.settingUp n)

/-- A call has taken it upon itself to take a device down. -/
def TakesDown (events : List (Event δ)) (i n : Nat) : Prop := Reached events i (.takingDown n)

/-- A device was registered under a name. -/
def Named (events : List (Event δ)) (n : Nat) (name : String) : Prop :=
  ∃ i device config stage, Registered events i n ∧
    (run events).calls[i]? = some ⟨.start device config, stage⟩ ∧ TunnelDevice.name device = name

theorem run_concat (events : List (Event δ)) (e : Event δ) :
    run (events ++ [e]) = (run events).step e := by
  rw [run, List.foldl_append]
  rfl

theorem reached_now {events : List (Event δ)} {i : Nat} {call : DeviceCall δ} {stage : CallStage}
    (h : (run events).calls[i]? = some ⟨call, stage⟩) : Reached events i stage :=
  ⟨events, call, List.prefix_refl _, h⟩

theorem reached_concat {events : List (Event δ)} {e : Event δ} {i : Nat} {stage : CallStage} :
    Reached (events ++ [e]) i stage ↔
      Reached events i stage ∨ ∃ call, ((run events).step e).calls[i]? = some ⟨call, stage⟩ := by
  rw [← run_concat]
  constructor
  · rintro ⟨before, call, hbefore, h⟩
    rcases List.prefix_concat_iff.mp hbefore with rfl | hbefore
    · exact .inr ⟨call, h⟩
    · exact .inl ⟨before, call, hbefore, h⟩
  · rintro (⟨before, call, hbefore, h⟩ | ⟨call, h⟩)
    · exact ⟨before, call, hbefore.trans (List.prefix_append _ _), h⟩
    · exact reached_now h

/-! ### Lives -/

/-- How far a device has come that call `i` started; `stops` are the calls that take it down. -/
inductive Life (s : DeviceCalls δ) (stops : Nat → Prop) (i n : Nat) (device : δ)
    (config : InterfaceConfig) : ManagedDevice δ → Prop where
  | settingUp (hcall : s.calls[i]? = some ⟨.start device config, .settingUp n⟩)
      (hstops : ∀ j, ¬stops j) (hlisted : s.Listed n (TunnelDevice.name device)) :
      Life s stops i n device config (.fresh device)
  | failing {e : AgentError} {d : ManagedDevice δ}
      (hcall : s.calls[i]? = some ⟨.start device config, .leaving n (.error e)⟩)
      (hstops : ∀ j, ¬stops j) (hlisted : s.Listed n (TunnelDevice.name device))
      (hstart : (ManagedDevice.fresh device).start config = (.error e, d)) :
      Life s stops i n device config d
  | failed {e : AgentError} {d : ManagedDevice δ}
      (hcall : s.calls[i]? = some ⟨.start device config, .returned (.error e)⟩)
      (hstops : ∀ j, ¬stops j) (hgone : s.Unlisted n)
      (hstart : (ManagedDevice.fresh device).start config = (.error e, d)) :
      Life s stops i n device config d
  | running {v : CallValue} {d : ManagedDevice δ}
      (hcall : s.calls[i]? = some ⟨.start device config, .returned (.ok v)⟩)
      (hstops : ∀ j, ¬stops j) (hlisted : s.Listed n (TunnelDevice.name device))
      (hstate : d.state = .running) : Life s stops i n device config d
  | closing {v : CallValue} {j : Nat} {d : ManagedDevice δ}
      (hcall : s.calls[i]? = some ⟨.start device config, .returned (.ok v)⟩)
      (hstops : ∀ k, stops k ↔ k = j)
      (hstop : s.calls[j]? = some ⟨.stop (TunnelDevice.name device), .takingDown n⟩)
      (hlisted : s.Listed n (TunnelDevice.name device)) (hstate : d.state = .stopping) :
      Life s stops i n device config d
  | leaving {v : CallValue} {j : Nat} {r : Except AgentError CallValue} {d : ManagedDevice δ}
      (hcall : s.calls[i]? = some ⟨.start device config, .returned (.ok v)⟩)
      (hstops : ∀ k, stops k ↔ k = j)
      (hstop : s.calls[j]? = some ⟨.stop (TunnelDevice.name device), .leaving n r⟩)
      (hlisted : s.Listed n (TunnelDevice.name device)) (hstate : d.state = .stopped) :
      Life s stops i n device config d
  | gone {v : CallValue} {j : Nat} {r : Except AgentError CallValue} {d : ManagedDevice δ}
      (hcall : s.calls[i]? = some ⟨.start device config, .returned (.ok v)⟩)
      (hstops : ∀ k, stops k ↔ k = j)
      (hstop : s.calls[j]? = some ⟨.stop (TunnelDevice.name device), .returned r⟩)
      (hgone : s.Unlisted n) (hstate : d.state = .stopped) : Life s stops i n device config d

namespace Life

variable {s s' : DeviceCalls δ} {stops stops' : Nat → Prop} {i n : Nat} {device : δ}
  {config : InterfaceConfig} {d : ManagedDevice δ}

/-- **A life goes on as it is** while the calls that are or were busy with the device and the names
that lead to it stay. -/
theorem frame (h : Life s stops i n device config d)
    (hcalls : ∀ (j : Nat) (c : PendingCall δ), s.calls[j]? = some c → c.stage.Concerns n →
      s'.calls[j]? = some c)
    (hnames : ∀ x : String, s'.names[x]? = some n ↔ s.names[x]? = some n)
    (hstops' : ∀ j, stops' j ↔ stops j) : Life s' stops' i n device config d := by
  have hlist : ∀ name, s.Listed n name → s'.Listed n name :=
    fun name hlisted x => (hnames x).trans (hlisted x)
  have hunlist : s.Unlisted n → s'.Unlisted n := fun hgone x hx => hgone x ((hnames x).mp hx)
  have hnone : (∀ j, ¬stops j) → ∀ j, ¬stops' j := fun hstops j hj => hstops j ((hstops' j).mp hj)
  have hone : ∀ j, (∀ k, stops k ↔ k = j) → ∀ k, stops' k ↔ k = j :=
    fun j hstops k => (hstops' k).trans (hstops k)
  cases h with
  | settingUp hcall hstops hlisted =>
      exact .settingUp (hcalls _ _ hcall rfl) (hnone hstops) (hlist _ hlisted)
  | failing hcall hstops hlisted hstart =>
      exact .failing (hcalls _ _ hcall rfl) (hnone hstops) (hlist _ hlisted) hstart
  | failed hcall hstops hgone hstart =>
      exact .failed (hcalls _ _ hcall trivial) (hnone hstops) (hunlist hgone) hstart
  | running hcall hstops hlisted hstate =>
      exact .running (hcalls _ _ hcall trivial) (hnone hstops) (hlist _ hlisted) hstate
  | closing hcall hstops hstop hlisted hstate =>
      exact .closing (hcalls _ _ hcall trivial) (hone _ hstops) (hcalls _ _ hstop rfl)
        (hlist _ hlisted) hstate
  | leaving hcall hstops hstop hlisted hstate =>
      exact .leaving (hcalls _ _ hcall trivial) (hone _ hstops) (hcalls _ _ hstop rfl)
        (hlist _ hlisted) hstate
  | gone hcall hstops hstop hgone hstate =>
      exact .gone (hcalls _ _ hcall trivial) (hone _ hstops) (hcalls _ _ hstop trivial)
        (hunlist hgone) hstate

theorem exists_call (h : Life s stops i n device config d) :
    ∃ stage, s.calls[i]? = some ⟨.start device config, stage⟩ := by
  cases h with
  | settingUp hcall | failing hcall | failed hcall | running hcall | closing hcall
  | leaving hcall | gone hcall => exact ⟨_, hcall⟩

/-- A name that leads to a device is the one that it was registered under. -/
theorem name_eq (h : Life s stops i n device config d) {x : String} (hx : s.names[x]? = some n) :
    TunnelDevice.name device = x := by
  cases h with
  | settingUp _ _ hlisted | failing _ _ hlisted | running _ _ hlisted | closing _ _ _ hlisted
  | leaving _ _ _ hlisted => exact ((hlisted x).mp hx).symm
  | failed _ _ hgone | gone _ _ _ hgone => exact absurd hx (hgone x)

end Life

/-! ### Consistent histories -/

/-- Every device has its life, and every call is busy with a device that it may be busy with. -/
structure Consistent (events : List (Event δ)) : Prop where
  lives : ∀ (n : Nat) d, (run events).devices[n]? = some d →
    ∃ i device config, (∀ j, Registered events j n ↔ j = i) ∧
      Life (run events) (TakesDown events · n) i n device config d
  range : ∀ i n : Nat, Registered events i n ∨ TakesDown events i n →
    n < (run events).devices.length
  listed : ∀ (x : String) n, (run events).names[x]? = some n → n < (run events).devices.length
  waiting : ∀ (i : Nat) (call : DeviceCall δ) n, (run events).calls[i]? = some ⟨call, .waiting n⟩ →
    ¬call.IsStart ∧ Named events n call.name
  leaving : ∀ (i : Nat) (call : DeviceCall δ) n r,
    (run events).calls[i]? = some ⟨call, .leaving n r⟩ → Registered events i n ∨ TakesDown events i n

theorem Consistent.named {events : List (Event δ)} (h : Consistent events) {x : String} {n : Nat}
    (hx : (run events).names[x]? = some n) : Named events n x := by
  obtain ⟨i, device, config, hi, hlife⟩ :=
    h.lives n _ (List.getElem?_eq_getElem (h.listed x n hx))
  obtain ⟨stage, hcall⟩ := hlife.exists_call
  exact ⟨i, device, config, stage, (hi i).mpr rfl, hcall, hlife.name_eq hx⟩

namespace Shift

variable {events : List (Event δ)} {e : Event δ} {i n₀ : Nat} {call : DeviceCall δ}
  {a b : CallStage}

theorem reached (h : Shift (run events) ((run events).step e) i call a b n₀) {j : Nat}
    {stage : CallStage} :
    Reached (events ++ [e]) j stage ↔ Reached events j stage ∨ j = i ∧ stage = b := by
  rw [reached_concat]
  constructor
  · rintro (hreached | ⟨call', hcall⟩)
    · exact .inl hreached
    · by_cases hj : j = i
      · subst hj
        cases h.after.symm.trans hcall
        exact .inr ⟨rfl, rfl⟩
      · rw [h.others j hj] at hcall
        exact .inl (reached_now hcall)
  · rintro (hreached | ⟨rfl, rfl⟩)
    · exact .inl hreached
    · exact .inr ⟨call, h.after⟩

theorem registered_of_ne (h : Shift (run events) ((run events).step e) i call a b n₀) {j n : Nat}
    (hn : n ≠ n₀) : Registered (events ++ [e]) j n ↔ Registered events j n := by
  rw [Registered, Registered, h.reached]
  exact or_iff_left fun hb => (h.begins n hn).1 hb.2.symm

theorem takesDown_of_ne (h : Shift (run events) ((run events).step e) i call a b n₀) {j n : Nat}
    (hn : n ≠ n₀) : TakesDown (events ++ [e]) j n ↔ TakesDown events j n := by
  rw [TakesDown, TakesDown, h.reached]
  exact or_iff_left fun hb => (h.begins n hn).2 hb.2.symm

theorem exists_call (h : Shift (run events) ((run events).step e) i call a b n₀) {j : Nat}
    {call' : DeviceCall δ} {stage : CallStage}
    (hj : (run events).calls[j]? = some ⟨call', stage⟩) :
    ∃ stage', ((run events).step e).calls[j]? = some ⟨call', stage'⟩ := by
  by_cases hji : j = i
  · subst hji
    cases h.before.symm.trans hj
    exact ⟨b, h.after⟩
  · exact ⟨stage, (h.others j hji).trans hj⟩

theorem named (h : Shift (run events) ((run events).step e) i call a b n₀) {n : Nat} {x : String}
    (hn : Named events n x) : Named (events ++ [e]) n x := by
  obtain ⟨j, device, config, stage, hregistered, hcall, hname⟩ := hn
  obtain ⟨stage', hcall'⟩ := h.exists_call hcall
  rw [← run_concat] at hcall'
  exact ⟨j, device, config, stage', h.reached.mpr (.inl hregistered), hcall', hname⟩

/-- The lives of all other devices go on. -/
theorem life (h : Shift (run events) ((run events).step e) i call a b n₀) {n k : Nat} (hn : n ≠ n₀)
    {device : δ} {config : InterfaceConfig} {d : ManagedDevice δ}
    (hlife : Life (run events) (TakesDown events · n) k n device config d) :
    Life ((run events).step e) (TakesDown (events ++ [e]) · n) k n device config d := by
  refine hlife.frame ?_ (h.names n hn) fun j => h.takesDown_of_ne hn
  intro j c hj hconcerns
  by_cases hji : j = i
  · subst hji
    cases h.before.symm.trans hj
    exact absurd hconcerns (h.begun n hn)
  · exact (h.others j hji).trans hj

end Shift

/-- **A step keeps a history consistent** if it gives a life to the device that has a part in it. -/
theorem Consistent.shift {events : List (Event δ)} {e : Event δ} {i n₀ : Nat} {call : DeviceCall δ}
    {a b : CallStage} (h : Consistent events)
    (hs : Shift (run events) ((run events).step e) i call a b n₀)
    (hlength : (run events).devices.length ≤ ((run events).step e).devices.length)
    (hn₀ : b = .settingUp n₀ ∨ b = .takingDown n₀ ∨
      (∃ x : String, ((run events).step e).names[x]? = some n₀) → n₀ < ((run events).step e).devices.length)
    (hlife : ∀ d, ((run events).step e).devices[n₀]? = some d →
      ∃ k device config, (∀ j, Registered (events ++ [e]) j n₀ ↔ j = k) ∧
        Life ((run events).step e) (TakesDown (events ++ [e]) · n₀) k n₀ device config d)
    (hwaiting : ∀ n, b = .waiting n → ¬call.IsStart ∧ Named events n call.name)
    (hleaving : ∀ n r, b = .leaving n r → Registered events i n ∨ TakesDown events i n) :
    Consistent (events ++ [e]) where
  lives := by
    intro n d hd
    rw [run_concat] at hd ⊢
    by_cases hn : n = n₀
    · subst hn
      exact hlife d hd
    · rw [hs.devices n hn] at hd
      obtain ⟨k, device, config, hregistered, hlife⟩ := h.lives n d hd
      exact ⟨k, device, config, fun j => (hs.registered_of_ne hn).trans (hregistered j),
        hs.life hn hlife⟩
  range := by
    intro j n hj
    rw [run_concat]
    by_cases hn : n = n₀
    · subst hn
      rw [Registered, TakesDown, hs.reached, hs.reached] at hj
      rcases hj with (hj | ⟨-, hb⟩) | hj | ⟨-, hb⟩
      · exact Nat.lt_of_lt_of_le (h.range j n (.inl hj)) hlength
      · exact hn₀ (.inl hb.symm)
      · exact Nat.lt_of_lt_of_le (h.range j n (.inr hj)) hlength
      · exact hn₀ (.inr (.inl hb.symm))
    · rw [hs.registered_of_ne hn, hs.takesDown_of_ne hn] at hj
      exact Nat.lt_of_lt_of_le (h.range j n hj) hlength
  listed := by
    intro x n hx
    rw [run_concat] at hx ⊢
    by_cases hn : n = n₀
    · subst hn
      exact hn₀ (.inr (.inr ⟨x, hx⟩))
    · exact Nat.lt_of_lt_of_le (h.listed x n ((hs.names n hn x).mp hx)) hlength
  waiting := by
    intro j call' n hj
    rw [run_concat] at hj
    by_cases hji : j = i
    · subst hji
      cases hs.after.symm.trans hj
      obtain ⟨hcall, hnamed⟩ := hwaiting n rfl
      exact ⟨hcall, hs.named hnamed⟩
    · rw [hs.others j hji] at hj
      obtain ⟨hcall, hnamed⟩ := h.waiting j call' n hj
      exact ⟨hcall, hs.named hnamed⟩
  leaving := by
    intro j call' n r hj
    rw [run_concat] at hj
    rw [Registered, TakesDown, hs.reached, hs.reached]
    by_cases hji : j = i
    · subst hji
      cases hs.after.symm.trans hj
      exact (hleaving n r rfl).imp .inl .inl
    · rw [hs.others j hji] at hj
      exact (h.leaving j call' n r hj).imp .inl .inl

/-! ### Events -/

/-- A step that only adds calls which have not begun keeps a history consistent. -/
theorem Consistent.extend {events : List (Event δ)} {e : Event δ} (h : Consistent events)
    (hdevices : ((run events).step e).devices = (run events).devices)
    (hnames : ((run events).step e).names = (run events).names)
    (hold : ∀ (j : Nat) c, (run events).calls[j]? = some c →
      ((run events).step e).calls[j]? = some c)
    (hnew : ∀ (j : Nat) c, ((run events).step e).calls[j]? = some c →
      (run events).calls[j]? = some c ∨ c.stage = .called) : Consistent (events ++ [e]) := by
  have hreached : ∀ j stage, stage ≠ .called →
      (Reached (events ++ [e]) j stage ↔ Reached events j stage) := by
    intro j stage hstage
    rw [reached_concat]
    refine or_iff_left_of_imp ?_
    rintro ⟨call, hj⟩
    rcases hnew j _ hj with hj | hj
    · exact reached_now hj
    · exact absurd hj hstage
  have hregistered : ∀ j n, Registered (events ++ [e]) j n ↔ Registered events j n :=
    fun j n => hreached j _ (by simp)
  have htakes : ∀ j n, TakesDown (events ++ [e]) j n ↔ TakesDown events j n :=
    fun j n => hreached j _ (by simp)
  refine ⟨?_, ?_, ?_, ?_, ?_⟩
  · intro n d hd
    rw [run_concat, hdevices] at hd
    obtain ⟨i, device, config, hi, hlife⟩ := h.lives n d hd
    refine ⟨i, device, config, fun j => (hregistered j n).trans (hi j), ?_⟩
    rw [run_concat]
    exact hlife.frame (fun j c hj _ => hold j c hj) (fun x => by rw [hnames]) fun j => htakes j n
  · intro i n hi
    rw [hregistered, htakes] at hi
    rw [run_concat, hdevices]
    exact h.range i n hi
  · intro x n hx
    rw [run_concat, hnames] at hx
    rw [run_concat, hdevices]
    exact h.listed x n hx
  · intro i call n hi
    rw [run_concat] at hi
    rcases hnew i _ hi with hi | hi
    · obtain ⟨hcall, j, device, config, stage, hj, hstart, hname⟩ := h.waiting i call n hi
      refine ⟨hcall, j, device, config, stage, (hregistered j n).mpr hj, ?_, hname⟩
      rw [run_concat]
      exact hold j _ hstart
    · cases hi
  · intro i call n r hi
    rw [hregistered, htakes]
    rw [run_concat] at hi
    rcases hnew i _ hi with hi | hi
    · exact h.leaving i call n r hi
    · cases hi

theorem Consistent.call {events : List (Event δ)} (h : Consistent events) (c : DeviceCall δ) :
    Consistent (events ++ [.call c]) := by
  refine h.extend rfl rfl ?_ ?_
  · intro j c' hj
    obtain ⟨hlt, -⟩ := List.getElem?_eq_some_iff.mp hj
    exact (List.getElem?_append_left hlt).trans hj
  · intro j c' hj
    have hj' : ((run events).calls ++ [⟨c, .called⟩])[j]? = some c' := hj
    by_cases hlt : j < (run events).calls.length
    · rw [List.getElem?_append_left hlt] at hj'
      exact .inl hj'
    · right
      rw [List.getElem?_append_right (by omega), List.getElem?_singleton] at hj'
      split at hj'
      · cases hj'
        rfl
      · cases hj'

section Advance

variable {events : List (Event δ)} {i : Nat} {call : DeviceCall δ} {a b : CallStage}

/-- A call moves on and no device has a part in it. -/
theorem Consistent.moveOn {e : Event δ} (h : Consistent events)
    (hi : (run events).calls[i]? = some ⟨call, a⟩) (ha : ∀ n, ¬a.Concerns n)
    (hb : ∀ n, b ≠ .settingUp n ∧ b ≠ .takingDown n)
    (hstep : (run events).step e = (run events).moveOn i b)
    (hwaiting : ∀ n, b = .waiting n → ¬call.IsStart ∧ Named events n call.name)
    (hleaving : ∀ n r, b ≠ .leaving n r) : Consistent (events ++ [e]) := by
  have hs : Shift (run events) ((run events).step e) i call a b (run events).devices.length := by
    rw [hstep]
    exact .moveOn hi ha hb _
  refine h.shift hs ?_ ?_ ?_ hwaiting fun n r hr => absurd hr (hleaving n r)
  · rw [hstep]
    exact Nat.le_refl _
  · rintro (hb' | hb' | ⟨x, hx⟩)
    · exact absurd hb' (hb _).1
    · exact absurd hb' (hb _).2
    · rw [hstep] at hx ⊢
      exact h.listed x _ hx
  · intro d hd
    rw [hstep] at hd
    have hnone : (run events).devices[(run events).devices.length]? = none :=
      List.getElem?_eq_none (Nat.le_refl _)
    exact absurd (hnone.symm.trans hd) (by simp)

/-- A call moves on and changes a device, which goes on to another point of its life. -/
theorem Consistent.put {e : Event δ} {n : Nat} {d d' : ManagedDevice δ} (h : Consistent events)
    (hi : (run events).calls[i]? = some ⟨call, a⟩) (hd : (run events).devices[n]? = some d)
    (hstep : (run events).step e = ((run events).put n d').moveOn i b)
    (ha : ∀ m, m ≠ n → ¬a.Concerns m) (hb : ∀ m, m ≠ n → b ≠ .takingDown m)
    (hnew : ∀ m, b ≠ .settingUp m ∧ b ≠ .waiting m)
    (hleaving : ∀ m r, b = .leaving m r → Registered events i m ∨ TakesDown events i m)
    (hlife : ∀ k device config, (∀ j, Registered events j n ↔ j = k) →
      Life (run events) (TakesDown events · n) k n device config d →
        Life (((run events).put n d').moveOn i b)
          (fun j => TakesDown events j n ∨ j = i ∧ b = .takingDown n) k n device config d') :
    Consistent (events ++ [e]) := by
  have hs : Shift (run events) ((run events).step e) i call a b n := by
    rw [hstep]
    exact .put hi ha (fun m hm => ⟨(hnew m).1, hb m hm⟩) d'
  have hlength : ((run events).step e).devices.length = (run events).devices.length := by
    rw [hstep]
    exact List.length_set
  obtain ⟨hn, -⟩ := List.getElem?_eq_some_iff.mp hd
  refine h.shift hs (Nat.le_of_eq hlength.symm) (fun _ => hlength.symm ▸ hn) ?_
    (fun m hm => absurd hm (hnew m).2) hleaving
  intro d'' hd''
  have hput : ((run events).step e).devices[n]? = some d' := by
    rw [hstep]
    exact devices_put_self hd d'
  cases hput.symm.trans hd''
  obtain ⟨k, device, config, hk, hold⟩ := h.lives n d hd
  refine ⟨k, device, config, ?_, ?_⟩
  · intro j
    rw [← hk j, Registered, Registered, hs.reached]
    exact or_iff_left fun hb' => (hnew n).1 hb'.2.symm
  · rw [hstep]
    refine (hlife k device config hk hold).frame (fun _ _ hj _ => hj) (fun _ => Iff.rfl) ?_
    intro j
    rw [TakesDown, hs.reached]
    exact or_congr_right (and_congr_right fun _ => eq_comm)

/-! ### Moves -/

theorem Consistent.run_move {device : δ} {config : InterfaceConfig} {n : Nat}
    {d d' : ManagedDevice δ} (h : Consistent events)
    (hi : (run events).calls[i]? = some ⟨.start device config, .settingUp n⟩)
    (hd : (run events).devices[n]? = some d) (hstart : d.start config = (.ok (), d')) {e : Event δ}
    (hstep : (run events).step e = ((run events).put n d').moveOn i (.returned (.ok .done))) :
    Consistent (events ++ [e]) := by
  refine h.put hi hd hstep (fun m hm hc => hm hc.symm) (by simp) (by simp) (by simp) ?_
  intro k device' config' hk hlife
  obtain rfl := (hk i).mp (reached_now hi)
  cases hlife with
  | settingUp hcall hstops hlisted =>
      cases hcall.symm.trans hi
      refine .running (calls_moveOn_self hi _) ?_ hlisted ?_
      · simpa using hstops
      · rw [(ManagedDevice.start_eq_ok hstart).2]
  | failing hcall | failed hcall | running hcall | closing hcall | leaving hcall | gone hcall =>
      cases hcall.symm.trans hi

theorem Consistent.fail_move {device : δ} {config : InterfaceConfig} {n : Nat}
    {d d' : ManagedDevice δ} {err : AgentError} {e : Event δ} (h : Consistent events)
    (hi : (run events).calls[i]? = some ⟨.start device config, .settingUp n⟩)
    (hd : (run events).devices[n]? = some d) (hstart : d.start config = (.error err, d'))
    (hstep : (run events).step e = ((run events).put n d').moveOn i (.leaving n (.error err))) :
    Consistent (events ++ [e]) := by
  refine h.put hi hd hstep (fun m hm hc => hm hc.symm) (by simp) (by simp) ?_ ?_
  · intro m r hb
    cases hb
    exact .inl (reached_now hi)
  · intro k device' config' hk hlife
    obtain rfl := (hk i).mp (reached_now hi)
    cases hlife with
    | settingUp hcall hstops hlisted =>
        cases hcall.symm.trans hi
        refine .failing (calls_moveOn_self hi _) ?_ hlisted hstart
        simpa using hstops
    | failing hcall | failed hcall | running hcall | closing hcall | leaving hcall | gone hcall =>
        cases hcall.symm.trans hi

/-- A device that runs has been set up, and no call takes it down. -/
theorem Life.of_running {s : DeviceCalls δ} {stops : Nat → Prop} {n : Nat} {device : δ}
    {config : InterfaceConfig} {d : ManagedDevice δ} (h : Life s stops i n device config d)
    (hstate : d.state = .running) :
    (∃ v, s.calls[i]? = some ⟨.start device config, .returned (.ok v)⟩) ∧ (∀ j, ¬stops j) ∧
      s.Listed n (TunnelDevice.name device) := by
  cases h with
  | settingUp => cases hstate
  | failing _ _ _ hstart | failed _ _ _ hstart =>
      rw [ManagedDevice.state_of_start_eq_error hstart] at hstate
      cases hstate
  | running hcall hstops hlisted => exact ⟨⟨_, hcall⟩, hstops, hlisted⟩
  | closing _ _ _ _ hstate' | leaving _ _ _ _ hstate' | gone _ _ _ _ hstate' =>
      cases hstate.symm.trans hstate'

theorem Consistent.update_move {name : String} {desired reachable : List PeerConfig} {n : Nat}
    {d : ManagedDevice δ} {r : Except AgentError CallValue} (h : Consistent events)
    (hi : (run events).calls[i]? = some ⟨.update name desired reachable, .waiting n⟩)
    (hd : (run events).devices[n]? = some d) (hstate : d.state = .running) {e : Event δ}
    (hstep : (run events).step e = ((run events).put n
      (d.reach (.ofLists desired reachable)).2).moveOn i (.returned r)) :
    Consistent (events ++ [e]) := by
  refine h.put hi hd hstep (fun _ _ => id) (by simp) (by simp) (by simp) ?_
  intro k device config _ hlife
  obtain ⟨⟨v, hcall⟩, hstops, hlisted⟩ := hlife.of_running hstate
  have hki : k ≠ i := by
    rintro rfl
    cases hcall.symm.trans hi
  refine .running ((calls_moveOn_of_ne ((run events).put n _) hki _).trans hcall) ?_ hlisted ?_
  · simpa using hstops
  · rw [ManagedDevice.state_reach, hstate]

theorem Consistent.claim_move {name : String} {n : Nat} {d : ManagedDevice δ}
    (h : Consistent events) (hi : (run events).calls[i]? = some ⟨.stop name, .waiting n⟩)
    (hd : (run events).devices[n]? = some d) (hstate : d.state = .running) {e : Event δ}
    (hstep : (run events).step e =
      ((run events).put n { d with state := .stopping }).moveOn i (.takingDown n)) :
    Consistent (events ++ [e]) := by
  refine h.put hi hd hstep (fun _ _ => id) (fun m hm hb => ?_) (by simp) (by simp) ?_
  · cases hb
    exact hm rfl
  · intro k device config hk hlife
    obtain ⟨⟨v, hcall⟩, hstops, hlisted⟩ := hlife.of_running hstate
    have hki : k ≠ i := by
      rintro rfl
      cases hcall.symm.trans hi
    -- The name that led to the device is the one that it was registered under.
    have hname : TunnelDevice.name device = name := by
      obtain ⟨-, j, device', config', stage, hj, hstart, hname⟩ := h.waiting i _ n hi
      obtain rfl := (hk j).mp hj
      cases hcall.symm.trans hstart
      exact hname
    refine .closing ((calls_moveOn_of_ne ((run events).put n _) hki _).trans hcall) ?_
      (hname ▸ calls_moveOn_self hi _) hlisted rfl
    intro j
    simp [hstops j]

theorem Consistent.close_move {n : Nat} {d : ManagedDevice δ} {r : Except AgentError CallValue}
    (h : Consistent events) (hi : (run events).calls[i]? = some ⟨call, .takingDown n⟩)
    (hd : (run events).devices[n]? = some d) {e : Event δ}
    (hstep : (run events).step e = ((run events).put n d.takeDown.2).moveOn i (.leaving n r)) :
    Consistent (events ++ [e]) := by
  have htakes : TakesDown events i n := reached_now hi
  refine h.put hi hd hstep (fun m hm hc => hm hc.symm) (by simp) (by simp) ?_ ?_
  · intro m r' hb
    cases hb
    exact .inr htakes
  · intro k device config _ hlife
    cases hlife with
    | settingUp _ hstops | failing _ hstops | failed _ hstops | running _ hstops =>
        exact absurd htakes (hstops i)
    | closing hcall hstops hstop hlisted =>
        obtain rfl := (hstops i).mp htakes
        cases hstop.symm.trans hi
        have hki : k ≠ i := by
          rintro rfl
          cases hcall.symm.trans hi
        refine .leaving ((calls_moveOn_of_ne ((run events).put n _) hki _).trans hcall) ?_
          (calls_moveOn_self hi _) hlisted rfl
        simpa using hstops
    | leaving _ hstops hstop | gone _ hstops hstop =>
        obtain rfl := (hstops i).mp htakes
        cases hstop.symm.trans hi

/-- A call that leaves a device is the start that could not set it up or the stop that took it down.
The name of the call leads to the device, and nothing is left to do but to take it out. -/
theorem Life.of_leaving {s : DeviceCalls δ} {stops : Nat → Prop} {k n : Nat} {device : δ}
    {config : InterfaceConfig} {d : ManagedDevice δ} {r : Except AgentError CallValue}
    (h : Life s stops k n device config d) (hi : s.calls[i]? = some ⟨call, .leaving n r⟩)
    (hbusy : i = k ∨ stops i) :
    s.Listed n call.name ∧
      ∀ s' : DeviceCalls δ, s'.Unlisted n → s'.calls[i]? = some ⟨call, .returned r⟩ →
        (∀ j, j ≠ i → s'.calls[j]? = s.calls[j]?) → Life s' stops k n device config d := by
  cases h with
  | settingUp hcall hstops | failed hcall hstops | running hcall hstops =>
      obtain rfl := hbusy.resolve_right (hstops i)
      cases hcall.symm.trans hi
  | failing hcall hstops hlisted hstart =>
      obtain rfl := hbusy.resolve_right (hstops i)
      cases hcall.symm.trans hi
      exact ⟨hlisted, fun s' hgone hi' _ => .failed hi' hstops hgone hstart⟩
  | closing hcall hstops hstop | gone hcall hstops hstop =>
      rcases hbusy with rfl | hbusy
      · cases hcall.symm.trans hi
      · obtain rfl := (hstops i).mp hbusy
        cases hstop.symm.trans hi
  | leaving hcall hstops hstop hlisted hstate =>
      rcases hbusy with rfl | hbusy
      · cases hcall.symm.trans hi
      · obtain rfl := (hstops i).mp hbusy
        cases hstop.symm.trans hi
        have hki : k ≠ i := by
          rintro rfl
          cases hcall.symm.trans hi
        refine ⟨hlisted, ?_⟩
        intro s' hgone hi' hothers
        exact .gone ((hothers k hki).trans hcall) hstops hi' hgone hstate

/-- The life of a device that a call leaves. -/
theorem Consistent.exists_left {n : Nat} {r : Except AgentError CallValue} (h : Consistent events)
    (hi : (run events).calls[i]? = some ⟨call, .leaving n r⟩) :
    ∃ k device config d, (run events).devices[n]? = some d ∧
      (∀ j, Registered events j n ↔ j = k) ∧ (i = k ∨ TakesDown events i n) ∧
      Life (run events) (TakesDown events · n) k n device config d := by
  have hbusy := h.leaving i call n r hi
  obtain ⟨k, device, config, hk, hlife⟩ :=
    h.lives n _ (List.getElem?_eq_getElem (h.range i n hbusy))
  rw [hk i] at hbusy
  exact ⟨k, device, config, _, List.getElem?_eq_getElem _, hk, hbusy, hlife⟩

theorem Consistent.leave_move {n : Nat} {r : Except AgentError CallValue} (h : Consistent events)
    (hi : (run events).calls[i]? = some ⟨call, .leaving n r⟩) {e : Event δ}
    (hstep : (run events).step e = (run events).leave i call.name r) :
    Consistent (events ++ [e]) := by
  obtain ⟨k, device, config, d, hd, hk, hbusy, hlife⟩ := h.exists_left hi
  obtain ⟨hlisted, hgone⟩ := hlife.of_leaving hi hbusy
  obtain ⟨hs, hunlisted⟩ := Shift.leave hi hlisted
  have hlife' := hgone _ hunlisted hs.after hs.others
  rw [← hstep] at hs hunlisted hlife'
  refine h.shift hs ?_ ?_ ?_ (by simp) (by simp)
  · rw [hstep]
    exact Nat.le_refl _
  · rintro (hb | hb | ⟨x, hx⟩)
    · cases hb
    · cases hb
    · exact absurd hx (hunlisted x)
  · intro d' hd'
    have hsame : ((run events).step e).devices = (run events).devices := by
      rw [hstep]
      rfl
    rw [hsame] at hd'
    cases hd.symm.trans hd'
    refine ⟨k, device, config, ?_, ?_⟩
    · intro j
      rw [← hk j, Registered, Registered, hs.reached]
      simp
    · refine hlife'.frame (fun _ _ hj _ => hj) (fun _ => Iff.rfl) ?_
      intro j
      rw [TakesDown, TakesDown, hs.reached]
      simp

theorem Consistent.register_move {device : δ} {config : InterfaceConfig} (h : Consistent events)
    (hi : (run events).calls[i]? = some ⟨.start device config, .called⟩)
    (hfree : (run events).names[TunnelDevice.name device]? = none) {e : Event δ}
    (hstep : (run events).step e = (run events).register i device) :
    Consistent (events ++ [e]) := by
  have hs := Shift.register hi hfree
  rw [← hstep] at hs
  have hlength : ((run events).step e).devices.length = (run events).devices.length + 1 := by
    rw [hstep]
    exact List.length_append
  -- Nothing is known of the new number yet.
  have hregistered : ∀ j, ¬Reached events j (.settingUp (run events).devices.length) :=
    fun j hj => Nat.lt_irrefl _ (h.range j _ (.inl hj))
  have htakes : ∀ j, ¬Reached events j (.takingDown (run events).devices.length) :=
    fun j hj => Nat.lt_irrefl _ (h.range j _ (.inr hj))
  refine h.shift hs (by omega) (fun _ => by omega) ?_ (by simp) (by simp)
  intro d hd
  rw [hstep, getElem?_devices_register, if_pos rfl] at hd
  cases hd
  refine ⟨i, device, config, ?_, .settingUp hs.after ?_ ?_⟩
  · intro j
    rw [Registered, hs.reached]
    simp [hregistered j]
  · intro j
    rw [TakesDown, hs.reached]
    simp [htakes j]
  · intro x
    rw [hstep, getElem?_names_register]
    split
    · rename_i hx
      simp [hx]
    · rename_i hx
      exact iff_of_false (fun hx' => Nat.lt_irrefl _ (h.listed x _ hx')) (Ne.symm hx)

/-- **No step breaks a consistent history.** -/
theorem Consistent.advance (h : Consistent events) (i : Nat) :
    Consistent (events ++ [.advance i]) := by
  have hstep : (run events).step (.advance i) = (run events).advance i := rfl
  have hmove := move_advance (run events) i
  generalize (run events).advance i = s' at hstep hmove
  cases hmove with
  | stay =>
      refine h.extend (by rw [hstep]) (by rw [hstep]) ?_ ?_
      · intro j c hj
        rwa [hstep]
      · intro j c hj
        rw [hstep] at hj
        exact .inl hj
  | answer hi hstage => exact h.moveOn hi hstage (by simp) hstep (by simp) (by simp)
  | @find call n hi hcall hname =>
      refine h.moveOn hi not_concerns_called (by simp) hstep ?_ (by simp)
      intro m hm
      cases hm
      exact ⟨hcall, h.named hname⟩
  | register hi hfree => exact h.register_move hi hfree hstep
  | run hi hd hstart => exact h.run_move hi hd hstart hstep
  | fail hi hd hstart => exact h.fail_move hi hd hstart hstep
  | update hi _ hd hstate => exact h.update_move hi hd hstate hstep
  | claim hi _ hd hstate => exact h.claim_move hi hd hstate hstep
  | close hi hd => exact h.close_move hi hd hstep
  | leave hi => exact h.leave_move hi hstep

end Advance

/-- **Every history is consistent.** -/
theorem consistent (events : List (Event δ)) : Consistent events := by
  induction events using List.reverseRecOn with
  | nil =>
      have hnone : ∀ i stage, ¬Reached ([] : List (Event δ)) i stage := by
        rintro i stage ⟨before, call, hbefore, hi⟩
        rw [List.prefix_nil.mp hbefore] at hi
        cases hi
      refine ⟨fun n d hd => ?_, fun i n hi => ?_, fun x n hx => ?_, fun i call n hi => ?_,
        fun i call n r hi => ?_⟩
      · cases hd
      · exact absurd hi (not_or.mpr ⟨hnone i _, hnone i _⟩)
      · have hx' : (∅ : Std.ExtTreeMap String Nat)[x]? = some n := hx
        rw [Std.ExtTreeMap.getElem?_empty] at hx'
        cases hx'
      · cases hi
      · cases hi
  | append_singleton events e ih =>
      cases e with
      | call c => exact ih.call c
      | advance i => exact ih.advance i

end TunnelMesh.DeviceCalls
