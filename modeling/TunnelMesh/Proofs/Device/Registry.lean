/-
The table of devices among calls that run at the same time.

Starts, stops, updates and looks at devices may come in any number and take their
steps in any order.  What a start or a stop does to a device and what it does to the
table of names are different steps, with room for others in between.  Still a name
belongs to one device at a time, calls act on devices that run and on no others, and
what a call takes out of the table is what it put there or took down.  All of it is
read off the life that each device has.
-/
import TunnelMesh.Proofs.Device.Lives

namespace TunnelMesh

variable {δ : Type} [TunnelDevice δ]

/-- A start that fails after the device was created has closed it. -/
theorem ManagedDevice.device_of_start_eq_error {device : δ} {c : InterfaceConfig} {e : AgentError}
    {d : ManagedDevice δ} (h : (fresh device).start c = (.error e, d))
    (hcreate : (TunnelDevice.create device c).1 = .ok ()) :
    d.device = (TunnelDevice.close (setUp (TunnelDevice.create device c).2 c).2).2 := by
  unfold start bringUp fresh at h
  dsimp only at h
  rcases hc : TunnelDevice.create device c with ⟨r, created⟩
  rw [hc] at h hcreate
  cases hcreate
  dsimp only at h ⊢
  rcases hs : setUp created c with ⟨_ | _, up⟩
  · rw [hs] at h
    cases h
    rfl
  · rw [hs] at h
    cases h

/-- Whether a call may change a device that runs. -/
def DeviceCall.Acts : DeviceCall δ → Prop
  | stop _ | update _ _ _ => True
  | _ => False

namespace DeviceCalls

/-- What is kept in order by calls on devices, whatever the order of their steps. -/
structure Orderly (events : List (Event δ)) : Prop where
  /-- A name leads to a device that was registered under it. -/
  named : ∀ (x : String) n, (run events).names[x]? = some n → Named events n x
  /-- A device is registered by one call, under one name. -/
  registered : ∀ n i j : Nat, Registered events i n → Registered events j n → i = j
  /-- Of the devices that were registered under a name, one at most is not stopped. -/
  single : ∀ (x : String) n m d d', Named events n x → Named events m x →
    (run events).devices[n]? = some d → (run events).devices[m]? = some d' →
      d.state ≠ .stopped → d'.state ≠ .stopped → n = m
  /-- A call that finds no device returns an error and changes nothing. -/
  missing : ∀ (i : Nat) call, (run events).calls[i]? = some ⟨call, .called⟩ → ¬call.IsStart →
    (run events).names[call.name]? = none →
      (run events).advance i =
        (run events).moveOn i (.returned (.error (.deviceNotFound call.name)))
  /-- An update or a stop that finds a device which does not run returns an error and changes
  nothing. -/
  refused : ∀ (i : Nat) call n d, (run events).calls[i]? = some ⟨call, .waiting n⟩ →
    call.Acts → (run events).isLocked n = false → (run events).devices[n]? = some d →
      d.state ≠ .running → ∃ operation, (run events).advance i = (run events).moveOn i
        (.returned (.error (.invalidState (TunnelDevice.name d.device) d.state operation)))
  /-- A call that starts no device changes one only if nobody else has it and it runs, or if it is
  the stop that takes it down. -/
  acting : ∀ (i : Nat) call stage n d, (run events).calls[i]? = some ⟨call, stage⟩ →
    ¬call.IsStart → (run events).devices[n]? = some d →
      ((run events).advance i).devices[n]? ≠ some d →
        call.Acts ∧ (stage = .waiting n ∧ (run events).isLocked n = false ∧ d.state = .running ∨
          stage = .takingDown n ∧ d.state = .stopping)
  /-- A start touches no device that another call registered, nor its name. -/
  apart : ∀ (i j n : Nat) device config stage,
    (run events).calls[i]? = some ⟨.start device config, stage⟩ → Registered events j n → j ≠ i →
      ((run events).advance i).devices[n]? = (run events).devices[n]? ∧
        ∀ x : String, ((run events).advance i).names[x]? = some n ↔ (run events).names[x]? = some n
  /-- A start that failed and a stop that took a device down have taken its name out, and the device
  is stopped. -/
  gone : ∀ (i : Nat) call n r, (run events).calls[i]? = some ⟨call, .returned r⟩ →
    (Registered events i n ∧ ∃ e, r = .error e) ∨ TakesDown events i n →
      (run events).Unlisted n ∧
        ∃ d, (run events).devices[n]? = some d ∧ d.state = .stopped
  /-- A start that failed after the device was created has closed it again, and nobody has touched
  it since. -/
  closed : ∀ (i n : Nat) device config e,
    (run events).calls[i]? = some ⟨.start device config, .returned (.error e)⟩ →
      Registered events i n → (TunnelDevice.create device config).1 = .ok () →
        ∃ d, (run events).devices[n]? = some d ∧ d.device =
          (TunnelDevice.close
            (ManagedDevice.setUp (TunnelDevice.create device config).2 config).2).2

/-! ### What lives tell -/

namespace Life

variable {s : DeviceCalls δ} {stops : Nat → Prop} {i k n : Nat} {device : δ}
  {config : InterfaceConfig} {d : ManagedDevice δ}

/-- A call that takes a device down is a stop. -/
theorem exists_stop (h : Life s stops k n device config d) (hi : stops i) :
    ∃ name stage, s.calls[i]? = some ⟨.stop name, stage⟩ := by
  cases h with
  | settingUp _ hstops | failing _ hstops | failed _ hstops | running _ hstops =>
      exact absurd hi (hstops i)
  | closing _ hstops hstop | leaving _ hstops hstop | gone _ hstops hstop =>
      rw [(hstops i).mp hi]
      exact ⟨_, _, hstop⟩

theorem state_of_takingDown {call : DeviceCall δ} (h : Life s stops k n device config d)
    (hi : stops i) (hcall : s.calls[i]? = some ⟨call, .takingDown n⟩) : d.state = .stopping := by
  cases h with
  | settingUp _ hstops | failing _ hstops | failed _ hstops | running _ hstops =>
      exact absurd hi (hstops i)
  | closing _ _ _ _ hstate => exact hstate
  | leaving _ hstops hstop | gone _ hstops hstop =>
      rw [← (hstops i).mp hi] at hstop
      cases hstop.symm.trans hcall

/-- A device that is not stopped is where its name leads to. -/
theorem listed_of_not_stopped (h : Life s stops k n device config d) (hstate : d.state ≠ .stopped) :
    s.Listed n (TunnelDevice.name device) := by
  cases h with
  | settingUp _ _ hlisted | failing _ _ hlisted | running _ _ hlisted | closing _ _ _ hlisted
  | leaving _ _ _ hlisted => exact hlisted
  | failed _ _ _ hstart => exact absurd (ManagedDevice.state_of_start_eq_error hstart) hstate
  | gone _ _ _ _ hstopped => exact absurd hstopped hstate

/-- The call that registered a device and could not set it up has taken its name out. -/
theorem of_failed {call : DeviceCall δ} {e : AgentError} (h : Life s stops k n device config d)
    (hk : s.calls[k]? = some ⟨call, .returned (.error e)⟩) :
    s.Unlisted n ∧ (ManagedDevice.fresh device).start config = (.error e, d) := by
  cases h with
  | settingUp hcall | failing hcall | running hcall | closing hcall | leaving hcall | gone hcall =>
      cases hcall.symm.trans hk
  | failed hcall _ hgone hstart =>
      cases hcall.symm.trans hk
      exact ⟨hgone, hstart⟩

/-- A stop that took a device down and has returned has taken its name out. -/
theorem of_stopped {call : DeviceCall δ} {r : Except AgentError CallValue}
    (h : Life s stops k n device config d) (hi : stops i)
    (hcall : s.calls[i]? = some ⟨call, .returned r⟩) : s.Unlisted n ∧ d.state = .stopped := by
  cases h with
  | settingUp _ hstops | failing _ hstops | failed _ hstops | running _ hstops =>
      exact absurd hi (hstops i)
  | closing _ hstops hstop | leaving _ hstops hstop =>
      rw [← (hstops i).mp hi] at hstop
      cases hstop.symm.trans hcall
  | gone _ _ _ hgone hstate => exact ⟨hgone, hstate⟩

end Life

variable {events : List (Event δ)} {i j n : Nat} {call : DeviceCall δ} {stage : CallStage}

/-- The life of a device that some call has registered or takes down. -/
theorem Consistent.exists_life (h : Consistent events)
    (hi : Registered events i n ∨ TakesDown events i n) :
    ∃ k device config d, (run events).devices[n]? = some d ∧
      (∀ j, Registered events j n ↔ j = k) ∧
      Life (run events) (TakesDown events · n) k n device config d := by
  obtain ⟨k, device, config, hk, hlife⟩ :=
    h.lives n _ (List.getElem?_eq_getElem (h.range i n hi))
  exact ⟨k, device, config, _, List.getElem?_eq_getElem _, hk, hlife⟩

theorem Consistent.registered_unique (h : Consistent events) (hi : Registered events i n)
    (hj : Registered events j n) : i = j := by
  obtain ⟨k, _, _, _, _, hk, _⟩ := h.exists_life (.inl hi)
  exact ((hk i).mp hi).trans ((hk j).mp hj).symm

/-- A device that is not stopped is the one that its name leads to. -/
theorem Consistent.listed_of_named {x : String} {d : ManagedDevice δ} (h : Consistent events)
    (hn : Named events n x) (hd : (run events).devices[n]? = some d) (hstate : d.state ≠ .stopped) :
    (run events).names[x]? = some n := by
  obtain ⟨i, device, config, stage, hi, hcall, hname⟩ := hn
  obtain ⟨k, device', config', hk, hlife⟩ := h.lives n d hd
  obtain rfl := (hk i).mp hi
  obtain ⟨stage', hcall'⟩ := hlife.exists_call
  cases hcall'.symm.trans hcall
  exact (hlife.listed_of_not_stopped hstate x).mpr hname.symm

/-! ### What calls may do -/

theorem advance_missing (hi : (run events).calls[i]? = some ⟨call, .called⟩) (hcall : ¬call.IsStart)
    (hname : (run events).names[call.name]? = none) :
    (run events).advance i =
      (run events).moveOn i (.returned (.error (.deviceNotFound call.name))) := by
  unfold advance
  rw [hi]
  cases call with
  | start => exact absurd trivial hcall
  | stop | update | status =>
      dsimp only
      unfold lookUp
      rw [hname]

theorem advance_refused {d : ManagedDevice δ}
    (hi : (run events).calls[i]? = some ⟨call, .waiting n⟩) (hcall : call.Acts)
    (hlock : (run events).isLocked n = false) (hd : (run events).devices[n]? = some d)
    (hstate : d.state ≠ .running) :
    ∃ operation, (run events).advance i = (run events).moveOn i
      (.returned (.error (.invalidState (TunnelDevice.name d.device) d.state operation))) := by
  unfold advance
  rw [hi]
  dsimp only
  rw [hlock, hd, if_neg Bool.false_ne_true]
  unfold attend
  cases call with
  | start | status => exact hcall.elim
  | stop name =>
      refine ⟨"stop", ?_⟩
      dsimp only
      rw [if_neg hstate, ManagedDevice.stop, ManagedDevice.ifRunning, if_neg hstate]
      rfl
  | update name desired reachable =>
      refine ⟨"update", ?_⟩
      dsimp only
      rw [ManagedDevice.update, ManagedDevice.ifRunning, if_neg hstate]
      dsimp only
      rw [put_self hd]
      rfl

theorem Consistent.acting {d : ManagedDevice δ} (h : Consistent events)
    (hi : (run events).calls[i]? = some ⟨call, stage⟩) (hcall : ¬call.IsStart)
    (hd : (run events).devices[n]? = some d) (hne : ((run events).advance i).devices[n]? ≠ some d) :
    call.Acts ∧ (stage = .waiting n ∧ (run events).isLocked n = false ∧ d.state = .running ∨
      stage = .takingDown n ∧ d.state = .stopping) := by
  have hmove := move_advance (run events) i
  generalize (run events).advance i = s' at hne hmove
  -- Only the device that a call has for itself is changed.
  have hself : ∀ {m : Nat} {d' : ManagedDevice δ} {b : CallStage},
      (((run events).put m d').moveOn i b).devices[n]? ≠ some d → n = m := by
    intro m d' b hne
    by_contra hnm
    exact hne ((devices_put_of_ne (run events) hnm d').trans hd)
  cases hmove with
  | stay | answer | find | leave => exact absurd hd hne
  | register hi' | run hi' | fail hi' =>
      cases hi'.symm.trans hi
      exact absurd trivial hcall
  | update hi' hlock hd' hstate | claim hi' hlock hd' hstate =>
      obtain rfl := hself hne
      cases hi'.symm.trans hi
      cases hd'.symm.trans hd
      exact ⟨trivial, .inl ⟨rfl, hlock, hstate⟩⟩
  | close hi' hd' =>
      obtain rfl := hself hne
      cases hi'.symm.trans hi
      obtain ⟨k, device, config, _, hlife⟩ := h.lives n d hd
      have htakes : TakesDown events i n := reached_now hi
      obtain ⟨name, stage, hstop⟩ := hlife.exists_stop htakes
      cases hstop.symm.trans hi
      exact ⟨trivial, .inr ⟨rfl, hlife.state_of_takingDown htakes hi⟩⟩

/-- A start has begun something only with the device that it registered. -/
theorem Consistent.not_takesDown {device : δ} {config : InterfaceConfig} (h : Consistent events)
    (hi : (run events).calls[i]? = some ⟨.start device config, stage⟩) : ¬TakesDown events i n := by
  intro hn
  obtain ⟨k, _, _, d, _, _, hlife⟩ := h.exists_life (.inr hn)
  obtain ⟨name, stage', hstop⟩ := hlife.exists_stop hn
  cases hstop.symm.trans hi

theorem Consistent.apart {device : δ} {config : InterfaceConfig} (h : Consistent events)
    (hi : (run events).calls[i]? = some ⟨.start device config, stage⟩) (hj : Registered events j n)
    (hji : j ≠ i) :
    ((run events).advance i).devices[n]? = (run events).devices[n]? ∧
      ∀ x : String, ((run events).advance i).names[x]? = some n ↔
        (run events).names[x]? = some n := by
  have hmove := move_advance (run events) i
  generalize (run events).advance i = s' at hmove
  have hother : ∀ {m : Nat}, Registered events i m → n ≠ m := by
    rintro m hm rfl
    exact hji (h.registered_unique hj hm)
  cases hmove with
  | stay | answer => exact ⟨rfl, fun _ => Iff.rfl⟩
  | find hi' hcall =>
      cases hi'.symm.trans hi
      exact absurd trivial hcall
  | register hi' hfree =>
      have hs := Shift.register hi' hfree
      have hn := Nat.ne_of_lt (h.range j n (.inl hj))
      exact ⟨hs.devices n hn, hs.names n hn⟩
  | run hi' | fail hi' =>
      exact ⟨devices_put_of_ne _ (hother (reached_now hi')) _, fun _ => Iff.rfl⟩
  | update hi' | claim hi' => cases hi'.symm.trans hi
  | close hi' => exact absurd (reached_now hi') (h.not_takesDown hi)
  | leave hi' =>
      obtain ⟨k, _, _, d, _, hk, hbusy, hlife⟩ := h.exists_left hi'
      have hs := (Shift.leave hi' (hlife.of_leaving hi' hbusy).1).1
      have hn := hother ((hk i).mpr (hbusy.resolve_right (h.not_takesDown hi)))
      exact ⟨hs.devices n hn, hs.names n hn⟩

theorem Consistent.gone {r : Except AgentError CallValue} (h : Consistent events)
    (hi : (run events).calls[i]? = some ⟨call, .returned r⟩)
    (hn : (Registered events i n ∧ ∃ e, r = .error e) ∨ TakesDown events i n) :
    (run events).Unlisted n ∧ ∃ d, (run events).devices[n]? = some d ∧ d.state = .stopped := by
  obtain ⟨k, device, config, d, hd, hk, hlife⟩ := h.exists_life (hn.imp_left And.left)
  rcases hn with ⟨hregistered, e, rfl⟩ | htakes
  · obtain rfl := (hk i).mp hregistered
    obtain ⟨hgone, hstart⟩ := hlife.of_failed hi
    exact ⟨hgone, d, hd, ManagedDevice.state_of_start_eq_error hstart⟩
  · obtain ⟨hgone, hstate⟩ := hlife.of_stopped htakes hi
    exact ⟨hgone, d, hd, hstate⟩

theorem Consistent.closed {device : δ} {config : InterfaceConfig} {e : AgentError}
    (h : Consistent events)
    (hi : (run events).calls[i]? = some ⟨.start device config, .returned (.error e)⟩)
    (hn : Registered events i n) (hcreate : (TunnelDevice.create device config).1 = .ok ()) :
    ∃ d, (run events).devices[n]? = some d ∧ d.device =
      (TunnelDevice.close
        (ManagedDevice.setUp (TunnelDevice.create device config).2 config).2).2 := by
  obtain ⟨k, device', config', d, hd, hk, hlife⟩ := h.exists_life (.inl hn)
  obtain rfl := (hk i).mp hn
  obtain ⟨stage', hcall⟩ := hlife.exists_call
  cases hcall.symm.trans hi
  exact ⟨d, hd, ManagedDevice.device_of_start_eq_error (hlife.of_failed hi).2 hcreate⟩

/--
**Calls keep the table of devices in order.**  For any calls and any order of their
steps, at every point: a name belongs to one device at a time; updates and stops act on
running devices that nobody else has, and otherwise return an error; a start leaves alone
what others registered; and what a failed start registered or a stop took down is out of
the table when the call has returned, stopped, and closed if it was created.
-/
theorem orderly_run (events : List (Event δ)) : Orderly events := by
  have h := consistent events
  refine ⟨fun x n hx => h.named hx, fun n i j hi hj => h.registered_unique hi hj, ?_,
    fun i call hi hcall hname => advance_missing hi hcall hname,
    fun i call n d hi hcall hlock hd hstate => advance_refused hi hcall hlock hd hstate,
    fun i call stage n d hi hcall hd hne => h.acting hi hcall hd hne,
    fun i j n device config stage hi hj hji => h.apart hi hj hji,
    fun i call n r hi hn => h.gone hi hn,
    fun i n device config e hi hn hcreate => h.closed hi hn hcreate⟩
  intro x n m d d' hn hm hd hd' hstate hstate'
  have hx := h.listed_of_named hn hd hstate
  have hx' := h.listed_of_named hm hd' hstate'
  exact Option.some.inj (hx.symm.trans hx')

end DeviceCalls

end TunnelMesh
