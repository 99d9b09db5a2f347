/-
What a cycle of probes does, whatever the order of its steps.

`Move` lists the steps that a cycle can make; nothing later looks into `step`.  Every
move keeps the facts of `Follows`: the tasks are those of the start, each stage came about
by asking the source, the results taken so far and no others were recorded, there are
never more tasks with a place than places, and a cycle that is over was cancelled or has
taken every result.
-/
import Mathlib.Data.List.Perm.Basic
import TunnelMesh.Probe.Cycle
import TunnelMesh.Proofs.Probe.Overlay

namespace TunnelMesh

variable {π : Type} [ProbeSource π]

/-! ### What asking gives -/

/-- The states of a source that asking it within some time leads to. -/
inductive Asked (timeout : Duration) (source : π) : π → Prop
  | start : Asked timeout source source
  | icmp {p : π} (h : Asked timeout source p) (ip : Net.Address) :
      Asked timeout source (ProbeSource.icmp p ip timeout).2
  | tcp {p : π} (h : Asked timeout source p) (addr : Net.SocketAddress) :
      Asked timeout source (ProbeSource.tcp p addr timeout).2

namespace ProbeTarget

variable {s : ProbeSettings} {source p : π}

theorem asked_measureEndpoint (h : Asked s.timeout source p) (t : ProbeTarget) :
    Asked s.timeout source (t.measureEndpoint s p).2 := by
  unfold measureEndpoint
  split
  · exact h.icmp _
  · exact h.tcp _
  · exact h
  · exact h

theorem asked_measureInner (h : Asked s.timeout source p) (t : ProbeTarget) :
    Asked s.timeout source (t.measureInner s p).2 := by
  unfold measureInner
  split
  · exact h.tcp _
  · exact h

/-- What asking for a target can give, the endpoint first and the tunnel address later. -/
inductive Gives (s : ProbeSettings) (source : π) (t : ProbeTarget) :
    Except ProbeFault ProbeOutcome → Prop
  | outcome {p q : π} {endpoint inner : Option (Option Duration)}
      (hp : Asked s.timeout source p) (hendpoint : (t.measureEndpoint s p).1 = .ok endpoint)
      (hq : Asked s.timeout source q) (hinner : (t.measureInner s q).1 = .ok inner) :
      Gives s source t (.ok ⟨t.nodeId, endpoint, inner⟩)
  | endpointBroke {p : π} {e : ProbeFault} (hp : Asked s.timeout source p)
      (h : (t.measureEndpoint s p).1 = .error e) : Gives s source t (.error e)
  | innerBroke {q : π} {e : ProbeFault} (hq : Asked s.timeout source q)
      (h : (t.measureInner s q).1 = .error e) : Gives s source t (.error e)

/-- A stage that came about by asking the source. -/
def Grounded (s : ProbeSettings) (source : π) (t : ProbeTarget) : ProbeStage → Prop
  | .waiting | .placed => True
  | .halfway endpoint => ∃ p, Asked s.timeout source p ∧ (t.measureEndpoint s p).1 = .ok endpoint
  | .done r | .taken r => t.Gives s source r

theorem grounded_ofEndpoint (hp : Asked s.timeout source p) (t : ProbeTarget) :
    t.Grounded s source (.ofEndpoint (t.measureEndpoint s p).1) := by
  cases h : (t.measureEndpoint s p).1 with
  | ok endpoint => exact ⟨p, hp, h⟩
  | error e => exact .endpointBroke hp h

theorem gives_of_halfway {t : ProbeTarget} {endpoint : Option (Option Duration)}
    (h : t.Grounded s source (.halfway endpoint)) (hq : Asked s.timeout source p) :
    t.Gives s source ((t.measureInner s p).1.map fun inner => ⟨t.nodeId, endpoint, inner⟩) := by
  obtain ⟨p', hp', hendpoint⟩ := h
  cases hinner : (t.measureInner s p).1 with
  | ok inner => exact .outcome hp' hendpoint hq hinner
  | error e => exact .innerBroke hq hinner

/-- The result of a target with an endpoint is about that endpoint. -/
theorem endpoint_of_gives {t : ProbeTarget} {o : ProbeOutcome} (h : t.Gives s source (.ok o))
    (ht : t.endpoint ≠ none) : o.endpoint ≠ none := by
  have hmap : ∀ {r : Except ProbeFault (Option Duration)} {endpoint : Option (Option Duration)},
      r.map some = .ok endpoint → endpoint ≠ none := by
    intro r endpoint hr
    cases r <;> cases hr
    simp
  cases h with
  | outcome _ hendpoint =>
      unfold measureEndpoint at hendpoint
      split at hendpoint
      · exact hmap hendpoint
      · exact hmap hendpoint
      · cases hendpoint
        simp
      · rename_i hnone
        exact absurd hnone ht

theorem nodeId_of_gives {t : ProbeTarget} {o : ProbeOutcome} (h : t.Gives s source (.ok o)) :
    o.nodeId = t.nodeId := by
  cases h
  rfl

end ProbeTarget

/-! ### Tasks -/

/-- The result of a task that was recorded. -/
def ProbeTask.kept? (t : ProbeTask) : Option ProbeOutcome :=
  match t.stage with
  | .taken (.ok o) => some o
  | _ => none

namespace ProbeCycle

omit [ProbeSource π] in
/-- A task stands between others, and moving it on leaves those as they are. -/
theorem exists_split {c : ProbeCycle π} {i : Nat} {t : ProbeTarget} {a : ProbeStage}
    (hi : c.tasks[i]? = some ⟨t, a⟩) :
    ∃ front back, c.tasks = front ++ ⟨t, a⟩ :: back ∧ front.length = i ∧
      ∀ b, c.tasks.modify i (fun t => { t with stage := b }) = front ++ ⟨t, b⟩ :: back := by
  obtain ⟨hlt, htask⟩ := List.getElem?_eq_some_iff.mp hi
  have hsplit : c.tasks = c.tasks.take i ++ ⟨t, a⟩ :: c.tasks.drop (i + 1) := by
    rw [← htask, List.getElem_cons_drop, List.take_append_drop]
  refine ⟨c.tasks.take i, c.tasks.drop (i + 1), hsplit, by simp; omega, fun b => ?_⟩
  rw [List.modify_eq_take_cons_drop hlt, htask]

/-! ### Moves -/

/-- The steps of a cycle. -/
inductive Move (c : ProbeCycle π) : ProbeCycle π → Prop
  | stay : Move c c
  | cancel : Move c { c with cancelled := true }
  | finish (h : c.cancelled = true ∨ ∀ t ∈ c.tasks, t.stage.isTaken = true) :
      Move c { c with ended := true }
  | place {i : Nat} {t : ProbeTarget} (hi : c.tasks[i]? = some ⟨t, .waiting⟩)
      (hplace : c.busy < c.settings.places) : Move c (c.moveOn i .placed)
  | askEndpoint {i : Nat} {t : ProbeTarget} (hi : c.tasks[i]? = some ⟨t, .placed⟩) :
      Move c ({ c with source := (t.measureEndpoint c.settings c.source).2 }.moveOn i
        (.ofEndpoint (t.measureEndpoint c.settings c.source).1))
  | askInner {i : Nat} {t : ProbeTarget} {endpoint : Option (Option Duration)}
      (hi : c.tasks[i]? = some ⟨t, .halfway endpoint⟩) :
      Move c ({ c with source := (t.measureInner c.settings c.source).2 }.moveOn i
        (.done ((t.measureInner c.settings c.source).1.map fun inner =>
          ⟨t.nodeId, endpoint, inner⟩)))
  | take {i : Nat} {t : ProbeTarget} {r : Except ProbeFault ProbeOutcome}
      (hi : c.tasks[i]? = some ⟨t, .done r⟩) : Move c ((c.keep r).moveOn i (.taken r))

theorem move_advance (c : ProbeCycle π) (i : Nat) : Move c (c.advance i) := by
  unfold advance
  split
  · exact .stay
  · rename_i t stage hi
    cases stage with
    | waiting =>
        dsimp only
        split
        · rename_i hplace
          exact .place hi hplace
        · exact .stay
    | placed => exact .askEndpoint hi
    | halfway endpoint => exact .askInner hi
    | done r => exact .stay
    | taken r => exact .stay

theorem move_poll (c : ProbeCycle π) (i : Nat) : Move c (c.poll i) := by
  unfold poll
  split
  · rename_i h
    refine .finish ?_
    simpa using h
  · unfold ProbeCycle.take
    split
    · rename_i hi
      exact .take hi
    · exact .stay

theorem move_step (c : ProbeCycle π) (e : Event) : Move c (c.step e) := by
  unfold step
  split
  · exact .stay
  · cases e with
    | advance i => exact move_advance c i
    | poll i => exact move_poll c i
    | cancel => exact .cancel

/-! ### What moves keep -/

/-- What holds of a cycle that came from another. -/
structure Follows (c₀ c : ProbeCycle π) : Prop where
  settings : c.settings = c₀.settings
  nodeId : c.nodeId = c₀.nodeId
  targets : c.tasks.map (·.target) = c₀.tasks.map (·.target)
  source : Asked c₀.settings.timeout c₀.source c.source
  grounded : ∀ t ∈ c.tasks, t.target.Grounded c₀.settings c₀.source t.stage
  /-- The results taken, in some order, are what was recorded. -/
  ledger : ∃ os : List ProbeOutcome, os.Perm (c.tasks.filterMap ProbeTask.kept?) ∧
    c.measured = ProbeOutcome.recordAll c₀.measured c₀.nodeId os ∧ c.recorded = os.length
  /-- No more tasks ask at once than there are places. -/
  busy : c.busy ≤ c.settings.places
  atEnd : c.ended = true → c.cancelled = true ∨ ∀ t ∈ c.tasks, t.stage.isTaken = true

variable {c₀ c : ProbeCycle π}

/-- A task goes on to another stage, and with what is recorded then the ledger still agrees. -/
theorem Follows.goOn {i : Nat} {t : ProbeTarget} {a b : ProbeStage} {source : π}
    {measured : Measurements Float} {recorded : Nat} (h : Follows c₀ c)
    (hi : c.tasks[i]? = some ⟨t, a⟩) (hsource : Asked c₀.settings.timeout c₀.source source)
    (hgrounded : t.Grounded c₀.settings c₀.source b) (ha : a.isTaken = false)
    (hbusy : b.hasPlace = true → a.hasPlace = true ∨ c.busy < c.settings.places)
    (hledger : ∃ os : List ProbeOutcome,
      os.Perm ((c.tasks.modify i fun t => { t with stage := b }).filterMap ProbeTask.kept?) ∧
      measured = ProbeOutcome.recordAll c₀.measured c₀.nodeId os ∧ recorded = os.length) :
    Follows c₀ ({ c with source, measured, recorded }.moveOn i b) := by
  obtain ⟨front, back, htasks, -, hmodify⟩ := exists_split hi
  have hcount := h.busy
  obtain ⟨settings, nodeId, targets, -, grounded, -, -, atEnd⟩ := h
  unfold ProbeCycle.busy at hcount hbusy
  rw [htasks] at targets grounded atEnd hcount hbusy
  refine ⟨settings, nodeId, ?_, hsource, ?_, hledger, ?_, ?_⟩
  · simpa [ProbeCycle.moveOn, hmodify] using targets
  · intro t' ht'
    simp only [ProbeCycle.moveOn, hmodify, List.mem_append, List.mem_cons] at ht'
    obtain ht' | rfl | ht' := ht'
    · exact grounded t' (by simp [ht'])
    · exact hgrounded
    · exact grounded t' (by simp [ht'])
  · simp only [ProbeCycle.busy, ProbeCycle.moveOn, hmodify, List.countP_append,
      List.countP_cons] at hcount hbusy ⊢
    split <;> rename_i hb
    · cases hbusy hb with
      | inl hplace =>
          rw [if_pos hplace] at hcount
          exact hcount
      | inr hlt => split at hlt <;> omega
    · omega
  · intro hended
    refine (atEnd hended).imp_right fun htaken => ?_
    have := htaken ⟨t, a⟩ (by simp)
    rw [ha] at this
    cases this

/-- A task moves on without a result being recorded. -/
theorem Follows.moveOn {i : Nat} {t : ProbeTarget} {a b : ProbeStage} {source : π}
    (h : Follows c₀ c) (hi : c.tasks[i]? = some ⟨t, a⟩)
    (hsource : Asked c₀.settings.timeout c₀.source source)
    (hgrounded : t.Grounded c₀.settings c₀.source b) (ha : a.isTaken = false)
    (hkept : (⟨t, b⟩ : ProbeTask).kept? = none)
    (hbusy : b.hasPlace = true → a.hasPlace = true ∨ c.busy < c.settings.places) :
    Follows c₀ ({ c with source }.moveOn i b) := by
  obtain ⟨front, back, htasks, -, hmodify⟩ := exists_split hi
  have hkept' : (⟨t, a⟩ : ProbeTask).kept? = none := by
    cases a <;> first | rfl | cases ha
  obtain ⟨os, hos, hrecords⟩ := h.ledger
  refine h.goOn hi hsource hgrounded ha hbusy ⟨os, ?_, hrecords⟩
  rw [htasks] at hos
  simpa [hmodify, List.filterMap_append, List.filterMap_cons, hkept, hkept'] using hos

/-- A result is taken and recorded. -/
theorem Follows.take {i : Nat} {t : ProbeTarget} {o : ProbeOutcome} (h : Follows c₀ c)
    (hi : c.tasks[i]? = some ⟨t, .done (.ok o)⟩) :
    Follows c₀ ((c.keep (.ok o)).moveOn i (.taken (.ok o))) := by
  obtain ⟨front, back, htasks, -, hmodify⟩ := exists_split hi
  have hgives : t.Grounded c₀.settings c₀.source (.done (.ok o)) :=
    h.grounded _ (List.mem_of_getElem? hi)
  obtain ⟨os, hos, hmeasured, hrecorded⟩ := h.ledger
  refine h.goOn hi h.source hgives rfl (fun hb => by cases hb) ⟨os ++ [o], ?_, ?_, ?_⟩
  · rw [htasks] at hos
    simp only [hmodify, List.filterMap_append, List.filterMap_cons, ProbeTask.kept?] at hos ⊢
    exact (List.perm_append_singleton o os).trans ((hos.cons o).trans List.perm_middle.symm)
  · rw [ProbeOutcome.recordAll_concat, hmeasured, h.nodeId]
  · rw [List.length_append, hrecorded]
    rfl

/-- One move. -/
theorem Follows.move {c' : ProbeCycle π} (h : Follows c₀ c) (hmove : Move c c') :
    Follows c₀ c' := by
  have hgrounded : ∀ {i : Nat} {t : ProbeTarget} {a : ProbeStage}, c.tasks[i]? = some ⟨t, a⟩ →
      t.Grounded c₀.settings c₀.source a := fun hi => h.grounded _ (List.mem_of_getElem? hi)
  have hsource := h.source
  rw [← h.settings] at hsource hgrounded
  cases hmove with
  | stay => exact h
  | cancel =>
      obtain ⟨settings, nodeId, targets, source, grounded, ledger, busy, -⟩ := h
      exact ⟨settings, nodeId, targets, source, grounded, ledger, busy, fun _ => .inl rfl⟩
  | finish hover =>
      obtain ⟨settings, nodeId, targets, source, grounded, ledger, busy, -⟩ := h
      exact ⟨settings, nodeId, targets, source, grounded, ledger, busy, fun _ => hover⟩
  | @place i t hi hplace =>
      have hplaced : Follows c₀ ({ c with source := c.source }.moveOn i .placed) :=
        h.moveOn hi h.source trivial rfl rfl fun _ => .inr hplace
      exact hplaced
  | @askEndpoint i t hi =>
      refine h.moveOn hi ?_ ?_ rfl ?_ fun _ => .inl rfl
      · rw [← h.settings]
        exact ProbeTarget.asked_measureEndpoint hsource t
      · rw [← h.settings]
        exact ProbeTarget.grounded_ofEndpoint hsource t
      · cases (t.measureEndpoint c.settings c.source).1 <;> rfl
  | @askInner i t endpoint hi =>
      refine h.moveOn hi ?_ ?_ rfl rfl fun hb => by cases hb
      · rw [← h.settings]
        exact ProbeTarget.asked_measureInner hsource t
      · rw [← h.settings]
        exact ProbeTarget.gives_of_halfway (hgrounded hi) hsource
  | @take i t r hi =>
      cases r with
      | ok o => exact h.take hi
      | error e =>
          have hgives : t.Gives c.settings c₀.source (.error e) := hgrounded hi
          have htaken : Follows c₀ ({ c with source := c.source }.moveOn i (.taken (.error e))) :=
            h.moveOn hi h.source (h.settings ▸ hgives) rfl rfl fun hb => by cases hb
          exact htaken

theorem Follows.run (h : Follows c₀ c) (events : List Event) : Follows c₀ (c.run events) := by
  induction events generalizing c with
  | nil => exact h
  | cons e events ih => exact ih (h.move (move_step c e))

/-- At the end of a cycle that was not cancelled every target whose task did not break off has a
result among those recorded. -/
theorem Follows.exists_recorded (h : Follows c₀ c) (hended : c.ended = true)
    (hopen : c.cancelled = false) :
    ∃ os, c.measured = ProbeOutcome.recordAll c₀.measured c₀.nodeId os ∧ c.recorded = os.length ∧
      (∀ o ∈ os, ∃ t ∈ c₀.tasks.map (·.target), t.Gives c₀.settings c₀.source (.ok o)) ∧
      ∀ t ∈ c₀.tasks.map (·.target), (∀ e, ¬t.Gives c₀.settings c₀.source (.error e)) →
        ∃ o ∈ os, t.Gives c₀.settings c₀.source (.ok o) := by
  obtain ⟨-, -, htargets, -, hgrounded, ⟨os, hperm, hmeasured, hrecorded⟩, -, hover⟩ := h
  have htaken := (hover hended).resolve_left (by simp [hopen])
  rw [← htargets]
  refine ⟨os, hmeasured, hrecorded, ?_, ?_⟩
  · intro o ho
    obtain ⟨⟨t, stage⟩, ht, hkept⟩ := List.mem_filterMap.mp (hperm.mem_iff.mp ho)
    refine ⟨t, List.mem_map_of_mem ht, ?_⟩
    unfold ProbeTask.kept? at hkept
    split at hkept
    · rename_i o' hstage
      obtain rfl := Option.some.inj hkept
      obtain rfl : stage = .taken (.ok o') := hstage
      exact hgrounded _ ht
    · cases hkept
  · intro t ht hsound
    obtain ⟨⟨t, stage⟩, htask, rfl⟩ := List.mem_map.mp ht
    have hstage := htaken _ htask
    cases stage with
    | taken r =>
        have hgives : t.Gives c₀.settings c₀.source r := hgrounded _ htask
        cases r with
        | ok o =>
            exact ⟨o, hperm.mem_iff.mpr (List.mem_filterMap.mpr ⟨_, htask, rfl⟩), hgives⟩
        | error e => exact absurd hgives (hsound e)
    | waiting | placed | halfway | done => cases hstage

section Begin

variable {s : ProbeSettings} {source : π} {m : Measurements Float} {nodeId : NodeId}
  {targets : List ProbeTarget} {cancelled : Bool}

omit [ProbeSource π]

/-- **Cycles that begin.** A cycle breaks off at its start exactly if more places are asked for
than can be handed out. -/
theorem begin?_eq_none_iff :
    begin? s source m nodeId targets cancelled = none ↔ mostPlaces < s.concurrency := by
  have hplaces : mostPlaces < s.places ↔ mostPlaces < s.concurrency := by
    have hmax : s.places = max s.concurrency 1 := rfl
    rw [hmax, mostPlaces]
    omega
  unfold begin?
  split <;> rename_i h
  · simpa using hplaces.mp h
  · simpa using fun hlt => h (hplaces.mpr hlt)

theorem eq_of_begin?_eq_some (h : begin? s source m nodeId targets cancelled = some c₀) :
    c₀ = ⟨s, nodeId, source, m, (others nodeId targets).map (⟨·, .waiting⟩), 0, cancelled, false⟩ := by
  unfold begin? at h
  split at h
  · cases h
  · exact (Option.some.inj h).symm

end Begin

theorem follows_begin? {s : ProbeSettings} {source : π} {m : Measurements Float} {nodeId : NodeId}
    {targets : List ProbeTarget} {cancelled : Bool}
    (h : begin? s source m nodeId targets cancelled = some c₀) : Follows c₀ c₀ := by
  obtain rfl := eq_of_begin?_eq_some h
  refine ⟨rfl, rfl, rfl, .start, ?_, ⟨[], ?_, rfl, rfl⟩, ?_, fun hended => by cases hended⟩
  · intro t ht
    obtain ⟨t, -, rfl⟩ := List.mem_map.mp ht
    exact trivial
  · have hnone : ∀ ts : List ProbeTarget,
        (ts.map fun t => (⟨t, .waiting⟩ : ProbeTask)).filterMap ProbeTask.kept? = [] := by
      intro ts
      simp [List.filterMap_map, ProbeTask.kept?, Function.comp_def]
    rw [hnone]
  · simp [busy, List.countP_map, Function.comp_def, ProbeStage.hasPlace]

/-! ### Cancelling -/

theorem cancelled_step (c : ProbeCycle π) (e : Event) (he : e ≠ .cancel) :
    (c.step e).cancelled = c.cancelled := by
  unfold step
  split
  · rfl
  · cases e with
    | cancel => exact absurd rfl he
    | advance i =>
        dsimp only [advance]
        repeat' split
        all_goals rfl
    | poll i =>
        dsimp only [poll]
        split
        · rfl
        · dsimp only [ProbeCycle.take]
          split
          · rename_i r _
            cases r <;> rfl
          · rfl

/-- A cycle is cancelled only by an event that says so. -/
theorem cancelled_run (c : ProbeCycle π) {events : List Event} (h : .cancel ∉ events) :
    (c.run events).cancelled = c.cancelled := by
  induction events generalizing c with
  | nil => rfl
  | cons e events ih =>
      rw [List.mem_cons, not_or] at h
      exact (ih (c.step e) h.2).trans (cancelled_step c e (Ne.symm h.1))

/-- A cycle that was cancelled records nothing more. -/
theorem measured_run_of_cancelled (h : c.cancelled = true) (events : List Event) :
    (c.run events).measured = c.measured ∧ (c.run events).recorded = c.recorded := by
  induction events generalizing c with
  | nil => exact ⟨rfl, rfl⟩
  | cons e events ih =>
      obtain ⟨hcancelled, hmeasured, hrecorded⟩ : (c.step e).cancelled = true ∧
          (c.step e).measured = c.measured ∧ (c.step e).recorded = c.recorded := by
        unfold step
        split
        · exact ⟨h, rfl, rfl⟩
        · cases e with
          | cancel => exact ⟨rfl, rfl, rfl⟩
          | advance i =>
              dsimp only [advance]
              repeat' split
              all_goals exact ⟨h, rfl, rfl⟩
          | poll i =>
              dsimp only [poll]
              rw [if_pos (by rw [h]; rfl)]
              exact ⟨h, rfl, rfl⟩
      obtain ⟨hmeasured', hrecorded'⟩ := ih hcancelled
      exact ⟨hmeasured'.trans hmeasured, hrecorded'.trans hrecorded⟩

end ProbeCycle

end TunnelMesh
