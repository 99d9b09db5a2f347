/-
Cycles of probes run to completion.

A cycle cannot get stuck: while a result has not been taken, some task has a place and
can go on, or is done, or there is a place for one that waits.  Each such step brings the
cycle closer to its end.  The program takes one task after the other, and that too is a
run of a cycle from its start to its end.
-/
import TunnelMesh.Proofs.Probe.Cycle

namespace TunnelMesh

variable {π : Type} [ProbeSource π]

/-- The most steps that a task still has to take. -/
def ProbeStage.remaining : ProbeStage → Nat
  | waiting => 4
  | placed => 3
  | halfway _ => 2
  | done _ => 1
  | taken _ => 0

theorem ProbeStage.remaining_ofEndpoint (r : Except ProbeFault (Option (Option Duration))) :
    (ofEndpoint r).remaining < placed.remaining := by
  cases r <;> simp [ofEndpoint, remaining]

namespace ProbeCycle

variable {c : ProbeCycle π}

/-- The most steps that tasks together still have to take. -/
def stepsLeft (c : ProbeCycle π) : Nat := c.tasks.foldr (fun t n => t.stage.remaining + n) 0

theorem run_append (c : ProbeCycle π) (events more : List Event) :
    c.run (events ++ more) = (c.run events).run more :=
  List.foldl_append

theorem step_advance (hended : c.ended = false) (i : Nat) : c.step (.advance i) = c.advance i := by
  rw [step, hended]
  rfl

theorem step_poll (hended : c.ended = false) (i : Nat) : c.step (.poll i) = c.poll i := by
  rw [step, hended]
  rfl

theorem ended_poll (hended : c.ended = false)
    (h : c.cancelled = true ∨ ∀ t ∈ c.tasks, t.stage.isTaken = true) (i : Nat) :
    (c.step (.poll i)).ended = true := by
  rw [step_poll hended, poll, if_pos]
  simpa using h

omit [ProbeSource π] in
/-- A task that goes on brings the cycle closer to its end. -/
theorem stepsLeft_moveOn_lt {i : Nat} {t : ProbeTarget} {a b : ProbeStage}
    (hi : c.tasks[i]? = some ⟨t, a⟩) (hb : b.remaining < a.remaining) :
    (c.moveOn i b).stepsLeft < c.stepsLeft := by
  obtain ⟨front, back, htasks, -, hmodify⟩ := exists_split hi
  simp only [stepsLeft, moveOn, hmodify]
  rw [htasks, List.foldr_append, List.foldr_append]
  clear htasks hmodify
  induction front with
  | nil => exact Nat.add_lt_add_right hb _
  | cons t front ih => exact Nat.add_lt_add_left ih _

/-- A task with a place goes on when it makes a step. -/
theorem stepsLeft_advance_lt {i : Nat} {t : ProbeTarget} {a : ProbeStage}
    (hi : c.tasks[i]? = some ⟨t, a⟩) (ha : a.hasPlace = true) :
    (c.advance i).stepsLeft < c.stepsLeft := by
  unfold advance
  rw [hi]
  cases a with
  | placed =>
      exact stepsLeft_moveOn_lt (c := { c with source := _ }) hi (ProbeStage.remaining_ofEndpoint _)
  | halfway endpoint =>
      exact stepsLeft_moveOn_lt (c := { c with source := _ }) hi (by simp [ProbeStage.remaining])
  | waiting => cases ha
  | done r => cases ha
  | taken r => cases ha

omit [ProbeSource π] in
theorem stepsLeft_take_lt {i : Nat} {t : ProbeTarget} {r : Except ProbeFault ProbeOutcome}
    (hi : c.tasks[i]? = some ⟨t, .done r⟩) : (c.take i).stepsLeft < c.stepsLeft := by
  unfold ProbeCycle.take
  rw [hi]
  cases r with
  | ok o => exact stepsLeft_moveOn_lt (c := c.keep (.ok o)) hi (by simp [ProbeStage.remaining])
  | error e => exact stepsLeft_moveOn_lt hi (by simp [ProbeStage.remaining])

/-- While a task has not been taken, some event brings the cycle closer to its end. -/
theorem exists_goesOn (hended : c.ended = false) (hcancelled : c.cancelled = false)
    {t : ProbeTask} (ht : t ∈ c.tasks) (htaken : t.stage.isTaken = false) :
    ∃ e, e ≠ .cancel ∧ (c.step e).stepsLeft < c.stepsLeft := by
  by_cases hplace : ∃ t ∈ c.tasks, t.stage.hasPlace = true
  · obtain ⟨⟨t, a⟩, ht, ha⟩ := hplace
    obtain ⟨i, hi⟩ := List.mem_iff_getElem?.mp ht
    refine ⟨.advance i, by simp, ?_⟩
    rw [step_advance hended]
    exact stepsLeft_advance_lt hi ha
  · obtain ⟨target, a⟩ := t
    obtain ⟨i, hi⟩ := List.mem_iff_getElem?.mp ht
    cases a with
    | waiting =>
        -- No task has a place, and there is always one.
        have hbusy : c.busy < c.settings.places := by
          have hzero : c.busy = 0 :=
            List.countP_eq_zero.mpr fun t ht hp => hplace ⟨t, ht, hp⟩
          have hplaces : c.settings.places = max c.settings.concurrency 1 := rfl
          omega
        refine ⟨.advance i, by simp, ?_⟩
        rw [step_advance hended, advance, hi]
        dsimp only
        rw [if_pos hbusy]
        exact stepsLeft_moveOn_lt hi (by simp [ProbeStage.remaining])
    | placed => exact absurd ⟨_, ht, rfl⟩ hplace
    | halfway endpoint => exact absurd ⟨_, ht, rfl⟩ hplace
    | done r =>
        refine ⟨.poll i, by simp, ?_⟩
        have hopen : (c.tasks.all fun t => t.stage.isTaken) = false :=
          List.all_eq_false.mpr ⟨_, ht, by simp [ProbeStage.isTaken]⟩
        rw [step_poll hended, poll, hcancelled, hopen]
        exact stepsLeft_take_lt hi
    | taken r => cases htaken

/-- **Cycles come to an end.** From wherever it is, a cycle can be brought to its end, and nobody
has to cancel it for that. -/
theorem exists_end (c : ProbeCycle π) : ∃ more, .cancel ∉ more ∧ (c.run more).ended = true := by
  generalize hn : c.stepsLeft = n
  induction n using Nat.strongRecOn generalizing c with
  | ind n ih =>
      subst hn
      by_cases hended : c.ended = true
      · exact ⟨[], by simp, hended⟩
      rw [Bool.not_eq_true] at hended
      by_cases hover : c.cancelled = true ∨ ∀ t ∈ c.tasks, t.stage.isTaken = true
      · exact ⟨[.poll 0], by simp, ended_poll hended hover 0⟩
      · have hcancelled : c.cancelled = false := Bool.not_eq_true _ ▸ fun h => hover (.inl h)
        have hopen : ¬∀ t ∈ c.tasks, t.stage.isTaken = true := fun h => hover (.inr h)
        push Not at hopen
        obtain ⟨t, ht, htaken⟩ := hopen
        obtain ⟨e, he, hlt⟩ := exists_goesOn hended hcancelled ht (by simpa using htaken)
        obtain ⟨more, hmore, hend⟩ := ih _ hlt (c.step e) rfl
        refine ⟨e :: more, ?_, hend⟩
        rw [List.mem_cons, not_or]
        exact ⟨Ne.symm he, hmore⟩

/-! ### One task after the other -/

/-- A cycle that goes on, with a task at a stage between others. -/
structure Has (c : ProbeCycle π) (front : List ProbeTask) (t : ProbeTarget) (a : ProbeStage)
    (back : List ProbeTask) : Prop where
  tasks : c.tasks = front ++ ⟨t, a⟩ :: back
  ended : c.ended = false
  cancelled : c.cancelled = false

section Has

variable {front back : List ProbeTask} {t : ProbeTarget} {a : ProbeStage}

omit [ProbeSource π] in
theorem Has.getElem? (h : Has c front t a back) : c.tasks[front.length]? = some ⟨t, a⟩ := by
  rw [h.tasks, List.getElem?_append_right (Nat.le_refl _), Nat.sub_self]
  rfl

omit [ProbeSource π] in
theorem Has.moveOn (h : Has c front t a back) (b : ProbeStage) :
    Has (c.moveOn front.length b) front t b back := by
  obtain ⟨front', back', htasks, hlength, hmodify⟩ := exists_split h.getElem?
  obtain ⟨rfl, heq⟩ := List.append_inj (htasks.symm.trans h.tasks) hlength
  obtain ⟨-, rfl⟩ := List.cons.inj heq
  exact ⟨hmodify b, h.ended, h.cancelled⟩

theorem Has.place (h : Has c front t .waiting back) (hfree : c.busy = 0) :
    Has (c.step (.advance front.length)) front t .placed back := by
  have hplaces : c.settings.places = max c.settings.concurrency 1 := rfl
  rw [step_advance h.ended, advance, h.getElem?]
  dsimp only
  rw [if_pos (by omega)]
  exact h.moveOn _

theorem Has.askEndpoint (h : Has c front t .placed back) :
    ∃ r, Has (c.step (.advance front.length)) front t (.ofEndpoint r) back := by
  rw [step_advance h.ended, advance, h.getElem?]
  have hasked : Has { c with source := (t.measureEndpoint c.settings c.source).2 } front t .placed
      back := ⟨h.tasks, h.ended, h.cancelled⟩
  exact ⟨_, hasked.moveOn _⟩

theorem Has.askInner {r : Except ProbeFault (Option (Option Duration))}
    (h : Has c front t (.ofEndpoint r) back) :
    ∃ r', Has (c.step (.advance front.length)) front t (.done r') back := by
  rw [step_advance h.ended, advance, h.getElem?]
  cases r with
  | ok endpoint =>
      have hasked : Has { c with source := (t.measureInner c.settings c.source).2 } front t
          (.halfway endpoint) back := ⟨h.tasks, h.ended, h.cancelled⟩
      exact ⟨_, hasked.moveOn _⟩
  | error e => exact ⟨.error e, h⟩

theorem Has.take {r : Except ProbeFault ProbeOutcome} (h : Has c front t (.done r) back) :
    Has (c.step (.poll front.length)) front t (.taken r) back := by
  have hopen : (c.tasks.all fun t => t.stage.isTaken) = false :=
    List.all_eq_false.mpr ⟨_, List.mem_of_getElem? h.getElem?, by simp [ProbeStage.isTaken]⟩
  rw [step_poll h.ended, poll, h.cancelled, hopen]
  unfold ProbeCycle.take
  rw [h.getElem?]
  have hkept : Has (c.keep r) front t (.done r) back := by
    cases r <;> exact ⟨h.tasks, h.ended, h.cancelled⟩
  exact hkept.moveOn _

/-- A task that finds every place free is brought to its end before others move. -/
theorem Has.wholeTask (h : Has c front t .waiting back) (hfree : c.busy = 0) :
    ∃ r, Has (c.run (wholeTask front.length)) front t (.taken r) back := by
  obtain ⟨_, hasked⟩ := (h.place hfree).askEndpoint
  obtain ⟨r, hdone⟩ := hasked.askInner
  exact ⟨r, hdone.take⟩

end Has

/-- Tasks whose results were taken, followed by others that wait for a place. -/
theorem run_wholeTasks {ts : List ProbeTarget} {front : List ProbeTask}
    (htasks : c.tasks = front ++ ts.map (⟨·, .waiting⟩))
    (hfront : ∀ t ∈ front, t.stage.isTaken = true) (hended : c.ended = false)
    (hcancelled : c.cancelled = false) :
    let c' := c.run ((List.range' front.length ts.length).flatMap wholeTask)
    (∀ t ∈ c'.tasks, t.stage.isTaken = true) ∧ c'.ended = false := by
  induction ts generalizing c front with
  | nil =>
      refine ⟨fun t ht => hfront t ?_, hended⟩
      have ht' : t ∈ c.tasks := ht
      simpa [htasks] using ht'
  | cons t ts ih =>
      have hhas : Has c front t .waiting (ts.map (⟨·, .waiting⟩)) := ⟨htasks, hended, hcancelled⟩
      have hfree : c.busy = 0 := by
        refine List.countP_eq_zero.mpr fun t' ht' => ?_
        rw [htasks, List.mem_append, List.mem_map] at ht'
        obtain ht' | ⟨t', -, rfl⟩ := ht'
        · have := hfront t' ht'
          cases hstage : t'.stage <;> simp_all [ProbeStage.hasPlace, ProbeStage.isTaken]
        · simp [ProbeStage.hasPlace]
      obtain ⟨r, htaken⟩ := hhas.wholeTask hfree
      have htasks' : (c.run (ProbeCycle.wholeTask front.length)).tasks =
          (front ++ [⟨t, .taken r⟩]) ++ ts.map (⟨·, .waiting⟩) := by
        rw [htaken.tasks, List.append_assoc]
        rfl
      have hfront' : ∀ t' ∈ front ++ [(⟨t, .taken r⟩ : ProbeTask)], t'.stage.isTaken = true := by
        intro t' ht'
        obtain ht' | rfl : t' ∈ front ∨ t' = ⟨t, .taken r⟩ := by simpa using ht'
        · exact hfront t' ht'
        · rfl
      have hrest := ih htasks' hfront' htaken.ended htaken.cancelled
      rw [List.length_append] at hrest
      rw [List.length_cons, List.range'_succ, List.flatMap_cons, run_append]
      exact hrest

theorem run_of_ended (h : c.ended = true) (events : List Event) : c.run events = c := by
  induction events with
  | nil => rfl
  | cons e events ih =>
      have hstep : c.step e = c := by
        unfold step
        exact if_pos h
      rw [run, List.foldl_cons, hstep]
      exact ih

theorem cancel_notMem_inOrder (n : Nat) : .cancel ∉ inOrder n := by
  simp [inOrder, wholeTask]

/-- Taking one task after the other brings a cycle from its start to its end. -/
theorem ended_inOrder {s : ProbeSettings} {source : π} {m : Measurements Float} {nodeId : NodeId}
    {targets : List ProbeTarget} {cancelled : Bool}
    (h : begin? s source m nodeId targets cancelled = some c) :
    (c.run (inOrder c.tasks.length)).ended = true := by
  obtain rfl := eq_of_begin?_eq_some h
  generalize hc : (⟨s, nodeId, source, m, (others nodeId targets).map (⟨·, .waiting⟩), 0, cancelled,
    false⟩ : ProbeCycle π) = c
  have hended : c.ended = false := by rw [← hc]
  have hlength : c.tasks.length = (others nodeId targets).length := by rw [← hc]; simp
  have hrun : c.run (inOrder c.tasks.length) =
      ((c.step (.poll 0)).run ((List.range c.tasks.length).flatMap wholeTask)).step (.poll 0) := by
    rw [inOrder, run, List.cons_append, List.foldl_cons, List.foldl_append]
    rfl
  rw [hrun]
  by_cases hover : c.cancelled = true ∨ ∀ t ∈ c.tasks, t.stage.isTaken = true
  · have hfirst := ended_poll hended hover 0
    have hlast := run_of_ended hfirst [.poll 0]
    rw [run_of_ended hfirst]
    exact (congrArg ended hlast).trans hfirst
  · -- Nothing is done yet, so the first look around finds nothing.
    have hfirst : c.step (.poll 0) = c := by
      rw [step_poll hended, poll, if_neg (by simpa using hover)]
      unfold ProbeCycle.take
      rw [← hc]
      cases others nodeId targets <;> rfl
    have htasks : c.tasks = [] ++ (others nodeId targets).map (⟨·, .waiting⟩) := by
      rw [← hc]
      rfl
    obtain ⟨htaken, hopen⟩ := run_wholeTasks htasks (by simp) hended
      (Bool.eq_false_iff.mpr fun h => hover (.inl h))
    rw [List.length_nil, ← hlength, ← List.range_eq_range'] at htaken hopen
    rw [hfirst]
    exact ended_poll hopen (.inr htaken) 0

end ProbeCycle

/-- What a cycle gives is what one that nobody cancels on the way gives at its end. -/
theorem Prober.exists_run_of_cycle_eq_some {s : ProbeSettings} {source source' : π}
    {m m' : Measurements Float} {nodeId : NodeId} {targets : List ProbeTarget} {cancelled : Bool}
    {k : Nat} (h : Prober.cycle s source m nodeId targets cancelled = some (k, source', m')) :
    ∃ c events, ProbeCycle.begin? s source m nodeId targets cancelled = some c ∧
      .cancel ∉ events ∧ (c.run events).ended = true ∧ (c.run events).recorded = k ∧
      (c.run events).source = source' ∧ (c.run events).measured = m' := by
  obtain ⟨c, hc, hrun⟩ := Option.map_eq_some_iff.mp h
  refine ⟨c, ProbeCycle.inOrder c.tasks.length, hc, ProbeCycle.cancel_notMem_inOrder _,
    ProbeCycle.ended_inOrder hc, ?_⟩
  simpa using hrun

end TunnelMesh
