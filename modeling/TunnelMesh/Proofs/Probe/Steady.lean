/-
What a cycle of probes leaves where answers depend on addresses alone.

The targets are about different nodes.  Whatever the order of the steps, and wherever the
cycle is cancelled, the measurements are the earlier ones overlaid with the full results
of some targets, as many as were counted: no result is recorded in part, twice, or for a
node that it is not about.  A cycle that comes to its end without being cancelled has
recorded every target, and what it leaves is the same for every order.

All this is said of cycles that begin.  With more places than can be handed out a cycle
breaks off at once and records nothing.
-/
import TunnelMesh.Proofs.Probe.Completion

namespace TunnelMesh

variable {π : Type} [ProbeSource π]

/-! ### Answers -/

/-- What addresses answer. -/
structure Answers where
  icmp : Net.Address → Option Duration
  tcp : Net.SocketAddress → Option Duration

namespace Answers

variable {a : Answers} {s : ProbeSettings} {source p : π} {t : ProbeTarget}

/-- A source gives these answers, however often it has been asked within some time. -/
def Of (a : Answers) (timeout : Duration) (source : π) : Prop :=
  ∀ p, Asked timeout source p →
    (∀ ip, (ProbeSource.icmp p ip timeout).1 = .ok (a.icmp ip)) ∧
    ∀ addr, (ProbeSource.tcp p addr timeout).1 = .ok (a.tcp addr)

/-- The round trip to an endpoint; one that is not resolved does not answer. -/
def roundTrip (a : Answers) : ProbeEndpoint → Option Duration
  | .icmp ip => a.icmp ip
  | .tcp addr => a.tcp addr
  | .unresolved => none

/-- The full result of a target: of its endpoint if it has one, and of its tunnel address if it has
one and that is wanted. -/
def outcome (a : Answers) (s : ProbeSettings) (t : ProbeTarget) : ProbeOutcome where
  nodeId := t.nodeId
  endpoint := t.endpoint.map a.roundTrip
  inner := if s.inner then t.inner.map fun ip => a.tcp (.ofAddress ip s.innerPort) else none

theorem measureEndpoint_eq (ha : a.Of s.timeout source) (hp : Asked s.timeout source p) :
    (t.measureEndpoint s p).1 = .ok (a.outcome s t).endpoint := by
  obtain ⟨hicmp, htcp⟩ := ha p hp
  unfold ProbeTarget.measureEndpoint outcome
  cases t.endpoint with
  | none => rfl
  | some e =>
      cases e with
      | icmp ip =>
          dsimp only
          rw [hicmp ip]
          rfl
      | tcp addr =>
          dsimp only
          rw [htcp addr]
          rfl
      | unresolved => rfl

theorem measureInner_eq (ha : a.Of s.timeout source) (hp : Asked s.timeout source p) :
    (t.measureInner s p).1 = .ok (a.outcome s t).inner := by
  obtain ⟨-, htcp⟩ := ha p hp
  unfold ProbeTarget.measureInner outcome
  cases t.inner with
  | none =>
      dsimp only
      split <;> rfl
  | some ip =>
      cases s.inner with
      | false => rfl
      | true =>
          dsimp only
          rw [htcp]
          rfl

/-- Asking for a target gives its full result. -/
theorem eq_of_gives (ha : a.Of s.timeout source) {r : Except ProbeFault ProbeOutcome}
    (h : t.Gives s source r) : r = .ok (a.outcome s t) := by
  cases h with
  | outcome hp hendpoint hq hinner =>
      rw [measureEndpoint_eq ha hp] at hendpoint
      rw [measureInner_eq ha hq] at hinner
      cases hendpoint
      cases hinner
      rfl
  | endpointBroke hp hbroke =>
      rw [measureEndpoint_eq ha hp] at hbroke
      cases hbroke
  | innerBroke hq hbroke =>
      rw [measureInner_eq ha hq] at hbroke
      cases hbroke

end Answers

/-- What a scripted source answers. -/
def ScriptedProbe.answers (p : ScriptedProbe) : Answers where
  icmp ip := p.icmp[ip]?
  tcp addr := p.tcp[addr]?

/-- Being asked leaves the tables of a scripted source as they are. -/
theorem ScriptedProbe.answers_of (source : ScriptedProbe) (timeout : Duration) :
    source.answers.Of timeout source := by
  intro p hp
  have htables : p.icmp = source.icmp ∧ p.tcp = source.tcp := by
    induction hp with
    | start => exact ⟨rfl, rfl⟩
    | icmp _ _ ih => exact ih
    | tcp _ _ ih => exact ih
  obtain ⟨hicmp, htcp⟩ := htables
  refine ⟨fun ip => ?_, fun addr => ?_⟩
  · rw [answers, ← hicmp]
    rfl
  · rw [answers, ← htcp]
    rfl

/-! ### Cycles -/

namespace ProbeCycle

variable {a : Answers} {s : ProbeSettings} {source : π} {m : Measurements Float} {nodeId : NodeId}
  {targets : List ProbeTarget} {cancelled : Bool} {c₀ c : ProbeCycle π}

/-- The results that were recorded are the full results of the tasks that were taken. -/
theorem Follows.filterMap_kept? (h : Follows c₀ c) (ha : a.Of c₀.settings.timeout c₀.source) :
    c.tasks.filterMap ProbeTask.kept? =
      ((c.tasks.filter fun t => t.stage.isTaken).map (·.target)).map (a.outcome c₀.settings) := by
  have hgrounded := h.grounded
  revert hgrounded
  generalize c.tasks = tasks
  intro hgrounded
  induction tasks with
  | nil => rfl
  | cons t tasks ih =>
      have hrest := ih fun t' ht' => hgrounded t' (List.mem_cons_of_mem _ ht')
      obtain ⟨target, stage⟩ := t
      cases stage with
      | taken r =>
          have hgives : target.Gives c₀.settings c₀.source r :=
            hgrounded ⟨target, .taken r⟩ List.mem_cons_self
          obtain rfl := Answers.eq_of_gives ha hgives
          rw [List.filterMap_cons, List.filter_cons, hrest]
          rfl
      | waiting | placed | halfway | done =>
          rw [List.filterMap_cons, List.filter_cons, hrest]
          rfl

/-- What holds of a cycle at any time if the answers depend on the address alone. -/
structure Tallied (a : Answers) (s : ProbeSettings) (m : Measurements Float) (nodeId : NodeId)
    (targets : List ProbeTarget) (c : ProbeCycle π) : Prop where
  /-- As many targets as were counted have their full results recorded, and nothing else is. -/
  overlaid : ∃ taken : List ProbeTarget, taken.Sublist (others nodeId targets) ∧
    taken.length = c.recorded ∧ Overlaid m nodeId (taken.map (a.outcome s)) c.measured
  /-- At the end of a cycle that was not cancelled these are all targets, in whichever order they
  were taken. -/
  complete : c.ended = true → c.cancelled = false →
    c.recorded = (others nodeId targets).length ∧
    c.measured = ProbeOutcome.recordAll m nodeId ((others nodeId targets).map (a.outcome s))
  /-- No more tasks ask at once than there are places. -/
  busy : c.busy ≤ s.places

theorem Follows.tallied (h : Follows c₀ c)
    (hbegin : begin? s source m nodeId targets cancelled = some c₀) (ha : a.Of s.timeout source)
    (hnodup : ((others nodeId targets).map (·.nodeId)).Nodup) :
    Tallied a s m nodeId targets c := by
  have hstart := eq_of_begin?_eq_some hbegin
  obtain ⟨hs, hsource, hn, hm⟩ : c₀.settings = s ∧ c₀.source = source ∧ c₀.nodeId = nodeId ∧
      c₀.measured = m := by simp [hstart]
  have hothers : c₀.tasks.map (·.target) = others nodeId targets := by
    simp [hstart, Function.comp_def]
  have hkept := h.filterMap_kept? (a := a) (by rw [hs, hsource]; exact ha)
  obtain ⟨hsettings, -, htargets, -, -, ⟨os, hperm, hmeasured, hrecorded⟩, hbusy, hover⟩ := h
  rw [hothers] at htargets
  rw [hs] at hkept hsettings
  rw [hm, hn] at hmeasured
  let taken : List ProbeTarget := (c.tasks.filter fun t => t.stage.isTaken).map (·.target)
  have hsublist : taken.Sublist (others nodeId targets) :=
    htargets ▸ List.filter_sublist.map _
  replace hperm : os.Perm (taken.map (a.outcome s)) := hkept ▸ hperm
  have hid : ∀ ts : List ProbeTarget,
      (ts.map (a.outcome s)).map (·.nodeId) = ts.map (·.nodeId) := fun ts => by
    rw [List.map_map]
    rfl
  have hnodup' : ((taken.map (a.outcome s)).map (·.nodeId)).Nodup := by
    rw [hid]
    exact (hsublist.map _).nodup hnodup
  have hlength : taken.length = c.recorded := by
    rw [hrecorded, hperm.length_eq]
    exact (List.length_map _).symm
  have hoverlaid : Overlaid m nodeId (taken.map (a.outcome s)) c.measured := by
    rw [hmeasured]
    exact (Overlaid.recordAll ((hperm.map _).nodup_iff.mpr hnodup')).perm hperm
  refine ⟨⟨taken, hsublist, hlength, hoverlaid⟩, fun hended hcancelled => ?_, hsettings ▸ hbusy⟩
  have hall : ∀ t ∈ c.tasks, t.stage.isTaken = true :=
    (hover hended).resolve_left (by simp [hcancelled])
  have htaken : taken = others nodeId targets := by
    rw [← htargets]
    exact congrArg _ (List.filter_eq_self.mpr hall)
  rw [htaken] at hlength hoverlaid
  refine ⟨hlength.symm, hoverlaid.unique (Overlaid.recordAll ?_) fun o => Iff.rfl⟩
  rw [hid]
  exact hnodup

/-- **Results are never mixed.** Exactly with more places than can be handed out a cycle does not
begin. One that begins keeps, in every order of its steps and with cancellations anywhere, the full
results of as many targets as it counts; it can always be brought to its end, and if nobody cancelled
it, that is the same end in every order. -/
theorem tallied_run (ha : a.Of s.timeout source)
    (hnodup : ((others nodeId targets).map (·.nodeId)).Nodup) :
    (begin? s source m nodeId targets cancelled = none ↔ mostPlaces < s.concurrency) ∧
    ∀ c, begin? s source m nodeId targets cancelled = some c → ∀ events,
      Tallied a s m nodeId targets (c.run events) ∧
      (cancelled = false → .cancel ∉ events → (c.run events).cancelled = false) ∧
      ∃ more, .cancel ∉ more ∧ (c.run (events ++ more)).ended = true := by
  refine ⟨begin?_eq_none_iff, fun c hbegin events => ⟨?_, fun hopen hcancel => ?_, ?_⟩⟩
  · exact ((follows_begin? hbegin).run events).tallied hbegin ha hnodup
  · rw [cancelled_run c hcancel, eq_of_begin?_eq_some hbegin]
    exact hopen
  · obtain ⟨more, hmore, hend⟩ := exists_end (c.run events)
    exact ⟨more, hmore, (congrArg ended (run_append c events more)).trans hend⟩

/-- A source in which one address answers echo requests. -/
def oneAnswer : ScriptedProbe := ({} : ScriptedProbe).answerIcmp (.v4 (.ofOctets 192 0 2 2)) (.ofMillis 2)

/-- A local node, a node whose endpoint answers, and one with an endpoint that is not resolved and a
tunnel address. -/
def threeTargets : List ProbeTarget :=
  [⟨⟨1⟩, none, none⟩, ⟨⟨2⟩, some (.icmp (.v4 (.ofOctets 192 0 2 2))), none⟩,
    ⟨⟨3⟩, some .unresolved, some (.v4 (.ofOctets 10 8 0 3))⟩]

/-- The second task overtakes the first, which the cycle is cancelled before. -/
def overtaking : List Event :=
  [.advance 0, .advance 1, .advance 1, .advance 1, .advance 0, .poll 1, .cancel, .advance 0, .poll 0]

theorem tallied_run_overtaking :
    ∃ c, begin? {} oneAnswer .empty ⟨1⟩ threeTargets false = some c ∧
      (c.run overtaking).recorded = 1 ∧ (c.run overtaking).ended = true ∧
      Tallied oneAnswer.answers {} .empty ⟨1⟩ threeTargets (c.run overtaking) := by
  have hdistinct : ((others ⟨1⟩ threeTargets).map (·.nodeId)).Nodup := by decide
  refine ⟨_, rfl, rfl, rfl, ?_⟩
  exact ((tallied_run (oneAnswer.answers_of _) hdistinct).2 _ rfl overtaking).1

/-- A target that answers is not recorded with one place more than can be handed out. -/
theorem cycle_tooManyPlaces :
    Prober.cycle { concurrency := mostPlaces + 1 } oneAnswer .empty ⟨1⟩ threeTargets false = none ∧
    ∃ source m, Prober.cycle { concurrency := mostPlaces } oneAnswer .empty ⟨1⟩ threeTargets false =
      some (2, source, m) :=
  ⟨rfl, _, _, rfl⟩

end ProbeCycle

end TunnelMesh
