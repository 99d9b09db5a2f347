/-
What a report carries from one node to another.

Taking a report over changes only what its sender observed.  There each sample that the
report brings replaces the older one, and what the report does not bring stays.  That is
all one has to know to see that a report may come twice, and that reports of different
senders may come in any order.

What a report brings is what its sender measured, with one exception.  Samples against
tunnel addresses travel under the address.  Where several nodes of the list have one
address, the last of them that was measured is heard, and the others only if they are
listed with another address too.
-/
import TunnelMesh.Proofs.Mesh.Measurement

namespace TunnelMesh

open Measurements (innerSamples)

variable {α : Type}

theorem Direction.mk_beq_mk (a b a' b' : NodeId) :
    (Direction.mk a b == Direction.mk a' b') = (a == a' && b == b') := by
  rw [Bool.eq_iff_iff]
  simp

/-- The sample that a report brings for a node. -/
def Report.sample? (r : Report α) : ProbeKind → NodeId → Option (Sample α)
  | .endpoint, d => r.endpointLatency[d]?
  | .inner, d => (Map.lastWith Prod.fst d (innerSamples r)).map Prod.snd

namespace Measurements

/-! ### Taking a report over -/

theorem getElem?_overlay (old : Samples α) (observer : NodeId) (new : List (NodeId × Sample α))
    (a b : NodeId) :
    (overlay old observer new)[Direction.mk a b]? =
      if observer = a then ((Map.lastWith Prod.fst b new).map Prod.snd).or old[Direction.mk a b]?
      else old[Direction.mk a b]? := by
  rw [overlay, Map.getElem?_foldl_insert_map (fun p => Direction.mk observer p.1) Prod.snd]
  simp only [Map.lastWith, Direction.mk_beq_mk]
  split
  · rename_i h
    simp [h]
  · rename_i h
    rw [List.find?_eq_none.mpr (by simp [beq_false_of_ne h]), Option.map_none, Option.none_or]

/-- **A report changes what its sender observed, where it brings something, and nothing else.** -/
theorem sample?_applyReport (m : Measurements α) (r : Report α) (kind : ProbeKind) (a b : NodeId) :
    (m.applyReport r).sample? kind a b =
      if r.nodeId = a then (r.sample? kind b).or (m.sample? kind a b) else m.sample? kind a b := by
  cases kind with
  | endpoint =>
      refine (getElem?_overlay m.endpoint r.nodeId r.endpointLatency.toList a b).trans ?_
      rw [Map.lastWith_toList, Option.map_map]
      simp [Report.sample?, sample?, samples, Function.comp_def]
  | inner => exact getElem?_overlay m.inner r.nodeId (innerSamples r) a b

theorem getElem?_snapshots_applyReport (m : Measurements α) (r : Report α) (a : NodeId) :
    (m.applyReport r).snapshots[a]? =
      if r.nodeId = a then r.snapshot.or m.snapshots[a]? else m.snapshots[a]? := by
  rw [applyReport]
  cases r.snapshot with
  | none => simp
  | some s =>
      dsimp only
      rw [Map.getElem?_insert, Option.some_or]

theorem applyReport_applyReport_self (m : Measurements α) (r : Report α) :
    (m.applyReport r).applyReport r = m.applyReport r := by
  refine ext_of_sample? ?_ (Std.ExtTreeMap.ext_getElem? fun a => ?_)
  · intro kind a b
    rw [sample?_applyReport, sample?_applyReport]
    split
    · rw [← Option.or_assoc, Option.or_self]
    · rfl
  · rw [getElem?_snapshots_applyReport, getElem?_snapshots_applyReport]
    split
    · rw [← Option.or_assoc, Option.or_self]
    · rfl

theorem applyReport_comm (m : Measurements α) {r r' : Report α} (h : r.nodeId ≠ r'.nodeId) :
    (m.applyReport r).applyReport r' = (m.applyReport r').applyReport r := by
  -- An observer is the sender of one report at most.
  have hother : ∀ a, r'.nodeId = a → r.nodeId ≠ a := fun a ha => ha ▸ h
  refine ext_of_sample? ?_ (Std.ExtTreeMap.ext_getElem? fun a => ?_)
  · intro kind a b
    simp only [sample?_applyReport]
    by_cases ha : r'.nodeId = a
    · simp only [if_pos ha, if_neg (hother a ha)]
    · simp only [if_neg ha]
  · simp only [getElem?_snapshots_applyReport]
    by_cases ha : r'.nodeId = a
    · simp only [if_pos ha, if_neg (hother a ha)]
    · simp only [if_neg ha]

/-- **Reports of different senders may come in any order.** -/
theorem foldl_applyReport_perm {rs rs' : List (Report α)} (h : rs.Perm rs')
    (hnodup : (rs.map Report.nodeId).Nodup) (m : Measurements α) :
    rs.foldl applyReport m = rs'.foldl applyReport m := by
  refine h.foldl_eq' ?_ m
  intro r hr r' hr' m
  by_cases hsame : r.nodeId = r'.nodeId
  · rw [List.inj_on_of_nodup_map hnodup hr hr' hsame]
  · exact applyReport_comm m hsame

theorem sample?_foldl_applyReport_of_forall_ne {rs : List (Report α)} {a : NodeId}
    (h : ∀ r ∈ rs, r.nodeId ≠ a) (kind : ProbeKind) (d : NodeId) {m : Measurements α} :
    (rs.foldl applyReport m).sample? kind a d = m.sample? kind a d := by
  induction rs generalizing m with
  | nil => rfl
  | cons r rs ih =>
      rw [List.foldl_cons, ih fun r' hr' => h r' (List.mem_cons_of_mem r hr'),
        sample?_applyReport, if_neg (h r List.mem_cons_self)]

/-! ### What a report brings -/

variable (S : Measurements α) (observer : NodeId) (nodes : List Node)

theorem endpoint_sample?_report (d : NodeId) :
    (S.report observer nodes).sample? .endpoint d = S.sample? .endpoint observer d := by
  have hlast : Map.lastWith (fun e : Direction × Sample α => e.1.dest) d
      (S.endpoint.toList.filter fun e => e.1.observer == observer) =
      Map.lastWith Prod.fst (Direction.mk observer d) S.endpoint.toList := by
    simp only [Map.lastWith, ← List.filter_reverse, List.find?_filter, Bool.decide_and,
      Bool.decide_eq_true, ← Direction.mk_beq_mk]
  have hfold : (S.report observer nodes).endpointLatency =
      (S.endpoint.toList.filter fun e => e.1.observer == observer).foldl
        (fun acc e => acc.insert e.1.dest e.2) ∅ := by
    rw [List.foldl_filter]
    rfl
  rw [Report.sample?, hfold,
    Map.getElem?_foldl_insert_map (fun e : Direction × Sample α => e.1.dest) (fun e => e.2), hlast,
    Map.lastWith_toList]
  simp [sample?, samples, Function.comp_def]

theorem mem_innerOf {n : Node} {s : Sample α} :
    (n, s) ∈ S.innerOf observer nodes ↔
      n ∈ nodes ∧ S.sample? .inner observer n.id = some s := by
  simp only [innerOf, List.mem_filterMap, Option.map_eq_some_iff, Prod.mk.injEq]
  constructor
  · rintro ⟨n', hn', s', hs', rfl, rfl⟩
    exact ⟨hn', hs'⟩
  · rintro ⟨hn, hs⟩
    exact ⟨n, hn, s, hs, rfl, rfl⟩

/-- The listed node that is heard at an address, with its sample. -/
def heardAt (ip : Net.Address) : Option (Node × Sample α) :=
  Map.lastWith (fun e => e.1.address.address) ip (S.innerOf observer nodes)

theorem getElem?_innerNodes_report (ip : Net.Address) :
    (S.report observer nodes).innerNodes[ip]? = (S.heardAt observer nodes ip).map (·.1.id) := by
  refine (Map.getElem?_foldl_insert_map (fun e : Node × Sample α => e.1.address.address)
    (fun e => e.1.id) (S.innerOf observer nodes) ∅ ip).trans ?_
  simp [heardAt]

theorem getElem?_innerLatency_report (ip : Net.Address) :
    (S.report observer nodes).innerLatency[ip]? = (S.heardAt observer nodes ip).map (·.2) := by
  refine (Map.getElem?_foldl_insert_map (fun e : Node × Sample α => e.1.address.address)
    (fun e => e.2) (S.innerOf observer nodes) ∅ ip).trans ?_
  simp [heardAt]

theorem mem_innerSamples_report {d : NodeId} {s : Sample α} :
    (d, s) ∈ innerSamples (S.report observer nodes) ↔
      ∃ ip n, S.heardAt observer nodes ip = some (n, s) ∧ n.id = d := by
  simp only [innerSamples, List.mem_filterMap, Option.map_eq_some_iff, Prod.mk.injEq, Prod.exists,
    Std.ExtTreeMap.mem_toList_iff_getElem?_eq_some, getElem?_innerNodes_report,
    getElem?_innerLatency_report]
  constructor
  · rintro ⟨ip, s', ⟨n, s₁, hheard, hs⟩, d', ⟨n', s₂, hheard', hd⟩, rfl, hs'⟩
    rw [hheard] at hheard'
    obtain ⟨rfl, rfl⟩ := Prod.mk.inj (Option.some.inj hheard')
    exact ⟨ip, n, hs' ▸ hs ▸ hheard, hd⟩
  · rintro ⟨ip, n, hheard, rfl⟩
    exact ⟨ip, s, ⟨n, s, hheard, rfl⟩, n.id, ⟨n, s, hheard, rfl⟩, rfl, rfl⟩

variable {S observer nodes} {d : NodeId} {s : Sample α}

/-- A sample against a tunnel address is brought as it was measured. -/
theorem mem_of_inner_sample?_report (h : (S.report observer nodes).sample? .inner d = some s) :
    S.sample? .inner observer d = some s ∧ ∃ n ∈ nodes, n.id = d := by
  obtain ⟨⟨d', s'⟩, hlast, rfl⟩ := Option.map_eq_some_iff.mp h
  obtain ⟨hmem, rfl⟩ := Map.lastWith_eq_some hlast
  obtain ⟨ip, n, hheard, rfl⟩ := (S.mem_innerSamples_report observer nodes).mp hmem
  obtain ⟨hn, hs⟩ := (S.mem_innerOf observer nodes).mp (Map.lastWith_eq_some hheard).1
  exact ⟨hs, n, hn, rfl⟩

/-- **Of the nodes that are heard at some address the samples are brought, of others none.** -/
theorem inner_sample?_report_eq_some :
    (S.report observer nodes).sample? .inner d = some s ↔
      S.sample? .inner observer d = some s ∧
        ∃ ip n, S.heardAt observer nodes ip = some (n, s) ∧ n.id = d := by
  constructor
  · intro h
    obtain ⟨⟨d', s'⟩, hlast, rfl⟩ := Option.map_eq_some_iff.mp h
    obtain ⟨hmem, rfl⟩ := Map.lastWith_eq_some hlast
    exact ⟨(mem_of_inner_sample?_report h).1, (S.mem_innerSamples_report observer nodes).mp hmem⟩
  · rintro ⟨hs, hheard⟩
    have hmem := (S.mem_innerSamples_report observer nodes).mpr hheard
    obtain ⟨e, he⟩ := Option.isSome_iff_exists.mp
      (Map.lastWith_isSome.mpr (List.mem_map_of_mem (f := Prod.fst) hmem))
    have hbrought : (S.report observer nodes).sample? .inner d = some e.2 :=
      Option.map_eq_some_iff.mpr ⟨e, he, rfl⟩
    rw [hbrought, ← (mem_of_inner_sample?_report hbrought).1, hs]

/-- At the address of a listed node with a sample some such node is heard. -/
theorem exists_heardAt {n : Node} (hn : n ∈ nodes) (hs : S.sample? .inner observer n.id = some s) :
    ∃ n' s', S.heardAt observer nodes n.address.address = some (n', s') ∧ n' ∈ nodes ∧
      n'.address.address = n.address.address ∧ S.sample? .inner observer n'.id = some s' := by
  have hmem := List.mem_map_of_mem (f := fun e : Node × Sample α => e.1.address.address)
    ((S.mem_innerOf observer nodes).mpr ⟨hn, hs⟩)
  obtain ⟨⟨n', s'⟩, hheard⟩ := Option.isSome_iff_exists.mp (Map.lastWith_isSome.mpr hmem)
  obtain ⟨hmem', haddress⟩ := Map.lastWith_eq_some hheard
  obtain ⟨hn', hs'⟩ := (S.mem_innerOf observer nodes).mp hmem'
  exact ⟨n', s', hheard, hn', haddress, hs'⟩

/-! ### From one node to another -/

/-- What measurements `T` are, as `T'`, after a report that an observer made from `S` for a list of
nodes. -/
structure Carried (S T : Measurements α) (observer : NodeId) (nodes : List Node)
    (T' : Measurements α) : Prop where
  endpoint : ∀ d, T'.sample? .endpoint observer d =
    (S.sample? .endpoint observer d).or (T.sample? .endpoint observer d)
  snapshot : T'.snapshots[observer]? = S.snapshots[observer]?.or T.snapshots[observer]?
  /-- A listed node was measured, and so was no other one listed with its tunnel address. -/
  inner : ∀ n ∈ nodes, ∀ s, S.sample? .inner observer n.id = some s →
    (∀ n' ∈ nodes, n'.address.address = n.address.address →
      S.sample? .inner observer n'.id ≠ none → n'.id = n.id) →
    T'.sample? .inner observer n.id = some s
  /-- A node was not measured, or is not listed. -/
  inner_kept : ∀ d, S.sample? .inner observer d = none ∨ (∀ n ∈ nodes, n.id ≠ d) →
    T'.sample? .inner observer d = T.sample? .inner observer d
  others : ∀ a, a ≠ observer → ∀ kind d, T'.sample? kind a d = T.sample? kind a d
  others_snapshot : ∀ a, a ≠ observer → T'.snapshots[a]? = T.snapshots[a]?

theorem carried_applyReport (S T : Measurements α) (observer : NodeId) (nodes : List Node) :
    Carried S T observer nodes (T.applyReport (S.report observer nodes)) := by
  have hown : ∀ kind d, (T.applyReport (S.report observer nodes)).sample? kind observer d =
      ((S.report observer nodes).sample? kind d).or (T.sample? kind observer d) := by
    intro kind d
    rw [sample?_applyReport]
    exact if_pos rfl
  constructor
  case endpoint =>
    intro d
    rw [hown, endpoint_sample?_report]
  case snapshot =>
    rw [getElem?_snapshots_applyReport]
    exact if_pos rfl
  case inner =>
    intro n hn s hs hunshared
    obtain ⟨n', s', hheard, hn', haddress, hs'⟩ := exists_heardAt hn hs
    have hid : n'.id = n.id := hunshared n' hn' haddress (by simp [hs'])
    rw [hid, hs, Option.some.injEq] at hs'
    subst hs'
    rw [hown, inner_sample?_report_eq_some.mpr ⟨hs, _, n', hheard, hid⟩, Option.some_or]
  case inner_kept =>
    intro d hmissing
    cases hbrought : (S.report observer nodes).sample? .inner d with
    | none => rw [hown, hbrought, Option.none_or]
    | some s =>
        obtain ⟨hs, n, hn, hid⟩ := mem_of_inner_sample?_report hbrought
        rcases hmissing with hnone | hunlisted
        · rw [hnone] at hs
          cases hs
        · exact absurd hid (hunlisted n hn)
  case others =>
    intro a ha kind d
    rw [sample?_applyReport]
    exact if_neg (Ne.symm ha)
  case others_snapshot =>
    intro a ha
    rw [getElem?_snapshots_applyReport]
    exact if_neg (Ne.symm ha)

/-- What it comes to that nodes report to each other. -/
structure Reportable (α : Type) : Prop where
  /-- A report brings what its sender observed. -/
  carried : ∀ (S T : Measurements α) (observer : NodeId) (nodes : List Node),
    Carried S T observer nodes (T.applyReport (S.report observer nodes))
  /-- Any report may come twice. -/
  again : ∀ (m : Measurements α) (r : Report α), (m.applyReport r).applyReport r = m.applyReport r
  /-- Reports of different senders may come in either order. -/
  either : ∀ (m : Measurements α) (r r' : Report α), r.nodeId ≠ r'.nodeId →
    (m.applyReport r).applyReport r' = (m.applyReport r').applyReport r

/-- **Measurements can be reported.** -/
theorem reportable (α : Type) : Reportable α where
  carried := carried_applyReport
  again := applyReport_applyReport_self
  either m _ _ h := applyReport_comm m h

/-- Of two nodes at one tunnel address the second one is heard. -/
example (key : PublicKey) :
    let nodes := [Node.new ⟨2⟩ key (.host (.v4 ⟨1⟩)), Node.new ⟨3⟩ key (.host (.v4 ⟨1⟩))]
    let S := ((empty : Measurements Nat).record ⟨1⟩ ⟨2⟩ .inner (.measured 5)).record ⟨1⟩ ⟨3⟩ .inner
      (.measured 7)
    let T := (empty : Measurements Nat).applyReport (S.report ⟨1⟩ nodes)
    T.sample? .inner ⟨1⟩ ⟨2⟩ = none ∧ T.sample? .inner ⟨1⟩ ⟨3⟩ = some (.measured 7) := by
  constructor <;> cbv

end Measurements

end TunnelMesh
