/-
Taking a new topology over.

The checks come first and change nothing, so a topology that is refused leaves the view as
it was.  A topology is accepted if its ids are distinct, no endpoint has a fault and the
node itself is listed.  Then what was measured is forgotten for one node after the other
that the old topology has and the new one leaves out.  What concerns no such node stays,
whether its nodes are in a topology or not.
-/
import TunnelMesh.Agent.Network
import TunnelMesh.Proofs.Mesh.Measurement

namespace TunnelMesh

/-! ### Steps that can fail -/

namespace NetworkM

variable {α β : Type} {x : NetworkM α} {f : α → NetworkM β} {n n' : Network}

theorem runOn_bind_of_ok {a : α} (h : x.runOn n = (.ok a, n')) :
    (x >>= f).runOn n = (f a).runOn n' := by
  have hrun : x.run.run n = pure (.ok a, n') := h
  rw [runOn, ExceptT.run_bind, StateT.run_bind, hrun, pure_bind]
  rfl

theorem runOn_bind_of_error {e : AgentError} (h : x.runOn n = (.error e, n')) :
    (x >>= f).runOn n = (.error e, n') := by
  have hrun : x.run.run n = pure (.error e, n') := h
  rw [runOn, ExceptT.run_bind, StateT.run_bind, hrun, pure_bind]
  rfl

theorem runOn_modify (g : Network → Network) :
    (modify g : NetworkM Unit).runOn n = (.ok (), g n) := rfl

end NetworkM

/-! ### Valid topologies -/

namespace Topology

variable {α : Type}

/-- Ids are distinct, and endpoints are without faults. -/
structure Valid (t : Topology α) : Prop where
  nodup : (t.nodes.map Node.id).Nodup
  endpoints : ∀ x ∈ t.nodes, ∀ e ∈ x.endpoints, e.fault? = none

theorem firstFault_eq_none {seen : List NodeId} {nodes : List Node} :
    firstFault seen nodes = none ↔
      (nodes.map Node.id).Nodup ∧ (∀ x ∈ nodes, x.id ∉ seen) ∧
        ∀ x ∈ nodes, ∀ e ∈ x.endpoints, e.fault? = none := by
  induction nodes generalizing seen with
  | nil => simp [firstFault]
  | cons x rest ih =>
      rw [firstFault]
      split
      · rename_i hseen
        rw [List.contains_iff_mem] at hseen
        simp [hseen]
      · rename_i hseen
        rw [List.contains_iff_mem] at hseen
        split
        · rename_i fault hfault
          obtain ⟨e, he, hfault⟩ := List.exists_of_findSome?_eq_some hfault
          simp only [reduceCtorEq, false_iff]
          rintro ⟨-, -, hall⟩
          have hnone := hall x List.mem_cons_self e he
          rw [hfault] at hnone
          cases hnone
        · rename_i hclean
          rw [List.findSome?_eq_none_iff] at hclean
          rw [ih]
          simp only [List.map_cons, List.nodup_cons, List.mem_cons, forall_eq_or_imp, not_or,
            List.mem_map, not_exists, not_and]
          grind

theorem validate_eq_ok {t : Topology α} : t.validate = .ok () ↔ t.Valid := by
  have hfault : t.validate = .ok () ↔ firstFault [] t.nodes = none := by
    rw [validate]
    cases firstFault [] t.nodes <;> simp
  rw [hfault, firstFault_eq_none]
  constructor
  · rintro ⟨hnodup, -, hendpoints⟩
    exact ⟨hnodup, hendpoints⟩
  · rintro ⟨hnodup, hendpoints⟩
    exact ⟨hnodup, by simp, hendpoints⟩

theorem isSome_node? {t : Topology α} {id : NodeId} :
    (t.node? id).isSome = true ↔ ∃ x ∈ t.nodes, x.id = id := by
  simp [node?, List.find?_isSome]

end Topology

namespace Network

variable {n : Network} {t : Topology Float} {id : NodeId}

/-! ### Checking -/

/-- A check leaves the view as it is. -/
theorem runOn_require (n : Network) (t : Topology Float) :
    ∃ r, (require t).runOn n = (r, n) ∧
      (r = .ok () ↔ t.Valid ∧ ∃ x ∈ t.nodes, x.id = n.nodeId) := by
  rw [← Topology.validate_eq_ok, ← Topology.isSome_node?, require]
  cases hvalid : t.validate with
  | error f => exact ⟨_, rfl, by simp⟩
  | ok _ =>
      dsimp only
      rw [NetworkM.runOn_bind_of_ok (rfl : (get : NetworkM Network).runOn n = (.ok n, n))]
      cases hnode : t.node? n.nodeId with
      | none => exact ⟨_, rfl, by simp⟩
      | some x => exact ⟨_, rfl, by simp⟩

/-! ### Forgetting -/

theorem runOn_forget (ids : List NodeId) (n : Network) :
    (forget ids).runOn n =
      (.ok (), { n with measured := ids.foldl Measurements.removeNode n.measured }) := by
  induction ids generalizing n with
  | nil => rfl
  | cons id ids ih =>
      rw [forget, List.forM, NetworkM.runOn_bind_of_ok (NetworkM.runOn_modify _)]
      exact ih _

/-- A node of the old topology that the new one leaves out. -/
def Departed (old new : Topology Float) (id : NodeId) : Prop :=
  (∃ x ∈ old.nodes, x.id = id) ∧ ∀ x ∈ new.nodes, x.id ≠ id

theorem mem_removed {old new : Topology Float} : id ∈ removed old new ↔ Departed old new id := by
  simp [removed, Departed]

/-! ### Taking over -/

/-- What a view is after it took a topology over. -/
structure TookOver (n : Network) (t : Topology Float) (n' : Network) : Prop where
  nodeId : n'.nodeId = n.nodeId
  policy : n'.policy = n.policy
  topology : n'.topology = t
  rules : n'.access.rules = t.rules
  /-- No sample has a departed node in it. -/
  forgot : ∀ a b, Departed n.topology t a ∨ Departed n.topology t b →
    ∀ kind, n'.measured.sample? kind a b = none
  forgot_snapshot : ∀ a, Departed n.topology t a → n'.measured.snapshots[a]? = none
  /-- All other samples stay. -/
  kept : ∀ a b, ¬Departed n.topology t a → ¬Departed n.topology t b →
    ∀ kind, n'.measured.sample? kind a b = n.measured.sample? kind a b
  kept_snapshot : ∀ a, ¬Departed n.topology t a →
    n'.measured.snapshots[a]? = n.measured.snapshots[a]?

theorem runOn_adopt (n : Network) (t : Topology Float) :
    (adopt t).runOn n =
      (.ok (), { n with
        access := ⟨t.rules⟩
        topology := t
        measured := (removed n.topology t).foldl Measurements.removeNode n.measured }) := by
  rw [adopt, NetworkM.runOn_bind_of_ok (rfl : (get : NetworkM Network).runOn n = (.ok n, n)),
    NetworkM.runOn_bind_of_ok (runOn_forget _ n),
    NetworkM.runOn_bind_of_ok (NetworkM.runOn_modify _), NetworkM.runOn_modify]

theorem tookOver_adopt (n : Network) (t : Topology Float) :
    TookOver n t ((adopt t).runOn n).2 := by
  rw [runOn_adopt]
  constructor
  case nodeId => rfl
  case policy => rfl
  case topology => rfl
  case rules => rfl
  case forgot =>
    intro a b hgone kind
    rw [Measurements.sample?_foldl_removeNode, if_pos]
    exact hgone.imp mem_removed.mpr mem_removed.mpr
  case forgot_snapshot =>
    intro a hgone
    rw [Measurements.getElem?_snapshots_foldl_removeNode, if_pos (mem_removed.mpr hgone)]
  case kept =>
    intro a b ha hb kind
    rw [Measurements.sample?_foldl_removeNode, if_neg]
    rintro (hmem | hmem)
    · exact ha (mem_removed.mp hmem)
    · exact hb (mem_removed.mp hmem)
  case kept_snapshot =>
    intro a ha
    rw [Measurements.getElem?_snapshots_foldl_removeNode, if_neg fun h => ha (mem_removed.mp h)]

/-- Either a check fails and nothing happens, or the topology is adopted. -/
theorem load_cases (n : Network) (t : Topology Float) :
    (¬(t.Valid ∧ ∃ x ∈ t.nodes, x.id = n.nodeId) ∧ ∃ e, (load t).runOn n = (.error e, n)) ∨
      ((t.Valid ∧ ∃ x ∈ t.nodes, x.id = n.nodeId) ∧
        (load t).runOn n = (.ok (), ((adopt t).runOn n).2)) := by
  obtain ⟨r, hrequire, hok⟩ := runOn_require n t
  rw [← hok, load]
  cases r with
  | error e => exact .inl ⟨nofun, e, NetworkM.runOn_bind_of_error hrequire⟩
  | ok _ =>
      refine .inr ⟨rfl, ?_⟩
      rw [NetworkM.runOn_bind_of_ok hrequire, runOn_adopt]

/-- What a view is after a topology was loaded, and what the answer is. -/
structure AllOrNothing (n : Network) (t : Topology Float) (answer : Except AgentError Unit)
    (n' : Network) : Prop where
  accepted_iff : answer = .ok () ↔ t.Valid ∧ ∃ x ∈ t.nodes, x.id = n.nodeId
  all : answer = .ok () → TookOver n t n'
  nothing : ∀ e, answer = .error e → n' = n

/-- **A topology is taken over as a whole or not at all.** -/
theorem allOrNothing_load (n : Network) (t : Topology Float) :
    AllOrNothing n t ((load t).runOn n).1 ((load t).runOn n).2 := by
  rcases load_cases n t with ⟨hrefused, e, hload⟩ | ⟨haccepted, hload⟩
  · rw [hload]
    exact ⟨iff_of_false nofun hrefused, nofun, fun _ _ => rfl⟩
  · rw [hload]
    exact ⟨iff_of_true rfl haccepted, fun _ => tookOver_adopt n t, nofun⟩

/-- A file that cannot be read, does not read as a topology or holds one that is refused changes
nothing. -/
theorem eq_of_runOn_loadFile_eq_error {path : String} {text : Option String} {e : AgentError}
    {n n' : Network} (h : (loadFile path text).runOn n = (.error e, n')) : n' = n := by
  unfold loadFile at h
  split at h
  · exact (Prod.mk.inj h).2.symm
  · split at h
    · exact (Prod.mk.inj h).2.symm
    · rename_i t _
      rcases load_cases n t with ⟨-, e', hload⟩ | ⟨-, hload⟩
      · rw [hload] at h
        exact (Prod.mk.inj h).2.symm
      · rw [hload] at h
        cases h

end Network

end TunnelMesh
