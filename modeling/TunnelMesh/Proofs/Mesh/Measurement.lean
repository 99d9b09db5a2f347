/-
Measurements seen through single samples and snapshots.

Measurements are what they hold for every pair of nodes and every node, so each operation
is described by what one finds there afterwards.  Recording changes one pair of one kind.
Forgetting a node takes away what it measured, what was measured of it and its snapshot;
forgetting several, one after the other, takes away what has any of them in it.
-/
import TunnelMesh.Mesh.Measurement
import TunnelMesh.Proofs.Map

namespace TunnelMesh.Measurements

variable {α : Type}

/-- Measurements are what they hold for every pair of nodes, and their snapshots. -/
theorem ext_of_sample? {m m' : Measurements α}
    (hsample : ∀ kind a b, m.sample? kind a b = m'.sample? kind a b)
    (hsnapshots : m.snapshots = m'.snapshots) : m = m' := by
  have hkind : ∀ kind, m.samples kind = m'.samples kind := fun kind =>
    Std.ExtTreeMap.ext_getElem? fun d => hsample kind d.observer d.dest
  obtain ⟨endpoint, inner, snapshots⟩ := m
  obtain ⟨endpoint', inner', snapshots'⟩ := m'
  obtain rfl : endpoint = endpoint' := hkind .endpoint
  obtain rfl : inner = inner' := hkind .inner
  obtain rfl : snapshots = snapshots' := hsnapshots
  rfl

/-! ### Recording -/

theorem sample?_record (m : Measurements α) (observer dest a b : NodeId) (kind kind' : ProbeKind)
    (s : Sample α) :
    (m.record observer dest kind s).sample? kind' a b =
      if kind = kind' ∧ observer = a ∧ dest = b then some s else m.sample? kind' a b := by
  cases kind with
  | endpoint =>
      cases kind' with
      | endpoint => simp [record, sample?, samples, Map.getElem?_insert]
      | inner => simp [record, sample?, samples]
  | inner =>
      cases kind' with
      | endpoint => simp [record, sample?, samples]
      | inner => simp [record, sample?, samples, Map.getElem?_insert]

@[simp]
theorem snapshots_record (m : Measurements α) (observer dest : NodeId) (kind : ProbeKind)
    (s : Sample α) : (m.record observer dest kind s).snapshots = m.snapshots := by
  cases kind <;> rfl

/-! ### Forgetting -/

theorem getElem?_without (samples : Samples α) (n a b : NodeId) :
    (without samples n)[Direction.mk a b]? =
      if a = n ∨ b = n then none else samples[Direction.mk a b]? := by
  rw [without, Std.ExtTreeMap.getElem?_filter']
  split
  · rename_i h
    rcases h with rfl | rfl <;> simp
  · rename_i h
    rw [not_or] at h
    have hkeep : (a != n && b != n) = true := by simp [h.1, h.2]
    cases samples[Direction.mk a b]? with
    | none => rfl
    | some s => rw [Option.filter_some, if_pos hkeep]

theorem sample?_removeNode (m : Measurements α) (n a b : NodeId) (kind : ProbeKind) :
    (m.removeNode n).sample? kind a b = if a = n ∨ b = n then none else m.sample? kind a b := by
  cases kind with
  | endpoint => exact getElem?_without m.endpoint n a b
  | inner => exact getElem?_without m.inner n a b

theorem getElem?_snapshots_removeNode (m : Measurements α) (n a : NodeId) :
    (m.removeNode n).snapshots[a]? = if n = a then none else m.snapshots[a]? :=
  Map.getElem?_erase m.snapshots n a

theorem sample?_foldl_removeNode (ids : List NodeId) (m : Measurements α) (a b : NodeId)
    (kind : ProbeKind) :
    (ids.foldl removeNode m).sample? kind a b =
      if a ∈ ids ∨ b ∈ ids then none else m.sample? kind a b := by
  induction ids generalizing m with
  | nil => simp
  | cons n ids ih =>
      rw [List.foldl_cons, ih, sample?_removeNode]
      by_cases h : a = n ∨ b = n
      · rcases h with rfl | rfl <;> simp
      · rw [not_or] at h
        simp [h.1, h.2]

theorem getElem?_snapshots_foldl_removeNode (ids : List NodeId) (m : Measurements α) (a : NodeId) :
    (ids.foldl removeNode m).snapshots[a]? = if a ∈ ids then none else m.snapshots[a]? := by
  induction ids generalizing m with
  | nil => simp
  | cons n ids ih =>
      rw [List.foldl_cons, ih, getElem?_snapshots_removeNode]
      by_cases h : n = a
      · simp [h]
      · simp [h, Ne.symm h]

end TunnelMesh.Measurements
