/-
What recording results leaves behind.

Results are recorded one after the other, each with the samples that it has.  A pair of
nodes keeps what it had unless the local node got a sample of the other one.  Where the
results are about different nodes, what is left does not depend on their order.
-/
import Mathlib.Data.List.Induction
import TunnelMesh.Probe.Prober
import TunnelMesh.Proofs.Mesh.Measurement

namespace TunnelMesh

namespace ProbeOutcome

variable {m : Measurements Float} {n a b : NodeId} {o : ProbeOutcome} {os : List ProbeOutcome}

/-- The sample of a kind that a result has. -/
def sample? (o : ProbeOutcome) : ProbeKind → Option (Sample Float)
  | .endpoint => o.endpoint.map Sample.ofRoundTrip
  | .inner => o.inner.map Sample.ofRoundTrip

/-- Records results in the order in which they came. -/
def recordAll (m : Measurements Float) (n : NodeId) (os : List ProbeOutcome) :
    Measurements Float :=
  os.foldl (fun m o => o.record m n) m

theorem recordAll_concat (m : Measurements Float) (n : NodeId) (os : List ProbeOutcome)
    (o : ProbeOutcome) : recordAll m n (os ++ [o]) = o.record (recordAll m n os) n := by
  rw [recordAll, List.foldl_append]
  rfl

/-! ### One result -/

theorem sample?_recordSample (m : Measurements Float) (n dest : NodeId) (kind kind' : ProbeKind)
    (r : Option (Option Duration)) (a b : NodeId) :
    (recordSample m n dest kind r).sample? kind' a b =
      if kind = kind' ∧ n = a ∧ dest = b then (r.map Sample.ofRoundTrip).or (m.sample? kind' a b)
      else m.sample? kind' a b := by
  cases r with
  | none => simp [recordSample]
  | some rtt => simp [recordSample, Measurements.sample?_record]

theorem sample?_record (o : ProbeOutcome) (m : Measurements Float) (n a b : NodeId)
    (kind : ProbeKind) :
    (o.record m n).sample? kind a b =
      if n = a ∧ o.nodeId = b then (o.sample? kind).or (m.sample? kind a b)
      else m.sample? kind a b := by
  rw [record, sample?_recordSample, sample?_recordSample]
  cases kind with
  | endpoint => simp [sample?]
  | inner => simp [sample?]

theorem snapshots_recordSample (m : Measurements Float) (n dest : NodeId) (kind : ProbeKind)
    (r : Option (Option Duration)) : (recordSample m n dest kind r).snapshots = m.snapshots := by
  cases r with
  | none => rfl
  | some rtt => simp [recordSample]

@[simp]
theorem snapshots_record (o : ProbeOutcome) (m : Measurements Float) (n : NodeId) :
    (o.record m n).snapshots = m.snapshots := by
  rw [record, snapshots_recordSample, snapshots_recordSample]

/-! ### Several results -/

theorem snapshots_recordAll (m : Measurements Float) (n : NodeId) (os : List ProbeOutcome) :
    (recordAll m n os).snapshots = m.snapshots := by
  induction os using List.reverseRecOn with
  | nil => rfl
  | append_singleton os o ih => rw [recordAll_concat, snapshots_record, ih]

theorem sample?_recordAll_of_forall_ne (h : n = a → ∀ o ∈ os, o.nodeId ≠ b) (kind : ProbeKind) :
    (recordAll m n os).sample? kind a b = m.sample? kind a b := by
  induction os using List.reverseRecOn with
  | nil => rfl
  | append_singleton os o ih =>
      rw [recordAll_concat, sample?_record, if_neg]
      · exact ih fun ha o ho => h ha o (List.mem_append_left _ ho)
      · rintro ⟨ha, hb⟩
        exact h ha o (by simp) hb

theorem sample?_recordAll_of_mem (hnodup : (os.map (·.nodeId)).Nodup) (ho : o ∈ os)
    (kind : ProbeKind) :
    (recordAll m n os).sample? kind n o.nodeId =
      (o.sample? kind).or (m.sample? kind n o.nodeId) := by
  induction os using List.reverseRecOn with
  | nil => cases ho
  | append_singleton os o' ih =>
      rw [List.map_append, List.nodup_append] at hnodup
      obtain ⟨hnodup, -, hdisjoint⟩ := hnodup
      have hne : ∀ p ∈ os, p.nodeId ≠ o'.nodeId := fun p hp =>
        hdisjoint _ (List.mem_map_of_mem hp) _ (by simp)
      rw [recordAll_concat, sample?_record]
      obtain ho | rfl : o ∈ os ∨ o = o' := by simpa using ho
      · rw [if_neg fun h => hne o ho h.2.symm]
        exact ih hnodup ho
      · rw [if_pos ⟨rfl, rfl⟩, sample?_recordAll_of_forall_ne fun _ => hne]

/-- A node of which there is a result against its endpoint has the sample of such a result. -/
theorem exists_mem_sample?_recordAll (ho : o ∈ os) (hendpoint : o.endpoint ≠ none) :
    ∃ o' ∈ os, o'.nodeId = o.nodeId ∧ ∃ rtt, o'.endpoint = some rtt ∧
      (recordAll m n os).sample? .endpoint n o.nodeId = some (.ofRoundTrip rtt) := by
  induction os using List.reverseRecOn with
  | nil => cases ho
  | append_singleton os o' ih =>
      rw [recordAll_concat, sample?_record]
      -- The last result with that node counts, if it is about the endpoint at all.
      by_cases hlast : o'.nodeId = o.nodeId ∧ o'.endpoint ≠ none
      · obtain ⟨rtt, hrtt⟩ := Option.ne_none_iff_exists'.mp hlast.2
        refine ⟨o', by simp, hlast.1, rtt, hrtt, ?_⟩
        rw [if_pos ⟨rfl, hlast.1⟩, sample?, hrtt]
        rfl
      · have hmem : o ∈ os := by
          rcases List.mem_append.mp ho with hmem | hmem
          · exact hmem
          · exact absurd ⟨by rw [List.mem_singleton.mp hmem], List.mem_singleton.mp hmem ▸ hendpoint⟩
              hlast
        obtain ⟨p, hp, hid, rtt, hrtt, hsample⟩ := ih hmem
        refine ⟨p, List.mem_append_left _ hp, hid, rtt, hrtt, ?_⟩
        split
        · rename_i hsame
          have hnone : o'.endpoint = none := by
            by_contra hne
            exact hlast ⟨hsame.2, hne⟩
          rw [sample?, hnone]
          exact hsample
        · exact hsample

end ProbeOutcome

/-! ### Overlays -/

/-- Measurements that differ from earlier ones by the samples of results, and by nothing else. -/
structure Overlaid (m : Measurements Float) (n : NodeId) (os : List ProbeOutcome)
    (m' : Measurements Float) : Prop where
  /-- The node of a result has the samples of that result; one it does not have stays as it was. -/
  result : ∀ o ∈ os, ∀ kind,
    m'.sample? kind n o.nodeId = (o.sample? kind).or (m.sample? kind n o.nodeId)
  /-- Other pairs of nodes, those with another observer among them, have what they had. -/
  others : ∀ a b, (n = a → ∀ o ∈ os, o.nodeId ≠ b) → ∀ kind,
    m'.sample? kind a b = m.sample? kind a b
  snapshots : m'.snapshots = m.snapshots

namespace Overlaid

variable {m m₁ m₂ : Measurements Float} {n : NodeId} {os os' : List ProbeOutcome}

theorem recordAll (hnodup : (os.map (·.nodeId)).Nodup) :
    Overlaid m n os (ProbeOutcome.recordAll m n os) where
  result _ ho kind := ProbeOutcome.sample?_recordAll_of_mem hnodup ho kind
  others _ _ h kind := ProbeOutcome.sample?_recordAll_of_forall_ne h kind
  snapshots := ProbeOutcome.snapshots_recordAll m n os

/-- The same results leave the same measurements, in whichever order they were recorded. -/
theorem unique (h₁ : Overlaid m n os m₁) (h₂ : Overlaid m n os' m₂)
    (hmem : ∀ o, o ∈ os ↔ o ∈ os') : m₁ = m₂ := by
  refine Measurements.ext_of_sample? ?_ (h₁.snapshots.trans h₂.snapshots.symm)
  intro kind a b
  by_cases h : ∃ o ∈ os, n = a ∧ o.nodeId = b
  · obtain ⟨o, ho, rfl, rfl⟩ := h
    rw [h₁.result o ho, h₂.result o ((hmem o).mp ho)]
  · have hne : n = a → ∀ o ∈ os, o.nodeId ≠ b := fun ha o ho hb => h ⟨o, ho, ha, hb⟩
    rw [h₁.others a b hne, h₂.others a b fun ha o ho => hne ha o ((hmem o).mpr ho)]

theorem perm (h : Overlaid m n os m₁) (hperm : os.Perm os') : Overlaid m n os' m₁ where
  result o ho := h.result o (hperm.mem_iff.mpr ho)
  others a b hne := h.others a b fun ha o ho => hne ha o (hperm.mem_iff.mp ho)
  snapshots := h.snapshots

end Overlaid

end TunnelMesh
