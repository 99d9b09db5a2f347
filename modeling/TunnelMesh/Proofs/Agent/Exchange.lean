/-
Reading the reports in a directory.

What a node hears depends on its own id and on its topology, and reading changes neither.
So reading files comes to taking over the reports that are heard, one after the other.
Where these have different senders, the files may be read in any order; and what the node
observed itself stays as it is, since it does not listen to reports in its own name.
-/
import TunnelMesh.Agent.Exchange
import TunnelMesh.Proofs.Mesh.Report

namespace TunnelMesh.Network

variable {n : Network} {file : String × String} {r : Report Float}

/-- The report in a file that a node listens to. -/
def heard? (n : Network) (file : String × String) : Option (Report Float) :=
  if n.isForeignReport file.1 then
    ((Json.ofText? file.2).bind Report.ofJson?).filter fun r => n.accepts r.nodeId
  else none

/-- A view with a report taken over. -/
def hear (n : Network) (r : Report Float) : Network :=
  { n with measured := n.measured.applyReport r }

theorem nodeId_ne_of_heard? (h : n.heard? file = some r) : r.nodeId ≠ n.nodeId := by
  unfold heard? at h
  split at h
  · have haccepts := (Option.filter_eq_some_iff.mp h).2
    simp only [accepts, Bool.and_eq_true, bne_iff_ne] at haccepts
    exact haccepts.1
  · cases h

theorem ingestFile_of_heard? {k : Nat} (h : n.heard? file = some r) :
    ingestFile (k, n) file = (k + 1, n.hear r) := by
  unfold heard? at h
  split at h
  · rename_i hforeign
    obtain ⟨hreads, haccepts⟩ := Option.filter_eq_some_iff.mp h
    rw [ingestFile, if_pos hforeign, hreads]
    simp [ingest, haccepts, hear]
  · cases h

theorem ingestFile_of_not_heard? {k : Nat} (h : n.heard? file = none) :
    ingestFile (k, n) file = (k, n) := by
  unfold heard? at h
  split at h
  · rename_i hforeign
    rw [ingestFile, if_pos hforeign]
    cases hreads : (Json.ofText? file.2).bind Report.ofJson? with
    | none => rfl
    | some r =>
        have haccepts : n.accepts r.nodeId = false := by simpa [hreads] using h
        simp [ingest, haccepts]
  · rename_i hforeign
    rw [ingestFile, if_neg hforeign]

/-- **Reading files takes over what is heard of them, and counts it.** -/
theorem foldl_ingestFile (files : List (String × String)) (k : Nat) (n : Network) :
    files.foldl ingestFile (k, n) =
      (k + (files.filterMap n.heard?).length, (files.filterMap n.heard?).foldl hear n) := by
  induction files generalizing k n with
  | nil => rfl
  | cons file files ih =>
      rw [List.foldl_cons]
      cases hheard : n.heard? file with
      | none => rw [ingestFile_of_not_heard? hheard, ih, List.filterMap_cons_none hheard]
      | some r =>
          -- What was heard does not change what is listened to.
          have hsame : (n.hear r).heard? = n.heard? := rfl
          rw [ingestFile_of_heard? hheard, ih, List.filterMap_cons_some hheard, hsame,
            List.length_cons, List.foldl_cons, Nat.add_assoc, Nat.add_comm 1]

theorem foldl_hear (rs : List (Report Float)) (n : Network) :
    rs.foldl hear n = { n with measured := rs.foldl Measurements.applyReport n.measured } := by
  induction rs generalizing n with
  | nil => rfl
  | cons r rs ih => rw [List.foldl_cons, ih, List.foldl_cons, hear]

/-- **Files with reports of different senders may be read in any order.** -/
theorem foldl_ingestFile_perm {files files' : List (String × String)} (h : files.Perm files')
    (hnodup : ((files.filterMap n.heard?).map Report.nodeId).Nodup) (k : Nat) :
    files.foldl ingestFile (k, n) = files'.foldl ingestFile (k, n) := by
  have hheard := h.filterMap n.heard?
  rw [foldl_ingestFile, foldl_ingestFile, foldl_hear, foldl_hear, hheard.length_eq,
    Measurements.foldl_applyReport_perm hheard hnodup]

/-- **Whatever is in the directory, a node keeps what it observed itself.** -/
theorem sample?_foldl_ingestFile (files : List (String × String)) (k : Nat) (n : Network)
    (kind : ProbeKind) (d : NodeId) :
    (files.foldl ingestFile (k, n)).2.measured.sample? kind n.nodeId d =
      n.measured.sample? kind n.nodeId d := by
  have hothers : ∀ r ∈ files.filterMap n.heard?, r.nodeId ≠ n.nodeId := by
    intro r hr
    obtain ⟨file, -, hheard⟩ := List.mem_filterMap.mp hr
    exact nodeId_ne_of_heard? hheard
  rw [foldl_ingestFile, foldl_hear]
  exact Measurements.sample?_foldl_applyReport_of_forall_ne hothers kind d

end TunnelMesh.Network
