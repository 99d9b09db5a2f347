/-
The rules of a host keep step with the subnets that a firewall tracks.

Whatever is asked of a firewall and whatever rules an earlier one left, an interface
whose subnet is tracked has both its rules, once each.  An interface whose subnet is
not tracked any more has none, and rules of others stay where they are.

The invariant behind it: once a subnet was asked for, its rules are on the host as long
as it is tracked.  A rule found on the host is taken over, not added again; it belongs
to one interface and one subnet, so deleting it takes nothing away from another.
-/
import Mathlib.Data.List.Induction
import TunnelMesh.Proofs.Host.RuleTable
import TunnelMesh.Proofs.Map

namespace TunnelMesh.Host.Firewall

open Net

/-! ### Calls -/

/-- A call of a firewall. -/
inductive Call where
  | ensure (iface : String) (subnet : Subnet)
  | cleanup (iface : String)

namespace Call

/-- The interface that a call is about. -/
def iface : Call → String
  | ensure i _ => i
  | cleanup i => i

/-- The subnet that a call asks for. -/
def subnet? : Call → Option Subnet
  | ensure _ n => some n
  | cleanup _ => none

/-- The rules that a call asks for. -/
def entries : Call → List Entry
  | ensure i n => Firewall.entries i n
  | cleanup _ => []

/-- A firewall and its host after a call. -/
def apply (s : Firewall × RuleTable) : Call → Firewall × RuleTable
  | ensure i n => (s.1.ensure s.2 i n).2
  | cleanup i => s.1.cleanup s.2 i

end Call

/-- A new firewall and a host after calls. -/
def run (start : RuleTable) (calls : List Call) : Firewall × RuleTable :=
  calls.foldl Call.apply (empty true, start)

/-- The subnet that an interface should have after calls: the one asked for last, if its name
can be an argument at all. -/
def wanted (calls : List Call) (i : String) : Option Subnet :=
  if Command.admits i then (Map.lastWith Call.iface i calls).bind Call.subnet? else none

/-- The rules of a host that no call asked for. -/
def others (calls : List Call) (t : RuleTable) : List Entry :=
  t.rules.filter fun e => !(calls.flatMap Call.entries).contains e

theorem run_concat (start : RuleTable) (calls : List Call) (c : Call) :
    run start (calls ++ [c]) = c.apply (run start calls) := by
  simp [run]

theorem wanted_concat (calls : List Call) (c : Call) (j : String) :
    wanted (calls ++ [c]) j =
      if c.iface = j then (if Command.admits j then c.subnet? else none) else wanted calls j := by
  rw [wanted, Map.lastWith_append]
  by_cases hj : c.iface = j <;> simp [Map.lastWith, hj, wanted]

theorem others_concat (calls : List Call) (c : Call) (t : RuleTable) :
    others (calls ++ [c]) t = (others calls t).filter fun e => !c.entries.contains e := by
  rw [others, others, List.filter_filter]
  congr 1
  funext e
  simp [Bool.and_comm]

/-! ### Single steps -/

/-- A subnet is not tracked any more, and its rules are gone. -/
def forget (s : Firewall × RuleTable) (i : String) (n : Subnet) : Firewall × RuleTable :=
  ({ s.1 with installed := s.1.installed.erase i }, (entries i n).foldl RuleTable.drop s.2)

/-- A subnet is tracked, and its rules are there. -/
def place (s : Firewall × RuleTable) (i : String) (n : Subnet) : Firewall × RuleTable :=
  ({ s.1 with installed := s.1.installed.insert i n }, (entries i n).foldl RuleTable.add s.2)

section

variable {fw : Firewall} {host : RuleTable} {i : String} {n : Subnet}

theorem retire_eq_self {ρ : Type} [Runner ρ] {host : ρ} {keep : Option Subnet}
    (h : ∀ m, fw.installed[i]? = some m → keep = some m) :
    fw.retire host i keep = (fw, host) := by
  unfold retire
  cases hold : fw.installed[i]? with
  | none => rfl
  | some m => exact if_pos (h m hold)

theorem retire_eq_forget {keep : Option Subnet} (hi : Command.admits i = true)
    (hold : fw.installed[i]? = some n) (hkeep : keep ≠ some n) :
    fw.retire host i keep = forget (fw, host) i n := by
  rw [retire, hold]
  dsimp only
  rw [if_neg hkeep, deleteRules_eq fun _ => admits_of_mem_forwardRules hi]
  rfl

theorem installed_retire (keep : Option Subnet) (j : String) :
    (fw.retire host i keep).1.installed[j]? =
      fw.installed[j]?.filter fun m => i ≠ j ∨ keep = some m := by
  by_cases hj : i = j
  · subst hj
    cases hold : fw.installed[i]? with
    | none => simp [retire, hold]
    | some m =>
        by_cases hkeep : keep = some m <;> simp [retire, hold, hkeep, Option.filter]
  · have hsame : (fw.retire host i keep).1.installed[j]? = fw.installed[j]? := by
      unfold retire
      split
      · rfl
      · split
        · rfl
        · exact (Map.getElem?_erase ..).trans (if_neg hj)
    rw [hsame]
    cases fw.installed[j]? <;> simp [hj, Option.filter]

/-- **An interface whose name can be an argument gets its rules.** -/
theorem ensure_eq_place (henabled : fw.enabled = true) (hi : Command.admits i = true) :
    fw.ensure host i n = (.ok (), place (fw.retire host i (some n)) i n) := by
  simp only [ensure, henabled, Bool.not_true, Bool.false_eq_true, if_false]
  rw [installRules_eq fun _ => admits_of_mem_forwardRules hi]
  rfl

/-- A rule that is there already is not added again. -/
example :
    let net : Subnet := ⟨.v4 (.ofOctets 10 8 0 0), 24, by decide⟩
    let left := (Program.iptables, ["FORWARD", "-i", "wm0", "-d", "10.8.0.0/24", "-j", "ACCEPT"])
    ((empty true).ensure (⟨[left]⟩ : RuleTable) "wm0" net).2.2.rules =
      [left, (.iptables, ["FORWARD", "-s", "10.8.0.0/24", "-o", "wm0", "-j", "ACCEPT"])] := rfl

/-- For another interface nothing happens. -/
theorem ensure_eq_self {ρ : Type} [Runner ρ] {host : ρ} (hi : Command.admits i = false)
    (hnone : fw.installed[i]? = none) : (fw.ensure host i n).2 = (fw, host) := by
  unfold ensure
  split
  · rfl
  · obtain ⟨e, he⟩ := exists_installRules_eq_error hi n host
    rw [retire_eq_self (by simp [hnone])]
    dsimp only
    rw [he]

theorem cleanup_eq_retire {ρ : Type} [Runner ρ] {host : ρ} (henabled : fw.enabled = true) :
    fw.cleanup host i = fw.retire host i none := by
  simp [cleanup, henabled]

end

/-! ### The invariant -/

/-- The host is in step with the firewall after calls. -/
structure InStep (start : RuleTable) (calls : List Call) (s : Firewall × RuleTable) : Prop where
  enabled : s.1.enabled = true
  nodup : s.2.rules.Nodup
  /-- What is tracked was asked for. -/
  asked : ∀ i n, s.1.installed[i]? = some n → .ensure i n ∈ calls ∧ Command.admits i = true
  /-- What was asked for is there as long as it is tracked. -/
  mem_iff : ∀ i n, .ensure i n ∈ calls → Command.admits i = true → ∀ e ∈ entries i n,
    (e ∈ s.2.rules ↔ s.1.installed[i]? = some n)
  others_eq : others calls s.2 = others calls start

namespace InStep

variable {start : RuleTable} {calls : List Call} {s : Firewall × RuleTable} {i : String} {n : Subnet}

theorem initial (h : start.rules.Nodup) : InStep start [] (empty true, start) where
  enabled := rfl
  nodup := h
  asked i n hn := by simp [empty] at hn
  mem_iff i n hmem := by simp at hmem
  others_eq := rfl

theorem forget (h : InStep start calls s) (hold : s.1.installed[i]? = some n) :
    InStep start calls (forget s i n) where
  enabled := h.enabled
  nodup := RuleTable.nodup_foldl_drop h.nodup
  asked j m hm := by
    simp only [Firewall.forget, Map.getElem?_erase] at hm
    split at hm
    · cases hm
    · exact h.asked j m hm
  mem_iff j m hmem hj e he := by
    simp only [Firewall.forget, Map.getElem?_erase]
    rw [RuleTable.mem_foldl_drop h.nodup, h.mem_iff j m hmem hj e he]
    by_cases hij : i = j
    · subst hij
      simp only [if_true, reduceCtorEq, iff_false, not_and, not_not]
      intro hm
      rw [hold] at hm
      exact Option.some.inj hm ▸ he
    · have hnot : e ∉ entries i n := fun hc => hij (eq_of_mem_entries hc he).1
      simp [hij, hnot]
  others_eq := by
    rw [← h.others_eq]
    refine RuleTable.filter_foldl_drop fun e he => ?_
    simpa using ⟨_, (h.asked i n hold).1, he⟩

/-- Rules are placed where no other subnet is tracked. -/
theorem place (h : InStep start calls s) (hi : Command.admits i = true)
    (hfree : ∀ m, s.1.installed[i]? = some m → m = n) :
    InStep start (calls ++ [.ensure i n]) (place s i n) where
  enabled := h.enabled
  nodup := RuleTable.nodup_foldl_add h.nodup
  asked j m hm := by
    simp only [Firewall.place, Map.getElem?_insert] at hm
    split at hm
    · rename_i hij
      subst hij
      cases hm
      exact ⟨by simp, hi⟩
    · obtain ⟨hmem, hj⟩ := h.asked j m hm
      exact ⟨List.mem_append_left _ hmem, hj⟩
  mem_iff j m hmem hj e he := by
    simp only [Firewall.place, Map.getElem?_insert]
    rw [RuleTable.mem_foldl_add]
    by_cases hnew : i = j ∧ n = m
    · obtain ⟨rfl, rfl⟩ := hnew
      simp [he]
    · have hnot : e ∉ entries i n := fun hc => hnew (eq_of_mem_entries hc he)
      have hbefore : .ensure j m ∈ calls := by
        rcases List.mem_append.mp hmem with hmem | hmem
        · exact hmem
        · simp only [List.mem_singleton, Call.ensure.injEq] at hmem
          exact absurd ⟨hmem.1.symm, hmem.2.symm⟩ hnew
      rw [h.mem_iff j m hbefore hj e he, or_iff_left hnot]
      by_cases hij : i = j
      · subst hij
        have hne : n ≠ m := fun hc => hnew ⟨rfl, hc⟩
        simp only [if_true, Option.some.injEq, hne, iff_false]
        intro hm
        exact hne (hfree m hm).symm
      · simp [hij]
  others_eq := by
    have hplaced : others (calls ++ [.ensure i n]) (Firewall.place s i n).2 =
        others (calls ++ [.ensure i n]) s.2 := by
      refine RuleTable.filter_foldl_add fun e he => ?_
      simp [Call.entries, he]
    rw [hplaced, others_concat, others_concat, h.others_eq]

/-- A call that places nothing. -/
theorem concat (h : InStep start calls s) {c : Call}
    (hc : ∀ i n, c = .ensure i n → Command.admits i = false) : InStep start (calls ++ [c]) s where
  enabled := h.enabled
  nodup := h.nodup
  asked j m hm := by
    obtain ⟨hmem, hj⟩ := h.asked j m hm
    exact ⟨List.mem_append_left _ hmem, hj⟩
  mem_iff j m hmem hj := by
    rcases List.mem_append.mp hmem with hmem | hmem
    · exact h.mem_iff j m hmem hj
    · rw [hc j m (List.mem_singleton.mp hmem).symm] at hj
      cases hj
  others_eq := by rw [others_concat, others_concat, h.others_eq]

theorem retire (h : InStep start calls s) (keep : Option Subnet) :
    InStep start calls (s.1.retire s.2 i keep) := by
  by_cases hkeep : ∀ m, s.1.installed[i]? = some m → keep = some m
  · rw [retire_eq_self hkeep]
    exact h
  · push Not at hkeep
    obtain ⟨old, hold, hne⟩ := hkeep
    rw [retire_eq_forget (h.asked i old hold).2 hold hne]
    exact h.forget hold

/-- An interface whose name cannot be an argument has no subnet. -/
theorem installed_eq_none (h : InStep start calls s) (hi : Command.admits i = false) :
    s.1.installed[i]? = none := by
  rw [Option.eq_none_iff_forall_ne_some]
  intro m hm
  rw [(h.asked i m hm).2] at hi
  cases hi

/-- **A call keeps the host in step.** -/
theorem apply (h : InStep start calls s) (c : Call) : InStep start (calls ++ [c]) (c.apply s) := by
  cases c with
  | ensure i n =>
      cases hi : Command.admits i with
      | true =>
          rw [Call.apply, ensure_eq_place h.enabled hi]
          refine (h.retire (some n)).place hi fun m hm => ?_
          simp only [installed_retire, Option.filter_eq_some_iff] at hm
          simpa [eq_comm] using hm.2
      | false =>
          rw [Call.apply, ensure_eq_self hi (h.installed_eq_none hi)]
          refine h.concat fun j m hc => ?_
          cases hc
          exact hi
  | cleanup i =>
      rw [Call.apply, cleanup_eq_retire h.enabled]
      exact (h.retire none).concat (by simp)

/-- What is tracked after a call. -/
theorem installed_apply (h : InStep start calls s) (c : Call) (j : String) :
    (c.apply s).1.installed[j]? =
      if c.iface = j then (if Command.admits j then c.subnet? else none) else s.1.installed[j]? := by
  cases c with
  | ensure i n =>
      cases hi : Command.admits i with
      | true =>
          simp only [Call.apply, ensure_eq_place h.enabled hi, Firewall.place, Map.getElem?_insert,
            installed_retire, Call.iface, Call.subnet?]
          by_cases hij : i = j
          · subst hij
            simp [hi]
          · cases hj : s.1.installed[j]? <;> simp [hij, Option.filter]
      | false =>
          rw [Call.apply, ensure_eq_self hi (h.installed_eq_none hi), Call.iface]
          split
          · rename_i hij
            subst hij
            simp [hi, h.installed_eq_none hi]
          · rfl
  | cleanup i =>
      simp only [Call.apply, cleanup_eq_retire h.enabled, installed_retire, Call.iface,
        Call.subnet?]
      by_cases hij : i = j
      · subst hij
        cases hj : s.1.installed[i]? <;> simp [Option.filter]
      · cases hj : s.1.installed[j]? <;> simp [hij, Option.filter]

/-- Asking for what is there changes nothing. -/
theorem place_eq_self (h : InStep start calls s) (hn : s.1.installed[i]? = some n) :
    Firewall.place s i n = s := by
  obtain ⟨hasked, hi⟩ := h.asked i n hn
  have hinsert : s.1.installed.insert i n = s.1.installed := by
    ext j m
    rw [Map.getElem?_insert]
    split
    · rename_i hij
      rw [← hij, hn]
    · rfl
  have hadd : (entries i n).foldl RuleTable.add s.2 = s.2 :=
    RuleTable.foldl_add_of_mem fun e he => (h.mem_iff i n hasked hi e he).mpr hn
  rw [Firewall.place, hinsert, hadd]

/-- **Asking again changes nothing.** -/
theorem apply_apply_ensure (h : InStep start calls s) (i : String) (n : Subnet) :
    (Call.ensure i n).apply ((Call.ensure i n).apply s) = (Call.ensure i n).apply s := by
  cases hi : Command.admits i with
  | true =>
      have hnext := h.apply (.ensure i n)
      have htracked : ((Call.ensure i n).apply s).1.installed[i]? = some n := by
        rw [h.installed_apply, Call.iface, if_pos rfl, if_pos hi, Call.subnet?]
      rw [Call.apply, ensure_eq_place hnext.enabled hi,
        retire_eq_self fun m hm => htracked.symm.trans hm]
      exact hnext.place_eq_self htracked
  | false =>
      have hsame : (Call.ensure i n).apply s = s := ensure_eq_self hi (h.installed_eq_none hi)
      rw [hsame, hsame]

end InStep

/-- **The host stays in step with the firewall.** -/
theorem inStep_run {start : RuleTable} (h : start.rules.Nodup) (calls : List Call) :
    InStep start calls (run start calls) := by
  induction calls using List.reverseRecOn with
  | nil => exact .initial h
  | append_singleton calls c ih =>
      rw [run_concat]
      exact ih.apply c

theorem installed_run {start : RuleTable} (h : start.rules.Nodup) (calls : List Call) (i : String) :
    (run start calls).1.installed[i]? = wanted calls i := by
  induction calls using List.reverseRecOn with
  | nil => simp [run, empty, wanted, Map.lastWith]
  | append_singleton calls c ih =>
      rw [run_concat, (inStep_run h calls).installed_apply, wanted_concat, ih]

/-! ### What a host sees -/

/-- What calls come to on a host that starts with a table of rules. -/
structure Faithful (start : RuleTable) (calls : List Call) : Prop where
  /-- The subnet asked for last is tracked. -/
  tracks : ∀ i, (run start calls).1.installed[i]? = wanted calls i
  /-- Both rules of a tracked subnet are there once, with the program of the subnet. -/
  present : ∀ i n, (run start calls).1.installed[i]? = some n → ∀ rule ∈ forwardRules i n,
    (run start calls).2.rules.count (programFor n, rule) = 1
  /-- No rule is there twice. -/
  nodup : (run start calls).2.rules.Nodup
  /-- The rules of a subnet that was tracked before and is not any more are gone. -/
  ended : ∀ earlier, earlier <+: calls → ∀ i n, (run start earlier).1.installed[i]? = some n →
    (run start calls).1.installed[i]? ≠ some n → ∀ rule ∈ forwardRules i n,
      (programFor n, rule) ∉ (run start calls).2.rules
  /-- The rules that no call asked for are those from the start, in their order. -/
  others_eq : others calls (run start calls).2 = others calls start
  /-- A call for an interface whose name can be an argument succeeds. -/
  succeeds : ∀ i n, Command.admits i = true →
    ((run start calls).1.ensure (run start calls).2 i n).1 = .ok ()
  /-- Asking for a subnet twice is asking for it once. -/
  repeated : ∀ i n,
    run start (calls ++ [.ensure i n, .ensure i n]) = run start (calls ++ [.ensure i n])

/-- **The forward rules of a host are those of the tracked subnets.** -/
theorem faithful_run {start : RuleTable} (h : start.rules.Nodup) (calls : List Call) :
    Faithful start calls := by
  have hstep := inStep_run h calls
  have hentry : ∀ {i n rule}, rule ∈ forwardRules i n → (programFor n, rule) ∈ entries i n :=
    fun hrule => List.mem_map_of_mem hrule
  constructor
  case tracks => exact installed_run h calls
  case present =>
    intro i n hn rule hrule
    obtain ⟨hasked, hi⟩ := hstep.asked i n hn
    exact List.count_eq_one_of_mem hstep.nodup
      ((hstep.mem_iff i n hasked hi _ (hentry hrule)).mpr hn)
  case nodup => exact hstep.nodup
  case ended =>
    intro earlier hearlier i n hbefore hnow rule hrule hmem
    obtain ⟨hasked, hi⟩ := (inStep_run h earlier).asked i n hbefore
    exact hnow ((hstep.mem_iff i n (hearlier.subset hasked) hi _ (hentry hrule)).mp hmem)
  case others_eq => exact hstep.others_eq
  case succeeds =>
    intro i n hi
    rw [ensure_eq_place hstep.enabled hi]
  case repeated =>
    intro i n
    have htwice : calls ++ [.ensure i n, .ensure i n] = calls ++ [.ensure i n] ++ [.ensure i n] := by
      simp
    rw [htwice, run_concat, run_concat]
    exact hstep.apply_apply_ensure i n

/-- A rule left by an earlier firewall is taken over, and a subnet of another version follows. -/
theorem faithful_run_restart :
    let net : Subnet := ⟨.v4 (.ofOctets 10 8 0 0), 24, by decide⟩
    let wide : Subnet := ⟨.v6 ⟨0xfd00#128 <<< 112⟩, 64, by decide⟩
    let start : RuleTable :=
      ⟨[(.iptables, ["FORWARD", "-i", "wm0", "-d", "10.8.0.0/24", "-j", "ACCEPT"]),
        (.iptables, ["FORWARD", "-j", "DROP"])]⟩
    start.rules.Nodup ∧
      Faithful start [.ensure "wm0" net, .ensure "wm1" net, .ensure "wm0" wide, .cleanup "wm1"] := by
  intro net wide start
  have h : start.rules.Nodup := by decide
  exact ⟨h, faithful_run h _⟩

end TunnelMesh.Host.Firewall
