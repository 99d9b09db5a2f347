/-
What becomes of a host's rules when forward rules are installed and deleted.

On a host that is a table of rules a deletion takes one rule out, and an installation
appends one that is not there yet.  Neither fails as long as no argument holds a
character that ends a line or a text.  No forward rule belongs to two interfaces or to
two subnets, since a subnet is read back from its text.
-/
import Mathlib.Data.List.Nodup
import TunnelMesh.Host.Firewall
import TunnelMesh.Host.Recording
import TunnelMesh.Proofs.Net.Subnet

namespace TunnelMesh.Host

open Net

/-! ### Commands -/

/-- Whether a text may be an argument. -/
def Command.admits (arg : String) : Bool := !arg.toList.any isForbidden

theorem Command.mk?_eq_ok {args : List String} (h : ∀ a ∈ args, admits a = true)
    (program : Program) : mk? program args = .ok ⟨program, args⟩ := by
  have hnone : (args.find? fun a => a.toList.any isForbidden) = none := by
    rw [List.find?_eq_none]
    intro a ha
    simpa [admits] using h a ha
  rw [mk?, hnone]

theorem Command.mk?_eq_error {args : List String} {a : String} (ha : a ∈ args)
    (h : admits a = false) (program : Program) : ∃ e, mk? program args = .error e := by
  cases hfind : args.find? fun a => a.toList.any isForbidden with
  | none =>
      rw [admits, Bool.not_eq_false'] at h
      exact absurd h (List.find?_eq_none.mp hfind a ha)
  | some b => exact ⟨.invalidArgument program b, by rw [mk?, hfind]⟩

theorem Command.admits_of_graphic {a : String} (h : Text.Graphic a.toList) : admits a = true := by
  have hnone : a.toList.any isForbidden = false := by
    rw [List.any_eq_false]
    intro c hc hforbidden
    have hgraphic := h c hc
    simp only [isForbidden, Bool.or_eq_true, beq_iff_eq] at hforbidden
    rcases hforbidden with (rfl | rfl) | rfl <;> exact absurd hgraphic (by decide)
  rw [admits, hnone]
  rfl

/-! ### Rules of a table -/

/-- A rule and the program that keeps it. -/
abbrev Entry := Program × List String

namespace RuleTable

/-- The table without a rule. -/
def drop (t : RuleTable) (e : Entry) : RuleTable := ⟨t.rules.erase e⟩

/-- The table with a rule, at its end if it was not there. -/
def add (t : RuleTable) (e : Entry) : RuleTable := if e ∈ t.rules then t else ⟨t.rules ++ [e]⟩

variable {t : RuleTable} {e : Entry}

theorem mem_add {a : Entry} : a ∈ (t.add e).rules ↔ a ∈ t.rules ∨ a = e := by
  unfold add
  split
  · rename_i hmem
    constructor
    · exact Or.inl
    · rintro (ha | rfl)
      · exact ha
      · exact hmem
  · simp

theorem nodup_add (h : t.rules.Nodup) : (t.add e).rules.Nodup := by
  unfold add
  split
  · exact h
  · rename_i hmem
    exact h.append (List.nodup_singleton e) (by simpa using hmem)

theorem filter_add {p : Entry → Bool} (he : p e = false) :
    (t.add e).rules.filter p = t.rules.filter p := by
  unfold add
  split
  · rfl
  · simp [he]

theorem filter_drop {p : Entry → Bool} (he : p e = false) :
    (t.drop e).rules.filter p = t.rules.filter p := by
  unfold drop
  dsimp only
  induction t.rules with
  | nil => rfl
  | cons a l ih =>
      by_cases ha : a = e
      · subst ha
        simp [he]
      · rw [List.erase_cons_tail (by simpa using ha), List.filter_cons, List.filter_cons, ih]

theorem mem_foldl_add {es : List Entry} {a : Entry} :
    a ∈ (es.foldl add t).rules ↔ a ∈ t.rules ∨ a ∈ es := by
  induction es generalizing t with
  | nil => simp
  | cons e es ih =>
      rw [List.foldl_cons, ih, mem_add, List.mem_cons]
      tauto

theorem nodup_foldl_add {es : List Entry} (h : t.rules.Nodup) : (es.foldl add t).rules.Nodup := by
  induction es generalizing t with
  | nil => exact h
  | cons e es ih => exact ih (nodup_add h)

theorem foldl_add_of_mem {es : List Entry} (h : ∀ e ∈ es, e ∈ t.rules) : es.foldl add t = t := by
  induction es with
  | nil => rfl
  | cons e es ih =>
      have hadd : t.add e = t := if_pos (h e (by simp))
      rw [List.foldl_cons, hadd]
      exact ih fun a ha => h a (by simp [ha])

theorem filter_foldl_add {es : List Entry} {p : Entry → Bool} (h : ∀ e ∈ es, p e = false) :
    (es.foldl add t).rules.filter p = t.rules.filter p := by
  induction es generalizing t with
  | nil => rfl
  | cons e es ih =>
      rw [List.foldl_cons, ih fun a ha => h a (by simp [ha]), filter_add (h e (by simp))]

theorem mem_foldl_drop {es : List Entry} {a : Entry} (h : t.rules.Nodup) :
    a ∈ (es.foldl drop t).rules ↔ a ∈ t.rules ∧ a ∉ es := by
  induction es generalizing t with
  | nil => simp
  | cons e es ih =>
      have hnodup : (t.drop e).rules.Nodup := h.erase e
      have hdrop : a ∈ (t.drop e).rules ↔ a ≠ e ∧ a ∈ t.rules := h.mem_erase_iff
      rw [List.foldl_cons, ih hnodup, hdrop, List.mem_cons]
      tauto

theorem nodup_foldl_drop {es : List Entry} (h : t.rules.Nodup) :
    (es.foldl drop t).rules.Nodup := by
  induction es generalizing t with
  | nil => exact h
  | cons e es ih => exact ih (h.erase e)

theorem filter_foldl_drop {es : List Entry} {p : Entry → Bool} (h : ∀ e ∈ es, p e = false) :
    (es.foldl drop t).rules.filter p = t.rules.filter p := by
  induction es generalizing t with
  | nil => rfl
  | cons e es ih =>
      rw [List.foldl_cons, ih fun a ha => h a (by simp [ha]), filter_drop (h e (by simp))]

end RuleTable

/-! ### Forward rules -/

namespace Firewall

/-- The forward rules of an interface with a subnet, each with its program. -/
def entries (iface : String) (subnet : Subnet) : List Entry :=
  (forwardRules iface subnet).map fun rule => (programFor subnet, rule)

theorem toText_injective {n m : Subnet} (h : n.toText = m.toText) : n = m := by
  have hn := n.ofText?_toText
  rw [h, m.ofText?_toText] at hn
  exact (Option.some.inj hn).symm

/-- **A forward rule belongs to one interface and one subnet.** -/
theorem eq_of_mem_entries {e : Entry} {i j : String} {n m : Subnet} (h : e ∈ entries i n)
    (h' : e ∈ entries j m) : i = j ∧ n = m := by
  simp only [entries, forwardRules, List.map_cons, List.map_nil, List.mem_cons, List.not_mem_nil,
    or_false] at h h'
  rcases h with rfl | rfl
  · rcases h' with h' | h'
    · simp only [Prod.mk.injEq, List.cons.injEq, true_and, and_true] at h'
      exact ⟨h'.2.1, toText_injective h'.2.2⟩
    · simp at h'
  · rcases h' with h' | h'
    · simp at h'
    · simp only [Prod.mk.injEq, List.cons.injEq, true_and, and_true] at h'
      exact ⟨h'.2.2, toText_injective h'.2.1⟩

theorem admits_of_mem_forwardRules {i : String} (hi : Command.admits i = true) {n : Subnet}
    {rule : List String} (h : rule ∈ forwardRules i n) : ∀ a ∈ rule, Command.admits a = true := by
  have hnet : Command.admits n.toText = true := Command.admits_of_graphic n.graphic_toText
  have hwords : ∀ a ∈ ["FORWARD", "-i", "-d", "-s", "-o", "-j", "ACCEPT"],
      Command.admits a = true := by decide
  simp only [List.mem_cons, List.not_mem_nil, or_false, forall_eq_or_imp, forall_eq] at hwords
  simp only [forwardRules, List.mem_cons, List.not_mem_nil, or_false] at h
  rcases h with rfl | rfl
  · simp [hwords, hi, hnet]
  · simp [hwords, hi, hnet]

/-- **Deleting rules drops them from the table.** -/
theorem deleteRules_eq {program : Program} {rules : List (List String)}
    (h : ∀ rule ∈ rules, ∀ a ∈ rule, Command.admits a = true) (t : RuleTable) :
    deleteRules program t rules =
      (rules.map fun rule => (program, rule)).foldl RuleTable.drop t := by
  induction rules generalizing t with
  | nil => rfl
  | cons rule rules ih =>
      have hargs : ∀ a ∈ "-D" :: rule, Command.admits a = true := by
        intro a ha
        rcases List.mem_cons.mp ha with rfl | ha
        · decide
        · exact h rule (by simp) a ha
      have hrun : (runChecked t program ("-D" :: rule)).2 = t.drop (program, rule) := by
        rw [runChecked, Command.mk?_eq_ok hargs]
        by_cases hmem : (program, rule) ∈ t.rules
        · simp [Runner.run, RuleTable.answer, RuleTable.drop, hmem]
        · simp [Runner.run, RuleTable.answer, RuleTable.drop, hmem, List.erase_of_not_mem]
      rw [deleteRules, hrun, List.map_cons, List.foldl_cons]
      exact ih (fun r hr => h r (by simp [hr])) _

theorem installRule_eq {program : Program} {rule : List String}
    (h : ∀ a ∈ rule, Command.admits a = true) (t : RuleTable) :
    installRule program t rule = (.ok (), t.add (program, rule)) := by
  have hargs : ∀ op, Command.admits op = true → ∀ a ∈ op :: rule, Command.admits a = true := by
    intro op hop a ha
    rcases List.mem_cons.mp ha with rfl | ha
    · exact hop
    · exact h a ha
  rw [installRule, Command.mk?_eq_ok (hargs "-C" (by decide))]
  by_cases hmem : (program, rule) ∈ t.rules
  · simp [Runner.run, RuleTable.answer, RuleTable.add, hmem, Output.ok, Output.success]
  · simp [Runner.run, RuleTable.answer, RuleTable.add, hmem, Output.ok, Output.failed,
      Output.success, runChecked, Command.mk?_eq_ok (hargs "-A" (by decide)), Output.check,
      Except.map]

/-- **Installing rules adds them to the table.** -/
theorem installRules_eq {program : Program} {rules : List (List String)}
    (h : ∀ rule ∈ rules, ∀ a ∈ rule, Command.admits a = true) (t : RuleTable) :
    installRules program t rules =
      (.ok (), (rules.map fun rule => (program, rule)).foldl RuleTable.add t) := by
  induction rules generalizing t with
  | nil => rfl
  | cons rule rules ih =>
      rw [installRules, installRule_eq (h rule (by simp)), List.map_cons, List.foldl_cons]
      exact ih (fun r hr => h r (by simp [hr])) _

/-- An interface that is no argument gets no rules. -/
theorem exists_installRules_eq_error {ρ : Type} [Runner ρ] {i : String}
    (hi : Command.admits i = false) (n : Subnet) (host : ρ) :
    ∃ e, installRules (programFor n) host (forwardRules i n) = (.error e, host) := by
  have hmem : i ∈ ["-C", "FORWARD", "-i", i, "-d", n.toText, "-j", "ACCEPT"] := by simp
  obtain ⟨e, he⟩ := Command.mk?_eq_error hmem hi (programFor n)
  exact ⟨e, by rw [forwardRules, installRules, installRule, he]⟩

end Firewall

end TunnelMesh.Host
