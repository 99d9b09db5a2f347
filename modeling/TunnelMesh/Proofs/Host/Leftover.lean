/-
What is left on a host that refuses rules.

A host may refuse to append a rule.  A firewall then gives up and does not track the
subnet it was asked for.  What it had appended before stays: if the host takes the rule
for packets that go in and refuses the one for packets that come out, the first stands
alone, and as its subnet is not tracked no cleanup takes it away.

Such a rule goes when the same interface is asked for the same subnet again and the host
takes both rules: then the subnet is tracked, and both go with it.  Nothing else is ever
left behind.
-/
import TunnelMesh.Proofs.Host.Firewall

namespace TunnelMesh.Host

open Net

/-! ### Hosts that refuse rules -/

/-- Why a rule is not appended. -/
inductive Refusal where
  | exited (code : { code : Int // code ≠ 0 }) (stderr : String)
  /-- The command could not be run. -/
  | notRun (error : CommandError)

/-- What a command gives that is refused. -/
def Refusal.answer : Refusal → Except CommandError Output
  | exited code stderr => .ok (.failed code.1 stderr)
  | notRun error => .error error

/-- A table of rules that refuses to append some of them. -/
structure FaultyTable where
  table : RuleTable
  /-- What becomes of each command to append, counted from the first; none is carried out. -/
  refusals : Nat → Option Refusal
  /-- The number of commands to append so far. -/
  appends : Nat := 0

namespace FaultyTable

/-- Answers as the table does, unless a rule is refused; then the table stays as it is. -/
def run (h : FaultyTable) (c : Command) : Except CommandError Output × FaultyTable :=
  let (o, table) := h.table.answer c
  if c.args.head? = some "-A" then
    match h.refusals h.appends with
    | some r => (r.answer, { h with appends := h.appends + 1 })
    | none => (.ok o, { h with table, appends := h.appends + 1 })
  else (.ok o, { h with table })

instance : Runner FaultyTable where
  run := run

end FaultyTable

theorem Refusal.check_eq_error (r : Refusal) (c : Command) :
    (∃ e, r.answer = .error e) ∨ ∃ o e, r.answer = .ok o ∧ o.check c = .error e := by
  cases r with
  | notRun e => exact .inl ⟨e, rfl⟩
  | exited code stderr =>
      have hfailed : ¬(Output.failed code.1 stderr).success = true := by
        simpa [Output.failed, Output.success] using code.2
      exact .inr ⟨_, _, rfl, if_neg hfailed⟩

namespace Firewall

variable {h : FaultyTable} {fw : Firewall} {i : String} {n : Subnet}

/-- The rule for packets that go into an interface. -/
def inbound (i : String) (n : Subnet) : Entry :=
  (programFor n, ["FORWARD", "-i", i, "-d", n.toText, "-j", "ACCEPT"])

/-- The rule for packets that come out of an interface. -/
def outbound (i : String) (n : Subnet) : Entry :=
  (programFor n, ["FORWARD", "-s", n.toText, "-o", i, "-j", "ACCEPT"])

theorem mem_entries {e : Entry} : e ∈ entries i n ↔ e = inbound i n ∨ e = outbound i n := by
  simp [entries, forwardRules, inbound, outbound]

theorem inbound_ne_outbound (j : String) (m : Subnet) : inbound j m ≠ outbound i n := by
  simp [inbound, outbound]

theorem inbound_mem_entries {j : String} {m : Subnet} :
    inbound j m ∈ entries i n ↔ j = i ∧ m = n := by
  constructor
  · exact eq_of_mem_entries (mem_entries.mpr (.inl rfl))
  · rintro ⟨rfl, rfl⟩
    exact mem_entries.mpr (.inl rfl)

theorem outbound_mem_entries {j : String} {m : Subnet} :
    outbound j m ∈ entries i n ↔ j = i ∧ m = n := by
  constructor
  · exact eq_of_mem_entries (mem_entries.mpr (.inr rfl))
  · rintro ⟨rfl, rfl⟩
    exact mem_entries.mpr (.inr rfl)

/-! ### Single commands -/

/-- Rules are deleted as from the table alone. -/
theorem deleteRules_faulty (program : Program) (h : FaultyTable) (rules : List (List String)) :
    deleteRules program h rules = { h with table := deleteRules program h.table rules } := by
  induction rules generalizing h with
  | nil => rfl
  | cons rule rules ih =>
      have hrun : (runChecked h program ("-D" :: rule)).2 =
          { h with table := (runChecked h.table program ("-D" :: rule)).2 } := by
        unfold runChecked
        cases hmk : Command.mk? program ("-D" :: rule) with
        | error e => rfl
        | ok c =>
            have hargs : c.args = "-D" :: rule := by
              unfold Command.mk? at hmk
              split at hmk
              · cases hmk
              · cases hmk
                rfl
            simp [Runner.run, FaultyTable.run, hargs]
      rw [deleteRules, hrun, ih, deleteRules]

theorem retire_faulty (keep : Option Subnet) :
    fw.retire h i keep =
      ((fw.retire h.table i keep).1, { h with table := (fw.retire h.table i keep).2 }) := by
  unfold retire
  split
  · rfl
  · split
    · rfl
    · rw [deleteRules_faulty]

/-- A rule is there afterwards, or it was refused and nothing happened. -/
theorem installRule_faulty (program : Program) {rule : List String}
    (hrule : ∀ a ∈ rule, Command.admits a = true) (h : FaultyTable) :
    ∃ h' : FaultyTable,
      (installRule program h rule = (.ok (), h') ∧ h'.table = h.table.add (program, rule)) ∨
      (∃ e, installRule program h rule = (.error e, h')) ∧ (program, rule) ∉ h.table.rules ∧
        h'.table = h.table := by
  have hmk : ∀ op, Command.admits op = true →
      Command.mk? program (op :: rule) = .ok ⟨program, op :: rule⟩ := by
    intro op hop
    refine Command.mk?_eq_ok ?_ program
    simpa [hop] using hrule
  by_cases hmem : (program, rule) ∈ h.table.rules
  · refine ⟨h, .inl ⟨?_, ?_⟩⟩
    · simp [installRule, hmk "-C" (by decide), Runner.run, FaultyTable.run, RuleTable.answer, hmem,
        Output.ok, Output.success]
    · rw [RuleTable.add, if_pos hmem]
  · have hcheck : installRule program h rule = runChecked h program ("-A" :: rule) := by
      simp [installRule, hmk "-C" (by decide), Runner.run, FaultyTable.run, RuleTable.answer, hmem,
        Output.failed, Output.success]
    rw [hcheck, runChecked, hmk "-A" (by decide)]
    cases hrefusal : h.refusals h.appends with
    | none =>
        refine ⟨{ h with table := h.table.add (program, rule), appends := h.appends + 1 },
          .inl ⟨?_, rfl⟩⟩
        simp [Runner.run, FaultyTable.run, RuleTable.answer, hrefusal, Output.ok, Output.check,
          Output.success, Except.map, RuleTable.add, hmem]
    | some r =>
        refine ⟨{ h with appends := h.appends + 1 }, .inr ⟨?_, hmem, rfl⟩⟩
        rcases r.check_eq_error ⟨program, "-A" :: rule⟩ with ⟨e, he⟩ | ⟨o, e, ho, he⟩
        · exact ⟨e, by simp [Runner.run, FaultyTable.run, hrefusal, he]⟩
        · exact ⟨e, by simp [Runner.run, FaultyTable.run, hrefusal, ho, he, Except.map]⟩

/-- Both rules are there afterwards, or the first was refused, or the first is there and the second
was refused. -/
theorem installRules_faulty (hi : Command.admits i = true) (h : FaultyTable) (n : Subnet) :
    ∃ h' : FaultyTable,
      (installRules (programFor n) h (forwardRules i n) = (.ok (), h') ∧
        h'.table = (entries i n).foldl RuleTable.add h.table) ∨
      (∃ e, installRules (programFor n) h (forwardRules i n) = (.error e, h')) ∧
        (inbound i n ∉ h.table.rules ∧ h'.table = h.table ∨
          outbound i n ∉ h.table.rules ∧ h'.table = h.table.add (inbound i n)) := by
  have hin := admits_of_mem_forwardRules hi (n := n) List.mem_cons_self
  have hout := admits_of_mem_forwardRules hi (n := n) (List.mem_cons_of_mem _ List.mem_cons_self)
  simp only [forwardRules, installRules]
  obtain ⟨h₁, ⟨hrun, htable⟩ | ⟨⟨e, hrun⟩, hmem, htable⟩⟩ :=
    installRule_faulty (programFor n) hin h
  · obtain ⟨h₂, ⟨hrun₂, htable₂⟩ | ⟨⟨e, hrun₂⟩, hmem₂, htable₂⟩⟩ :=
      installRule_faulty (programFor n) hout h₁
    · refine ⟨h₂, .inl ⟨?_, ?_⟩⟩
      · simp only [hrun, hrun₂]
      · rw [htable₂, htable]
        rfl
    · refine ⟨h₂, .inr ⟨⟨e, ?_⟩, .inr ⟨?_, htable₂.trans htable⟩⟩⟩
      · simp only [hrun, hrun₂]
      · rw [htable, RuleTable.mem_add] at hmem₂
        exact fun hc => hmem₂ (.inl hc)
  · refine ⟨h₁, .inr ⟨⟨e, ?_⟩, .inl ⟨hmem, htable⟩⟩⟩
    simp only [hrun]

/-- Asking for the rules of an interface comes to one of three things: both are there and the
subnet is tracked, the first was refused, or the second was refused and the first is there. -/
theorem ensure_faulty (henabled : fw.enabled = true) (hi : Command.admits i = true)
    (h : FaultyTable) (n : Subnet) {t : Firewall × RuleTable}
    (ht : fw.retire h.table i (some n) = t) :
    ∃ h' : FaultyTable,
      (fw.ensure h i n = (.ok (), (place t i n).1, h') ∧ h'.table = (place t i n).2) ∨
      (∃ e, fw.ensure h i n = (.error e, t.1, h')) ∧
        (inbound i n ∉ t.2.rules ∧ h'.table = t.2 ∨
          outbound i n ∉ t.2.rules ∧ h'.table = t.2.add (inbound i n)) := by
  subst ht
  simp only [ensure, henabled, Bool.not_true, Bool.false_eq_true, if_false, retire_faulty]
  obtain ⟨h', ⟨hrun, htable⟩ | ⟨⟨e, hrun⟩, hends⟩⟩ :=
    installRules_faulty hi { h with table := (fw.retire h.table i (some n)).2 } n
  · exact ⟨h', .inl ⟨by simp only [hrun, place], htable⟩⟩
  · exact ⟨h', .inr ⟨⟨e, by simp only [hrun]⟩, hends⟩⟩

/-! ### Calls -/

/-- A firewall and its host after a call. -/
def Call.perform (s : Firewall × FaultyTable) : Call → Firewall × FaultyTable
  | ensure i n => (s.1.ensure s.2 i n).2
  | cleanup i => s.1.cleanup s.2 i

/-- A new firewall and a host without rules after calls. -/
def runFaulty (refusals : Nat → Option Refusal) (calls : List Call) : Firewall × FaultyTable :=
  calls.foldl Call.perform (empty true, { table := ⟨[]⟩, refusals })

/-- Asking for rules fails and leaves the rule for packets that go in. -/
def Halfway (s : Firewall × FaultyTable) (i : String) (n : Subnet) : Prop :=
  (∃ e, (s.1.ensure s.2 i n).1 = .error e) ∧ inbound i n ∈ (s.1.ensure s.2 i n).2.2.table.rules

/-- The last time that an interface was asked for rules for a subnet it ended half way. -/
def Stranded (refusals : Nat → Option Refusal) (calls : List Call) (i : String) (n : Subnet) :
    Prop :=
  ∃ before after, calls = before ++ .ensure i n :: after ∧ .ensure i n ∉ after ∧
    Halfway (runFaulty refusals before) i n

section

variable {refusals : Nat → Option Refusal} {calls : List Call}

theorem runFaulty_concat (c : Call) :
    runFaulty refusals (calls ++ [c]) = c.perform (runFaulty refusals calls) := by
  simp [runFaulty]

theorem stranded_concat {c : Call} : Stranded refusals (calls ++ [c]) i n ↔
    c = .ensure i n ∧ Halfway (runFaulty refusals calls) i n ∨
      c ≠ .ensure i n ∧ Stranded refusals calls i n := by
  constructor
  · rintro ⟨before, after, hcalls, hafter, hhalf⟩
    rcases List.eq_nil_or_concat' after with rfl | ⟨after, c', rfl⟩
    · obtain ⟨rfl, hc⟩ := List.append_inj' hcalls rfl
      exact .inl ⟨List.singleton_inj.mp hc, hhalf⟩
    · rw [← List.cons_append, ← List.append_assoc] at hcalls
      obtain ⟨rfl, hc⟩ := List.append_inj' hcalls rfl
      obtain rfl := List.singleton_inj.mp hc
      simp only [List.mem_append, List.mem_singleton, not_or] at hafter
      exact .inr ⟨fun h => hafter.2 h.symm, before, after, rfl, hafter.1, hhalf⟩
  · rintro (⟨rfl, hhalf⟩ | ⟨hc, before, after, rfl, hafter, hhalf⟩)
    · exact ⟨calls, [], rfl, List.not_mem_nil, hhalf⟩
    · refine ⟨before, after ++ [c], by simp, ?_, hhalf⟩
      simpa [hafter] using fun h => hc h.symm

end

/-! ### The invariant -/

/-- What is on a host after calls: the rules of tracked subnets, and rules for packets that go in
that stand alone. -/
structure Accounted (lone : String → Subnet → Prop) (calls : List Call) (s : Firewall × RuleTable) :
    Prop where
  enabled : s.1.enabled = true
  nodup : s.2.rules.Nodup
  /-- Every rule was asked for. -/
  own : ∀ e ∈ s.2.rules, ∃ i n, .ensure i n ∈ calls ∧ Command.admits i = true ∧ e ∈ entries i n
  inbound_iff : ∀ i n, inbound i n ∈ s.2.rules ↔ s.1.installed[i]? = some n ∨ lone i n
  outbound_iff : ∀ i n, outbound i n ∈ s.2.rules ↔ s.1.installed[i]? = some n
  /-- No rule of a tracked subnet stands alone. -/
  paired : ∀ i n, s.1.installed[i]? = some n → ¬lone i n

namespace Accounted

variable {lone lone' : String → Subnet → Prop} {calls : List Call} {s : Firewall × RuleTable}

theorem admits (h : Accounted lone calls s) (hn : s.1.installed[i]? = some n) :
    Command.admits i = true := by
  obtain ⟨j, m, -, hj, he⟩ := h.own _ ((h.outbound_iff i n).mpr hn)
  rw [(eq_of_mem_entries (mem_entries.mpr (.inr rfl)) he).1]
  exact hj

theorem forget (h : Accounted lone calls s) (hold : s.1.installed[i]? = some n) :
    Accounted lone calls (forget s i n) where
  enabled := h.enabled
  nodup := RuleTable.nodup_foldl_drop h.nodup
  own e he := h.own e ((RuleTable.mem_foldl_drop h.nodup).mp he).1
  inbound_iff j m := by
    simp only [Firewall.forget, Map.getElem?_erase, RuleTable.mem_foldl_drop h.nodup,
      inbound_mem_entries, h.inbound_iff]
    by_cases hij : i = j
    · subst hij
      by_cases hm : m = n
      · subst hm
        simp [h.paired i m hold]
      · simp [hm, hold, eq_comm (a := n)]
    · simp [hij, eq_comm (a := j)]
  outbound_iff j m := by
    simp only [Firewall.forget, Map.getElem?_erase, RuleTable.mem_foldl_drop h.nodup,
      outbound_mem_entries, h.outbound_iff]
    by_cases hij : i = j
    · subst hij
      simp [hold, eq_comm (a := n)]
    · simp [hij, eq_comm (a := j)]
  paired j m hm := by
    simp only [Firewall.forget, Map.getElem?_erase] at hm
    split at hm
    · cases hm
    · exact h.paired j m hm

/-- Rules are placed where no other subnet is tracked; none stands alone then. -/
theorem place (h : Accounted lone calls s) (hi : Command.admits i = true)
    (hfree : ∀ m, s.1.installed[i]? = some m → m = n)
    (hlone : ∀ j m, lone' j m ↔ ¬(j = i ∧ m = n) ∧ lone j m) :
    Accounted lone' (calls ++ [.ensure i n]) (place s i n) where
  enabled := h.enabled
  nodup := RuleTable.nodup_foldl_add h.nodup
  own e he := by
    rcases RuleTable.mem_foldl_add.mp he with he | he
    · obtain ⟨j, m, hmem, hj, he⟩ := h.own e he
      exact ⟨j, m, List.mem_append_left _ hmem, hj, he⟩
    · exact ⟨i, n, by simp, hi, he⟩
  inbound_iff j m := by
    simp only [Firewall.place, Map.getElem?_insert, RuleTable.mem_foldl_add, inbound_mem_entries,
      h.inbound_iff, hlone]
    by_cases hij : i = j
    · subst hij
      by_cases hm : m = n
      · simp [hm]
      · have hnot : s.1.installed[i]? ≠ some m := fun hc => hm (hfree m hc)
        simp [hm, hnot, eq_comm (a := n)]
    · simp [hij, eq_comm (a := j)]
  outbound_iff j m := by
    simp only [Firewall.place, Map.getElem?_insert, RuleTable.mem_foldl_add, outbound_mem_entries,
      h.outbound_iff]
    by_cases hij : i = j
    · subst hij
      by_cases hm : m = n
      · simp [hm]
      · have hnot : s.1.installed[i]? ≠ some m := fun hc => hm (hfree m hc)
        simp [hm, hnot, eq_comm (a := n)]
    · simp [hij, eq_comm (a := j)]
  paired j m hm := by
    simp only [Firewall.place, Map.getElem?_insert] at hm
    rw [hlone]
    split at hm
    · rename_i hij
      cases hm
      exact fun hc => hc.1 ⟨hij.symm, rfl⟩
    · exact fun hc => h.paired j m hm hc.2

/-- The rule for packets that come out is refused, so that the other one stands alone. -/
theorem strand (h : Accounted lone calls s) (hi : Command.admits i = true)
    (hout : outbound i n ∉ s.2.rules)
    (hlone : ∀ j m, lone' j m ↔ j = i ∧ m = n ∨ lone j m) :
    Accounted lone' (calls ++ [.ensure i n]) (s.1, s.2.add (inbound i n)) where
  enabled := h.enabled
  nodup := RuleTable.nodup_add h.nodup
  own e he := by
    rcases RuleTable.mem_add.mp he with he | rfl
    · obtain ⟨j, m, hmem, hj, he⟩ := h.own e he
      exact ⟨j, m, List.mem_append_left _ hmem, hj, he⟩
    · exact ⟨i, n, by simp, hi, mem_entries.mpr (.inl rfl)⟩
  inbound_iff j m := by
    have heq : inbound j m = inbound i n ↔ j = i ∧ m = n := by
      simp [← inbound_mem_entries, mem_entries, inbound_ne_outbound]
    rw [RuleTable.mem_add, h.inbound_iff, heq, hlone]
    tauto
  outbound_iff j m := by
    rw [RuleTable.mem_add, h.outbound_iff, or_iff_left (inbound_ne_outbound i n).symm]
  paired j m hm := by
    rw [hlone]
    rintro (⟨rfl, rfl⟩ | hc)
    · exact hout ((h.outbound_iff j m).mpr hm)
    · exact h.paired j m hm hc

/-- A call after which the same rules stand alone. -/
theorem concat (h : Accounted lone calls s) (c : Call) (hlone : ∀ j m, lone' j m ↔ lone j m) :
    Accounted lone' (calls ++ [c]) s where
  enabled := h.enabled
  nodup := h.nodup
  own e he := by
    obtain ⟨j, m, hmem, hj, he⟩ := h.own e he
    exact ⟨j, m, List.mem_append_left _ hmem, hj, he⟩
  inbound_iff j m := by rw [h.inbound_iff, hlone]
  outbound_iff := h.outbound_iff
  paired j m hm := by
    rw [hlone]
    exact h.paired j m hm

theorem retire (h : Accounted lone calls s) (i : String) (keep : Option Subnet) :
    Accounted lone calls (s.1.retire s.2 i keep) := by
  by_cases hkeep : ∀ m, s.1.installed[i]? = some m → keep = some m
  · rw [retire_eq_self hkeep]
    exact h
  · push Not at hkeep
    obtain ⟨old, hold, hne⟩ := hkeep
    rw [retire_eq_forget (h.admits hold) hold hne]
    exact h.forget hold

/-- An interface whose name cannot be an argument has no rules. -/
theorem eq_none (h : Accounted lone calls s) (hi : Command.admits i = false) :
    s.1.installed[i]? = none ∧ inbound i n ∉ s.2.rules := by
  refine ⟨Option.eq_none_iff_forall_ne_some.mpr fun m hm => ?_, fun hc => ?_⟩
  · rw [h.admits hm] at hi
    cases hi
  · obtain ⟨j, m, -, hj, he⟩ := h.own _ hc
    rw [(inbound_mem_entries.mp he).1, hj] at hi
    cases hi

end Accounted

/-- Asking for rules keeps account of what is on the host. -/
theorem Accounted.ensure {lone lone' : String → Subnet → Prop} {calls : List Call}
    (hacc : Accounted lone calls (fw, h.table))
    (hlone : ∀ j m, lone' j m ↔
      (j = i ∧ m = n) ∧ Halfway (fw, h) i n ∨ ¬(j = i ∧ m = n) ∧ lone j m) :
    Accounted lone' (calls ++ [.ensure i n])
      ((fw.ensure h i n).2.1, (fw.ensure h i n).2.2.table) := by
  have hsame : ¬Halfway (fw, h) i n → ¬lone i n → ∀ j m, lone' j m ↔ lone j m := by
    intro hnot hfree j m
    rw [hlone]
    by_cases heq : j = i ∧ m = n
    · obtain ⟨rfl, rfl⟩ := heq
      simp [hnot, hfree]
    · simp [heq]
  cases hi : Command.admits i with
  | true =>
      have hretire := hacc.retire i (some n)
      obtain ⟨h', ⟨hrun, htable⟩ | ⟨⟨e, hrun⟩, ⟨hin, htable⟩ | ⟨hout, htable⟩⟩⟩ :=
        ensure_faulty hacc.enabled hi h n rfl
      · have hnot : ¬Halfway (fw, h) i n := by simp [Halfway, hrun]
        simp only [hrun, htable]
        refine hretire.place hi (fun m hm => ?_) (by simpa [hnot] using hlone)
        simp only [installed_retire, Option.filter_eq_some_iff] at hm
        simpa [eq_comm] using hm.2
      · have hnot : ¬Halfway (fw, h) i n := by simp [Halfway, hrun, htable, hin]
        have hfree : ¬lone i n := fun hc => hin ((hretire.inbound_iff i n).mpr (.inr hc))
        simp only [hrun, htable]
        exact hretire.concat _ (hsame hnot hfree)
      · have hhalf : Halfway (fw, h) i n := by
          simp [Halfway, hrun, htable, RuleTable.mem_add]
        simp only [hrun, htable]
        refine hretire.strand hi hout fun j m => ?_
        rw [hlone]
        tauto
  | false =>
      obtain ⟨hnone, hin⟩ := hacc.eq_none hi (n := n)
      have hself : (fw.ensure h i n).2 = (fw, h) := ensure_eq_self hi hnone
      have hnot : ¬Halfway (fw, h) i n := by
        simp only [Halfway, hself, not_and]
        exact fun _ => hin
      have hfree : ¬lone i n := fun hc => hin ((hacc.inbound_iff i n).mpr (.inr hc))
      rw [hself]
      exact hacc.concat _ (hsame hnot hfree)

/-- **Every call keeps account of what is on the host.** -/
theorem accounted_run (refusals : Nat → Option Refusal) (calls : List Call) :
    Accounted (Stranded refusals calls) calls
      ((runFaulty refusals calls).1, (runFaulty refusals calls).2.table) := by
  induction calls using List.reverseRecOn with
  | nil =>
      exact {
        enabled := rfl
        nodup := List.nodup_nil
        own := by simp [runFaulty]
        inbound_iff := by simp [runFaulty, empty, Stranded]
        outbound_iff := by simp [runFaulty, empty]
        paired := by simp [runFaulty, empty] }
  | append_singleton calls c ih =>
      rw [runFaulty_concat]
      cases c with
      | ensure i n =>
          refine ih.ensure fun j m => ?_
          rw [stranded_concat]
          by_cases heq : j = i ∧ m = n
          · obtain ⟨rfl, rfl⟩ := heq
            simp
          · simp [heq, eq_comm (a := i), eq_comm (a := n)]
      | cleanup i =>
          rw [Call.perform, cleanup_eq_retire ih.enabled, retire_faulty]
          exact (ih.retire i none).concat _ fun j m => by simp [stranded_concat]

/-! ### What cleanups leave -/

/-- What is on a host after calls of which the last about an interface is a cleanup. -/
structure Swept (refusals : Nat → Option Refusal) (calls : List Call) (i : String) : Prop where
  /-- Every rule is a forward rule that a call asked for. -/
  own : ∀ e ∈ (runFaulty refusals calls).2.table.rules, ∃ c ∈ calls, e ∈ c.entries
  /-- Of the interface there are only rules for packets that go in, one for each subnet for which
  the interface was last asked for rules in vain and half way. -/
  left_iff : ∀ e, (e ∈ (runFaulty refusals calls).2.table.rules ∧ ∃ n, e ∈ entries i n) ↔
    ∃ n, e = inbound i n ∧ Stranded refusals calls i n
  /-- There are none if no such asking was left at that. -/
  clean_iff : (∀ n, ∀ e ∈ entries i n, e ∉ (runFaulty refusals calls).2.table.rules) ↔
    ∀ n, ¬Stranded refusals calls i n
  /-- The interface has no subnet. -/
  untracked : (runFaulty refusals calls).1.installed[i]? = none

/-- A call leaves the subnets of other interfaces. -/
theorem installed_perform_of_ne {s : Firewall × FaultyTable} {c : Call} (hc : c.iface ≠ i) :
    (c.perform s).1.installed[i]? = s.1.installed[i]? := by
  have hretire : ∀ keep, (s.1.retire s.2 c.iface keep).1.installed[i]? = s.1.installed[i]? := by
    intro keep
    rw [retire_faulty, installed_retire]
    cases s.1.installed[i]? <;> simp [Option.filter, hc]
  cases c with
  | ensure j n =>
      simp only [Call.perform, ensure]
      split
      · rfl
      · split
        · exact hretire (some n)
        · exact (Map.getElem?_insert ..).trans ((if_neg hc).trans (hretire (some n)))
  | cleanup j =>
      simp only [Call.perform, cleanup]
      split
      · rfl
      · exact hretire none

theorem installed_runFaulty {refusals : Nat → Option Refusal} {calls : List Call}
    (h : Map.lastWith Call.iface i calls = some (.cleanup i)) :
    (runFaulty refusals calls).1.installed[i]? = none := by
  induction calls using List.reverseRecOn with
  | nil => simp [Map.lastWith] at h
  | append_singleton calls c ih =>
      rw [Map.lastWith_append] at h
      rw [runFaulty_concat]
      by_cases hc : c.iface = i
      · obtain rfl : c = .cleanup i := by simpa [Map.lastWith, hc] using h
        have henabled := (accounted_run refusals calls).enabled
        rw [Call.perform, cleanup_eq_retire henabled, retire_faulty, installed_retire]
        cases (runFaulty refusals calls).1.installed[i]? <;> simp [Option.filter]
      · rw [installed_perform_of_ne hc]
        exact ih (by simpa [Map.lastWith, hc] using h)

/-- **After a cleanup there are only rules that were asked for in vain.** -/
theorem swept_runFaulty {refusals : Nat → Option Refusal} {calls : List Call} {i : String}
    (h : Map.lastWith Call.iface i calls = some (.cleanup i)) : Swept refusals calls i := by
  have hacc := accounted_run refusals calls
  have hnone : (runFaulty refusals calls).1.installed[i]? = none := installed_runFaulty h
  have hin : ∀ n, inbound i n ∈ (runFaulty refusals calls).2.table.rules ↔
      Stranded refusals calls i n := by
    intro n
    simpa [hnone] using hacc.inbound_iff i n
  have hout : ∀ n, outbound i n ∉ (runFaulty refusals calls).2.table.rules := by
    intro n
    simpa [hnone] using hacc.outbound_iff i n
  constructor
  case own =>
    intro e he
    obtain ⟨j, m, hmem, -, he⟩ := hacc.own e he
    exact ⟨.ensure j m, hmem, he⟩
  case left_iff =>
    intro e
    constructor
    · rintro ⟨hmem, n, he⟩
      rcases mem_entries.mp he with rfl | rfl
      · exact ⟨n, rfl, (hin n).mp hmem⟩
      · exact absurd hmem (hout n)
    · rintro ⟨n, rfl, hstranded⟩
      exact ⟨(hin n).mpr hstranded, n, mem_entries.mpr (.inl rfl)⟩
  case clean_iff => simp [mem_entries, hin, hout]
  case untracked => exact hnone

/-- A subnet that was asked for again leaves nothing, whatever became of the others. -/
theorem swept_runFaulty_again :
    let net : Subnet := ⟨.v4 (.ofOctets 10 8 0 0), 24, by decide⟩
    let wide : Subnet := ⟨.v6 ⟨0xfd00#128 <<< 112⟩, 64, by decide⟩
    let refusals : Nat → Option Refusal := fun k =>
      if k = 1 ∨ k = 2 then some (.exited ⟨4, by decide⟩ "Permission denied") else none
    let calls : List Call := [.ensure "wm0" net, .ensure "wm1" wide, .ensure "wm0" net,
      .ensure "wm0" wide, .cleanup "wm0"]
    Map.lastWith Call.iface "wm0" calls = some (.cleanup "wm0") ∧ Swept refusals calls "wm0" := by
  intro net wide refusals calls
  exact ⟨rfl, swept_runFaulty rfl⟩

/-- Half a pair of rules stays on a host that refused the other half. -/
theorem rules_half_appended :
    let net : Subnet := ⟨.v4 (.ofOctets 10 8 0 0), 24, by decide⟩
    let refusals : Nat → Option Refusal := fun k =>
      if k = 1 then some (.exited ⟨4, by decide⟩ "Permission denied") else none
    let calls : List Call := [.ensure "wm0" net, .cleanup "wm0"]
    Map.lastWith Call.iface "wm0" calls = some (.cleanup "wm0") ∧
      (runFaulty refusals calls).2.table.rules = [inbound "wm0" net] :=
  ⟨rfl, rfl⟩

end Firewall

end TunnelMesh.Host
