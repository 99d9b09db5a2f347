/-
Edits of access rules that change no decision.

A decision looks at rules only through what they say about pairs of tags: for each pair
the first rule that speaks about it.  So it is enough that an edit keeps this for every
pair.  That is so when a rule goes that never gets to speak, when neighbours trade places
that agree or never speak about the same pair, and when a rule is written out pair by
pair.  A list without rules decides the other way round, so an edit must not end there;
on the way it may.
-/
import Mathlib.Logic.Relation
import Mathlib.Order.Defs.LinearOrder
import TunnelMesh.Mesh.Access

namespace TunnelMesh

namespace AccessRule

/-- A rule written out, with one rule for each pair of a source and a destination tag. -/
def pieces (r : AccessRule) : List AccessRule :=
  r.src.toList.flatMap fun s => r.dst.toList.map fun d => ⟨.ofList [s], .ofList [d], r.action⟩

variable {r p : AccessRule} {s d : String}

theorem hits_iff : r.hits s d = true ↔ s ∈ r.src ∧ d ∈ r.dst := by
  rw [hits, Bool.and_eq_true, Std.ExtTreeSet.contains_iff_mem, Std.ExtTreeSet.contains_iff_mem]

theorem hits_ofList_singleton {a b : String} {action : AccessAction} :
    AccessRule.hits ⟨.ofList [a], .ofList [b], action⟩ s d = true ↔ a = s ∧ b = d := by
  simp [hits_iff]

theorem action_of_mem_pieces (h : p ∈ r.pieces) : p.action = r.action := by
  simp only [pieces, List.mem_flatMap, List.mem_map] at h
  obtain ⟨a, -, b, -, rfl⟩ := h
  rfl

/-- The pieces of a rule speak about the pairs that the rule speaks about. -/
theorem exists_mem_pieces_hits : (∃ p ∈ r.pieces, p.hits s d = true) ↔ r.hits s d = true := by
  rw [hits_iff]
  constructor
  · rintro ⟨p, hp, hhits⟩
    simp only [pieces, List.mem_flatMap, List.mem_map, Std.ExtTreeSet.mem_toList] at hp
    obtain ⟨a, ha, b, hb, rfl⟩ := hp
    obtain ⟨rfl, rfl⟩ := hits_ofList_singleton.mp hhits
    exact ⟨ha, hb⟩
  · rintro ⟨hs, hd⟩
    refine ⟨⟨.ofList [s], .ofList [d], r.action⟩, ?_, hits_ofList_singleton.mpr ⟨rfl, rfl⟩⟩
    simp only [pieces, List.mem_flatMap, List.mem_map, Std.ExtTreeSet.mem_toList]
    exact ⟨s, hs, d, hd, rfl⟩

end AccessRule

namespace AccessList

/-- Edits of a list of rules. -/
inductive SafeEdit : List AccessRule → List AccessRule → Prop
  /-- A rule goes if for each of its pairs there is an earlier rule that speaks about the pair. -/
  | drop {front back : List AccessRule} {r : AccessRule}
      (shadowed : ∀ s ∈ r.src, ∀ d ∈ r.dst, ∃ r' ∈ front, r'.hits s d = true) :
      SafeEdit (front ++ r :: back) (front ++ back)
  /-- Neighbours that decide alike, or that never speak about the same pair, trade places. -/
  | swap {front back : List AccessRule} {r r' : AccessRule}
      (apart : r.action = r'.action ∨ ∀ s d, ¬(r.hits s d = true ∧ r'.hits s d = true)) :
      SafeEdit (front ++ r :: r' :: back) (front ++ r' :: r :: back)
  /-- A rule is written out where it stands, its pairs in any order. -/
  | split {front back parts : List AccessRule} {r : AccessRule} (each : parts.Perm r.pieces) :
      SafeEdit (front ++ r :: back) (front ++ parts ++ back)

variable {rules rules' front back : List AccessRule} {r : AccessRule} {s d : String}

/-! ### What rules say about a pair -/

theorem decidePair_append (rules rules' : List AccessRule) (s d : String) :
    decidePair (rules ++ rules') s d = (decidePair rules s d).or (decidePair rules' s d) := by
  rw [decidePair, List.find?_append, Option.map_or]
  rfl

theorem decidePair_cons (r : AccessRule) (rules : List AccessRule) (s d : String) :
    decidePair (r :: rules) s d =
      if r.hits s d = true then some (r.action == .accept) else decidePair rules s d := by
  rw [decidePair, List.find?_cons]
  cases h : r.hits s d <;> simp [decidePair]

theorem decidePair_eq_none :
    decidePair rules s d = none ↔ ∀ r ∈ rules, ¬r.hits s d = true := by
  rw [decidePair, Option.map_eq_none_iff, List.find?_eq_none]

theorem exists_hits_of_decidePair {b : Bool} (h : decidePair rules s d = some b) :
    ∃ r ∈ rules, r.hits s d = true ∧ (r.action == .accept) = b := by
  obtain ⟨r, hr, hb⟩ := Option.map_eq_some_iff.mp h
  have hhits := List.find?_some (p := fun r : AccessRule => r.hits s d) hr
  exact ⟨r, List.mem_of_find?_eq_some hr, hhits, hb⟩

/-- Rules that all decide alike say what each of them says. -/
theorem decidePair_of_forall_action {action : AccessAction}
    (h : ∀ r ∈ rules, r.action = action) :
    decidePair rules s d =
      if ∃ r ∈ rules, r.hits s d = true then some (action == .accept) else none := by
  split
  · rename_i hex
    cases hb : decidePair rules s d with
    | none =>
        obtain ⟨r, hr, hhits⟩ := hex
        exact absurd hhits (decidePair_eq_none.mp hb r hr)
    | some b =>
        obtain ⟨r, hr, -, rfl⟩ := exists_hits_of_decidePair hb
        rw [h r hr]
  · rename_i hex
    exact decidePair_eq_none.mpr fun r hr hhits => hex ⟨r, hr, hhits⟩

/-! ### Edits -/

namespace SafeEdit

theorem decidePair_drop (h : ∀ s ∈ r.src, ∀ d ∈ r.dst, ∃ r' ∈ front, r'.hits s d = true) :
    decidePair (front ++ back) s d = decidePair (front ++ r :: back) s d := by
  rw [decidePair_append, decidePair_append, decidePair_cons]
  split
  · rename_i hhits
    obtain ⟨hs, hd⟩ := AccessRule.hits_iff.mp hhits
    obtain ⟨r', hr', hhits'⟩ := h s hs d hd
    -- The pair is decided before the rule that goes is looked at.
    obtain ⟨b, hb⟩ : ∃ b, decidePair front s d = some b :=
      Option.ne_none_iff_exists'.mp fun hnone => decidePair_eq_none.mp hnone r' hr' hhits'
    rw [hb, Option.some_or, Option.some_or]
  · rfl

theorem decidePair_swap {r' : AccessRule}
    (h : r.action = r'.action ∨ ∀ s d, ¬(r.hits s d = true ∧ r'.hits s d = true)) :
    decidePair (front ++ r' :: r :: back) s d = decidePair (front ++ r :: r' :: back) s d := by
  simp only [decidePair_append, decidePair_cons]
  by_cases hr : r.hits s d = true
  · by_cases hr' : r'.hits s d = true
    · rcases h with hsame | hapart
      · simp only [if_pos hr, if_pos hr', hsame]
      · exact absurd ⟨hr, hr'⟩ (hapart s d)
    · simp only [if_neg hr', if_pos hr]
  · simp only [if_neg hr]

theorem decidePair_split {parts : List AccessRule} (h : parts.Perm r.pieces) :
    decidePair (front ++ parts ++ back) s d = decidePair (front ++ r :: back) s d := by
  have hparts : decidePair parts s d = decidePair [r] s d := by
    rw [decidePair_of_forall_action fun p hp => AccessRule.action_of_mem_pieces (h.mem_iff.mp hp),
      decidePair_cons]
    simp only [h.mem_iff, AccessRule.exists_mem_pieces_hits]
    rfl
  rw [List.append_cons, decidePair_append, decidePair_append, decidePair_append,
    decidePair_append, hparts]

/-- An edit keeps what the rules say about each pair. -/
theorem decidePair_eq (h : SafeEdit rules rules') (s d : String) :
    decidePair rules' s d = decidePair rules s d := by
  cases h with
  | drop shadowed => exact decidePair_drop shadowed
  | swap apart => exact decidePair_swap apart
  | split each => exact decidePair_split each

end SafeEdit

/-- So do several edits, whatever lists they pass through. -/
theorem decidePair_eq_of_edits (h : Relation.ReflTransGen SafeEdit rules rules') (s d : String) :
    decidePair rules' s d = decidePair rules s d := by
  induction h with
  | refl => rfl
  | tail _ hedit ih => exact (hedit.decidePair_eq s d).trans ih

/-! ### Decisions -/

theorem allowsTags_of_ne_nil (h : rules ≠ []) (src dst : Tags) :
    allowsTags ⟨rules⟩ src dst =
      (src.toList.findSome? fun s => dst.toList.findSome? fun d => decidePair rules s d).getD
        false := by
  rw [allowsTags, if_neg (by simpa using h)]

/-- What a list of rules decides survives its edits, and is founded on its rules. -/
structure Steady (rules : List AccessRule) : Prop where
  /-- No sequence of edits changes a decision, unless no rule remains. -/
  edited : ∀ rules', Relation.ReflTransGen SafeEdit rules rules' → rules' ≠ [] →
    ∀ src dst, allowsTags ⟨rules'⟩ src dst = allowsTags ⟨rules⟩ src dst
  /-- Nodes may connect only if some rule accepts a pair of their tags. -/
  founded : ∀ src dst : Tags, allowsTags ⟨rules⟩ src dst = true →
    ∃ r ∈ rules, r.action = .accept ∧ ∃ s ∈ src, ∃ d ∈ dst, r.hits s d = true

/-- **A list with rules decides steadily.** -/
theorem steady_of_ne_nil (h : rules ≠ []) : Steady rules := by
  constructor
  case edited =>
    intro rules' hedits h' src dst
    simp only [allowsTags_of_ne_nil h', allowsTags_of_ne_nil h, decidePair_eq_of_edits hedits]
  case founded =>
    intro src dst hallows
    rw [allowsTags_of_ne_nil h, Option.getD_eq_iff] at hallows
    obtain hsome | ⟨-, hfalse⟩ := hallows
    · obtain ⟨s, hs, hsome⟩ := List.exists_of_findSome?_eq_some hsome
      obtain ⟨d, hd, hsome⟩ := List.exists_of_findSome?_eq_some hsome
      obtain ⟨r, hr, hhits, haction⟩ := exists_hits_of_decidePair hsome
      exact ⟨r, hr, beq_iff_eq.mp haction, s, Std.ExtTreeSet.mem_toList.mp hs, d,
        Std.ExtTreeSet.mem_toList.mp hd, hhits⟩
    · cases hfalse

namespace Sample

/-- Web servers may use both stores. -/
def webRule : AccessRule := ⟨.ofList ["web"], .ofList ["cache", "db"], .accept⟩

/-- Operators must not. -/
def opsRule : AccessRule := ⟨.ofList ["ops"], .ofList ["db"], .deny⟩

/-- What comes too late for web servers. -/
def lateRule : AccessRule := ⟨.ofList ["web"], .ofList ["db"], .deny⟩

end Sample

open Sample

/-- The late rule goes, operators come first, and the rule for web servers is written out. -/
theorem edits_lateRule :
    Relation.ReflTransGen SafeEdit [webRule, opsRule, lateRule] (opsRule :: webRule.pieces) := by
  have hdrop : SafeEdit [webRule, opsRule, lateRule] [webRule, opsRule] :=
    @SafeEdit.drop [webRule, opsRule] [] lateRule
      (by simp [lateRule, webRule, AccessRule.hits_iff])
  have hswap : SafeEdit [webRule, opsRule] [opsRule, webRule] := by
    refine @SafeEdit.swap [] [] webRule opsRule (.inr ?_)
    rintro s d ⟨hweb, hops⟩
    simp only [webRule, opsRule, AccessRule.hits_iff, Std.ExtTreeSet.mem_ofList] at hweb hops
    obtain rfl : s = "web" := by simpa using hweb.1
    simp at hops
  have hsplit : SafeEdit [opsRule, webRule] (opsRule :: webRule.pieces) := by
    simpa using @SafeEdit.split [opsRule] [] webRule.pieces webRule (.refl _)
  exact ((Relation.ReflTransGen.single hdrop).tail hswap).tail hsplit

theorem steady_of_ne_nil_lateRule : [webRule, opsRule, lateRule] ≠ [] ∧
    (∀ src dst, allowsTags ⟨opsRule :: webRule.pieces⟩ src dst =
      allowsTags ⟨[webRule, opsRule, lateRule]⟩ src dst) ∧
    allowsTags ⟨[webRule, opsRule, lateRule]⟩ (.ofList ["web"]) (.ofList ["db"]) = true ∧
    ∃ r ∈ [webRule, opsRule, lateRule], r.action = .accept ∧
      ∃ s ∈ (.ofList ["web"] : Tags), ∃ d ∈ (.ofList ["db"] : Tags), r.hits s d = true := by
  have hne : [webRule, opsRule, lateRule] ≠ [] := by simp
  have hallows :
      allowsTags ⟨[webRule, opsRule, lateRule]⟩ (.ofList ["web"]) (.ofList ["db"]) = true := by
    cbv
  obtain ⟨hedited, hfounded⟩ := steady_of_ne_nil hne
  exact ⟨hne, hedited _ edits_lateRule (by simp), hallows, hfounded _ _ hallows⟩

end AccessList

end TunnelMesh
