/-
Version 6 addresses come back from their text.

Groups are read as long as one follows, so that a text may only be followed by what
is neither a digit, a point nor a group behind a colon: `EndsGroups`.  A double colon
is such an end as well, which is where the groups before the zeros stop.
-/
import TunnelMesh.Proofs.Net.Ipv4

namespace TunnelMesh.Net.Ipv6

open Text

/-! ### The value of groups -/

theorem ofDigits_map_range (b : Nat) (k n : Nat) :
    ofDigits b ((List.range k).map fun i => n / Nat.pow b (k - 1 - i) % b) = n % Nat.pow b k := by
  show ofDigits b ((List.range k).map fun i => n / b ^ (k - 1 - i) % b) = n % b ^ k
  induction k generalizing n with
  | zero => simp [ofDigits, Nat.mod_one]
  | succ k ih =>
      have hfront : (List.range k).map (fun i => n / b ^ (k + 1 - 1 - i) % b) =
          (List.range k).map fun i => n / b / b ^ (k - 1 - i) % b := by
        refine List.map_congr_left fun i hi => ?_
        have hik : i < k := List.mem_range.mp hi
        rw [Nat.div_div_eq_div_mul, ← Nat.pow_succ', show k + 1 - 1 - i = (k - 1 - i) + 1 by omega]
      rw [List.range_succ, List.map_append, List.map_singleton, ofDigits_concat, hfront, ih,
        Nat.pow_succ', Nat.mod_mul]
      simp only [Nat.add_sub_cancel, Nat.sub_self, Nat.pow_zero, Nat.div_one]
      rw [Nat.mul_comm b, Nat.add_comm]

theorem length_groups (ip : Ipv6) : ip.groups.length = 8 := by simp [groups]

theorem groups_lt (ip : Ipv6) : ∀ g ∈ ip.groups, g < 65536 := by
  intro g hg
  obtain ⟨i, -, rfl⟩ := List.mem_map.mp hg
  exact Nat.mod_lt _ (by omega)

theorem ofGroups_groups (ip : Ipv6) : ofGroups ip.groups = ip := by
  have htake : (ip.groups ++ List.replicate 8 0).take 8 = ip.groups :=
    List.take_left' (length_groups ip)
  have hval : ofDigits 65536 ip.groups = ip.bits.toNat := by
    refine (ofDigits_map_range 65536 8 ip.bits.toNat).trans (Nat.mod_eq_of_lt ?_)
    exact ip.bits.isLt
  rw [ofGroups, htake, hval, BitVec.ofNat_toNat, BitVec.setWidth_eq]

/-! ### The zeros that are left out -/

/-- A run of zeros, as start and length. -/
def ZeroRun (gs : List Nat) (run : Nat × Nat) : Prop :=
  run.1 + run.2 ≤ gs.length ∧ ∀ i, run.1 ≤ i → i < run.1 + run.2 → gs[i]? = some 0

/-- A run of zeros goes on with one more, or starts with it. -/
theorem ZeroRun.next {gs : List Nat} {start len index : Nat} (h : ZeroRun gs (start, len))
    (hend : 0 < len → start + len = index) (hzero : gs[index]? = some 0) :
    ZeroRun gs (if len = 0 then index else start, len + 1) := by
  have hlt : index < gs.length := (List.getElem?_eq_some_iff.mp hzero).1
  by_cases hlen : len = 0
  · subst hlen
    rw [if_pos rfl]
    refine ⟨hlt, ?_⟩
    intro i hi hi'
    have hii : i = index := Nat.le_antisymm (Nat.le_of_lt_succ hi') hi
    rw [hii, hzero]
  · rw [if_neg hlen]
    have hsum : start + len = index := hend (by omega)
    refine ⟨show start + (len + 1) ≤ gs.length by omega, ?_⟩
    intro i hi hi'
    replace hi' : i < start + (len + 1) := hi'
    by_cases hii : i = index
    · rw [hii, hzero]
    · exact h.2 i hi (show i < start + len by omega)

theorem zeroRun_longestZeros (gs : List Nat) :
    ∀ (todo : List Nat) (index start len : Nat) (best : Nat × Nat), todo = gs.drop index →
      (0 < len → start + len = index) → ZeroRun gs (start, len) → ZeroRun gs best →
      ZeroRun gs (longestZeros index start len best todo) := by
  intro todo
  induction todo with
  | nil => intro index start len best _ _ _ hbest; exact hbest
  | cons g todo ih =>
      intro index start len best hdrop hend hrun hbest
      have hindex : gs[index]? = some g := by
        rw [← List.head?_drop, ← hdrop]
        rfl
      have hnext : todo = gs.drop (index + 1) := by
        rw [← List.tail_drop, ← hdrop]
        rfl
      rw [longestZeros]
      by_cases hg : g = 0
      · rw [if_pos hg]
        have hrun' := hrun.next hend (hg ▸ hindex)
        refine ih (index + 1) _ (len + 1) _ hnext ?_ hrun' ?_
        · intro _
          split <;> omega
        split
        · exact hrun'
        · exact hbest
      · rw [if_neg hg]
        exact ih (index + 1) 0 0 best hnext (fun h => absurd h (by omega))
          ⟨by simp, fun i _ hi => absurd hi (by simp)⟩ hbest

/-- Leaving a run of zeros out loses nothing. -/
theorem ZeroRun.eq {gs : List Nat} {start len : Nat} (h : ZeroRun gs (start, len)) :
    gs = gs.take start ++ List.replicate len 0 ++ gs.drop (start + len) := by
  have hmid : (gs.drop start).take len = List.replicate len 0 := by
    refine List.ext_getElem? fun i => ?_
    rw [List.getElem?_take, List.getElem?_drop, List.getElem?_replicate]
    by_cases hi : i < len
    · rw [if_pos hi, if_pos hi]
      exact h.2 (start + i) (by simp) (by simpa using hi)
    · rw [if_neg hi, if_neg hi]
  rw [← hmid, List.append_assoc, ← List.drop_drop, List.take_append_drop, List.take_append_drop]

/-! ### Texts of groups -/

/-- The characters of groups, each after the first behind a colon. -/
def groupChars (first : Bool) : List Nat → List Char
  | [] => []
  | g :: gs => (if first then [] else [':']) ++ Nat.toDigits 16 g ++ groupChars false gs

theorem toList_groupsText (gs : List Nat) : (groupsText gs).toList = groupChars true gs := by
  have htail : ∀ gs : List Nat,
      groupChars false gs = gs.flatMap fun g => ':' :: Nat.toDigits 16 g := by
    intro gs
    induction gs with
    | nil => rfl
    | cons g gs ih => simp [groupChars, ih]
  rw [groupsText, String.toList_intercalate]
  cases gs with
  | nil => rfl
  | cons g gs =>
      rw [groupChars, htail]
      induction gs generalizing g with
      | nil => simp
      | cons g' gs ih =>
          have := ih g'
          simp_all

theorem graphic_groupChars (first : Bool) (gs : List Nat) : Graphic (groupChars first gs) := by
  induction gs generalizing first with
  | nil => simp [groupChars, Graphic]
  | cons g gs ih =>
      refine graphic_append.mpr ⟨graphic_append.mpr ⟨?_, ?_⟩, ih false⟩
      · split
        · simp [Graphic]
        · exact graphic_cons.mpr ⟨by decide, by simp [Graphic]⟩
      · exact graphic_toDigits (by omega) (by omega) g

/-- What may follow groups: no further digit, no point, and no group behind a colon. -/
structure EndsGroups (rest : List Char) : Prop where
  noDigit : NoDigit 16 rest
  noPoint : ∀ c ∈ rest.head?, c ≠ '.'
  noGroup : ∀ cs, rest = ':' :: cs → NoDigit 16 cs

theorem endsGroups_cons {c : Char} (h : digitValue? 16 c = none) (hp : c ≠ '.') (hc : c ≠ ':')
    (rest : List Char) : EndsGroups (c :: rest) := by
  refine ⟨noDigit_cons h rest, ?_, ?_⟩
  · intro d hd
    rw [List.head?_cons, Option.mem_some_iff] at hd
    exact hd ▸ hp
  · intro cs heq
    exact absurd (List.cons.inj heq).1 hc

theorem endsGroups_colons (rest : List Char) : EndsGroups (':' :: ':' :: rest) := by
  refine ⟨noDigit_cons (by decide) _, ?_, ?_⟩
  · intro d hd
    rw [List.head?_cons, Option.mem_some_iff] at hd
    rw [← hd]
    decide
  · intro cs heq
    rw [← (List.cons.inj heq).2]
    exact noDigit_cons (by decide) _

/-! ### Reading groups -/

theorem noDigit_ten {cs : List Char} (h : NoDigit 16 cs) : NoDigit 10 cs := by
  intro c hc
  have hnone := h c hc
  unfold digitValue? at hnone ⊢
  dsimp only at hnone ⊢
  rw [ite_eq_right_iff] at hnone ⊢
  intro hten
  exact absurd (hnone (Nat.lt_trans hten (by omega))) (by simp)

theorem ipv4_read_of_noDigit {cs : List Char} (h : NoDigit 16 cs) (zeros : Bool) :
    Ipv4.read zeros cs = none := by
  rw [Ipv4.read, NumberForm.read_of_noDigit (Ipv4.octetForm zeros) (noDigit_ten h)]
  rfl

theorem dropColon_true (cs : List Char) : dropColon true cs = some cs := rfl

theorem EndsGroups.dropColon {rest : List Char} (h : EndsGroups rest) (first : Bool) :
    dropColon first rest = none ∨ ∃ cs, dropColon first rest = some cs ∧ NoDigit 16 cs := by
  cases first with
  | true => exact Or.inr ⟨rest, rfl, h.noDigit⟩
  | false =>
      unfold Ipv6.dropColon
      rw [if_neg (by simp)]
      split
      · rename_i cs
        exact Or.inr ⟨cs, rfl, h.noGroup cs rfl⟩
      · exact Or.inl rfl

/-- Nothing is read where groups end. -/
theorem EndsGroups.readGroups {rest : List Char} (h : EndsGroups rest) (zeros first : Bool)
    (limit : Nat) : readGroups zeros first limit rest = ([], false, rest) := by
  cases limit with
  | zero => rfl
  | succ limit =>
      have hip : (Ipv6.dropColon first rest).bind (Ipv4.read zeros) = none := by
        rcases h.dropColon first with hnone | ⟨cs, hsome, hcs⟩
        · rw [hnone]
          rfl
        · rw [hsome]
          exact ipv4_read_of_noDigit hcs zeros
      have hgroup : (Ipv6.dropColon first rest).bind groupForm.read = none := by
        rcases h.dropColon first with hnone | ⟨cs, hsome, hcs⟩
        · rw [hnone]
          rfl
        · rw [hsome]
          exact groupForm.read_of_noDigit hcs
      rw [Ipv6.readGroups, hip, hgroup]
      simp

theorem EndsGroups.groupChars {rest : List Char} (h : EndsGroups rest) (gs : List Nat) :
    NoDigit 16 (groupChars false gs ++ rest) ∧
      ∀ c ∈ (groupChars false gs ++ rest).head?, c ≠ '.' := by
  cases gs with
  | nil => exact ⟨h.noDigit, h.noPoint⟩
  | cons g gs =>
      refine ⟨noDigit_cons (by decide) _, fun c hc => ?_⟩
      rw [Ipv6.groupChars, if_neg (by simp)] at hc
      rw [List.append_assoc, List.append_assoc, List.singleton_append, List.head?_cons,
        Option.mem_some_iff] at hc
      rw [← hc]
      decide

/-- A group and what follows is no version 4 address. -/
theorem ipv4_read_group (zeros : Bool) (g : Nat) (gs : List Nat) {rest : List Char}
    (h : EndsGroups rest) :
    Ipv4.read zeros (Nat.toDigits 16 g ++ (groupChars false gs ++ rest)) = none := by
  obtain ⟨hdigit, hpoint⟩ := h.groupChars gs
  refine Ipv4.read_of_noPoint zeros (Ipv4.noPoint_toDigits g ?_)
  exact Ipv4.noPoint_of_noDigit (noDigit_ten hdigit) hpoint

theorem read_group {g : Nat} (hg : g < 65536) {rest : List Char} (h : NoDigit 16 rest) :
    groupForm.read (Nat.toDigits 16 g ++ rest) = some (g, rest) := by
  have hsixteen : groupForm.radix = 16 := rfl
  refine groupForm.read_toDigits (by omega) (by omega) hg (fun m hm => ?_) h
  rw [← Option.some.inj hm]
  exact ⟨by omega, show g < 16 ^ 4 by omega⟩

/-- **Groups are read back from their text, up to its end.** -/
theorem readGroups_groupChars (zeros : Bool) {gs : List Nat} (hgs : ∀ g ∈ gs, g < 65536)
    {rest : List Char} (h : EndsGroups rest) (first : Bool) {limit : Nat}
    (hlimit : gs.length ≤ limit) :
    readGroups zeros first limit (groupChars first gs ++ rest) = (gs, false, rest) := by
  induction gs generalizing first limit with
  | nil => exact h.readGroups zeros first limit
  | cons g gs ih =>
      obtain ⟨limit, rfl⟩ : ∃ k, limit = k + 1 := by
        rw [List.length_cons] at hlimit
        exact ⟨limit - 1, by omega⟩
      have hdrop : dropColon first (groupChars first (g :: gs) ++ rest) =
          some (Nat.toDigits 16 g ++ (groupChars false gs ++ rest)) := by
        cases first <;> simp [groupChars, dropColon]
      have hrec := ih (fun x hx => hgs x (by simp [hx])) false
        (show gs.length ≤ limit by simpa using hlimit)
      rw [readGroups, hdrop, Option.bind_some, Option.bind_some, ipv4_read_group zeros g gs h,
        read_group (hgs g (by simp)) (h.groupChars gs).1]
      simp only [ite_self, hrec]

/-! ### Whole addresses -/

theorem mapped?_eq_some {ip : Ipv6} {v4 : Ipv4} (h : ip.mapped? = some v4) :
    ip.bits.toNat / 4294967296 = 65535 ∧ v4.bits.toNat = ip.bits.toNat % 4294967296 := by
  rw [mapped?] at h
  split at h
  · rename_i hhigh
    rw [← Option.some.inj h]
    exact ⟨hhigh, BitVec.toNat_ofNat _ _⟩
  · exact absurd h (by simp)

/-- The groups of an address that carries a version 4 address. -/
theorem ofGroups_mapped {ip : Ipv6} {v4 : Ipv4} (h : ip.mapped? = some v4) :
    ofGroups [0, 0, 0, 0, 0, 65535, v4.bits.toNat / 65536, v4.bits.toNat % 65536] = ip := by
  obtain ⟨hhigh, hlow⟩ := mapped?_eq_some h
  have hval : ofDigits 65536
      [0, 0, 0, 0, 0, 65535, v4.bits.toNat / 65536, v4.bits.toNat % 65536] = ip.bits.toNat := by
    simp only [ofDigits, List.foldl_cons, List.foldl_nil]
    omega
  have htake : (([0, 0, 0, 0, 0, 65535, v4.bits.toNat / 65536, v4.bits.toNat % 65536] : List Nat) ++
      List.replicate 8 0).take 8 =
        [0, 0, 0, 0, 0, 65535, v4.bits.toNat / 65536, v4.bits.toNat % 65536] := rfl
  rw [ofGroups, htake, hval, BitVec.ofNat_toNat, BitVec.setWidth_eq]

/-- The groups behind the colons of a carried address. -/
theorem readGroups_mapped (zeros : Bool) (v4 : Ipv4) {rest : List Char} (h : EndsGroups rest)
    (limit : Nat) :
    readGroups zeros true (limit + 3) (Nat.toDigits 16 65535 ++ ':' :: (v4.toText.toList ++ rest)) =
      ([65535, v4.bits.toNat / 65536, v4.bits.toNat % 65536], true, rest) := by
  have hcolon : NoDigit 16 (':' :: (v4.toText.toList ++ rest)) := noDigit_cons (by decide) _
  have hfirst : Ipv4.read zeros (Nat.toDigits 16 65535 ++ ':' :: (v4.toText.toList ++ rest)) =
      none := by
    refine Ipv4.read_of_noPoint zeros (Ipv4.noPoint_toDigits 65535 ?_)
    refine Ipv4.noPoint_of_noDigit (noDigit_ten hcolon) fun c hc => ?_
    rw [List.head?_cons, Option.mem_some_iff] at hc
    rw [← hc]
    decide
  have hsecond : readGroups zeros false (limit + 2) (':' :: (v4.toText.toList ++ rest)) =
      ([v4.bits.toNat / 65536, v4.bits.toNat % 65536], true, rest) := by
    rw [readGroups]
    simp [dropColon, Ipv4.read_toText zeros v4 (noDigit_ten h.noDigit)]
  rw [readGroups, dropColon_true, Option.bind_some, Option.bind_some, hfirst,
    read_group (by omega) hcolon]
  simp only [ite_self, hsecond]

theorem toList_toText_mapped {ip : Ipv6} {v4 : Ipv4} (h : ip.mapped? = some v4) :
    ip.toText.toList =
      ':' :: ':' :: (Nat.toDigits 16 65535 ++ ':' :: v4.toText.toList) := by
  rw [toText, h, String.toList_append]
  rfl

/-- The text of an address without another one inside: all groups, or those around the zeros. -/
theorem toList_toText_plain {ip : Ipv6} (h : ip.mapped? = none) :
    ip.toText.toList = groupChars true ip.groups ∨
      ∃ start len, 1 < len ∧ ZeroRun ip.groups (start, len) ∧
        ip.toText.toList = groupChars true (ip.groups.take start) ++
          ':' :: ':' :: groupChars true (ip.groups.drop (start + len)) := by
  have hempty : ZeroRun ip.groups (0, 0) := ⟨by simp, fun i _ hi => absurd hi (by simp)⟩
  have hrun := zeroRun_longestZeros ip.groups ip.groups 0 0 0 (0, 0) rfl (fun _ => rfl) hempty hempty
  obtain ⟨⟨start, len⟩, hzeros⟩ : ∃ z, z = longestZeros 0 0 0 (0, 0) ip.groups := ⟨_, rfl⟩
  rw [← hzeros] at hrun
  rw [toText, h]
  dsimp only
  rw [← hzeros]
  dsimp only
  by_cases hlen : 1 < len
  · refine Or.inr ⟨start, len, hlen, hrun, ?_⟩
    rw [if_pos hlen, String.toList_append, String.toList_append, toList_groupsText,
      toList_groupsText, List.append_assoc]
    rfl
  · rw [if_neg hlen]
    exact Or.inl (toList_groupsText ip.groups)

theorem graphic_toText (ip : Ipv6) : Graphic ip.toText.toList := by
  have hcolon : ∀ {cs : List Char}, Graphic cs → Graphic (':' :: cs) :=
    fun h => graphic_cons.mpr ⟨by decide, h⟩
  cases h : ip.mapped? with
  | some v4 =>
      rw [toList_toText_mapped h]
      refine hcolon (hcolon (graphic_append.mpr ⟨graphic_toDigits (by omega) (by omega) _, ?_⟩))
      exact hcolon v4.graphic_toText
  | none =>
      rcases toList_toText_plain h with htext | ⟨start, len, -, -, htext⟩
      · rw [htext]
        exact graphic_groupChars true _
      · rw [htext]
        refine graphic_append.mpr ⟨graphic_groupChars true _, hcolon (hcolon ?_)⟩
        exact graphic_groupChars true _

/-- **An address is read back from its text.** -/
theorem read_toText (zeros : Bool) (ip : Ipv6) {rest : List Char} (hrest : EndsGroups rest) :
    read zeros (ip.toText.toList ++ rest) = some (ip, rest) := by
  have hgroups := groups_lt ip
  cases h : ip.mapped? with
  | some v4 =>
      have hhead := (endsGroups_colons
        (Nat.toDigits 16 65535 ++ ':' :: (v4.toText.toList ++ rest))).readGroups zeros true 8
      rw [toList_toText_mapped h]
      simp only [List.cons_append, List.append_assoc]
      rw [read, hhead]
      have hlimit : ∃ k, (if zeros then 8 - 0 else 7 - 0) = k + 3 := by
        cases zeros
        · exact ⟨4, rfl⟩
        · exact ⟨5, rfl⟩
      obtain ⟨k, hk⟩ := hlimit
      simp only [List.length_nil, hk, readGroups_mapped zeros v4 hrest k]
      simp [ofGroups_mapped h, List.replicate]
  | none =>
      rcases toList_toText_plain h with htext | ⟨start, len, hlen, hrun, htext⟩
      · have hread := readGroups_groupChars zeros hgroups hrest true
          (Nat.le_of_eq (length_groups ip))
        rw [htext, read, hread]
        simp [length_groups, ofGroups_groups]
      · have hsum : start + len ≤ 8 := length_groups ip ▸ hrun.1
        have htake : (ip.groups.take start).length = start := by
          rw [List.length_take, length_groups]
          omega
        have hdrop : (ip.groups.drop (start + len)).length = 8 - (start + len) := by
          rw [List.length_drop, length_groups]
        have hhead := readGroups_groupChars zeros
          (fun g hg => hgroups g (List.mem_of_mem_take hg))
          (endsGroups_colons (groupChars true (ip.groups.drop (start + len)) ++ rest)) true
          (show (ip.groups.take start).length ≤ 8 by omega)
        have htail := readGroups_groupChars zeros
          (fun g hg => hgroups g (List.mem_of_mem_drop hg)) hrest true
          (show (ip.groups.drop (start + len)).length ≤
            if zeros then 8 - start else 7 - start by split <;> omega)
        rw [htext, List.append_assoc, List.cons_append, List.cons_append, read, hhead]
        simp only [htake, htail, hdrop]
        rw [if_neg (by omega), show 8 - start - (8 - (start + len)) = len by omega,
          ← hrun.eq, ofGroups_groups]
        rfl

/-- The text of an address does not start with a version 4 address. -/
theorem ipv4_read_toText (zeros : Bool) (ip : Ipv6) {rest : List Char} (hrest : EndsGroups rest) :
    Ipv4.read zeros (ip.toText.toList ++ rest) = none := by
  have hcolon : ∀ cs, Ipv4.read zeros (':' :: cs) = none :=
    fun cs => ipv4_read_of_noDigit (noDigit_cons (by decide) cs) zeros
  have hgroups : ∀ gs {cs : List Char}, EndsGroups cs →
      Ipv4.read zeros (groupChars true gs ++ cs) = none := by
    intro gs cs hcs
    cases gs with
    | nil => exact ipv4_read_of_noDigit hcs.noDigit zeros
    | cons g gs =>
        rw [groupChars, if_pos rfl, List.nil_append, List.append_assoc]
        exact ipv4_read_group zeros g gs hcs
  cases h : ip.mapped? with
  | some v4 =>
      rw [toList_toText_mapped h]
      exact hcolon _
  | none =>
      rcases toList_toText_plain h with htext | ⟨start, len, -, -, htext⟩
      · rw [htext]
        exact hgroups _ hrest
      · rw [htext, List.append_assoc]
        exact hgroups _ (endsGroups_colons _)

end TunnelMesh.Net.Ipv6
