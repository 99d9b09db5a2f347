/-
Sorted maps seen through their entries.

Tables of the library are built by folding over a list whose elements know their
own keys.  What such a table holds at a key is the last element with that key, or
the first one where older entries are kept; with distinct keys it is the element.
-/
import Mathlib.Data.List.Nodup
import Mathlib.Data.List.Sort
import TunnelMesh.Order

namespace TunnelMesh.Map

variable {κ β : Type} {cmp : κ → κ → Ordering} [Std.TransCmp cmp]

theorem values_eq_map_toList (t : Std.ExtTreeMap κ β cmp) : t.values = t.toList.map Prod.snd := by
  have h : t.values = t.foldr (fun _ v acc => v :: acc) [] := by
    obtain ⟨⟨t⟩⟩ := t
    rfl
  rw [h, Std.ExtTreeMap.foldr_eq_foldr_toList]
  induction t.toList with
  | nil => rfl
  | cons e es ih => simp [ih]

theorem mem_iff_exists_getElem? {t : Std.ExtTreeMap κ β cmp} {k : κ} :
    k ∈ t ↔ ∃ v, t[k]? = some v := by
  rw [← Std.ExtTreeMap.isSome_getElem?_iff_mem, Option.isSome_iff_exists]

/-! ### Sorting -/

/-- Sorting sorts if the order is one on the elements of the list. -/
theorem pairwise_mergeSort_of_forall {le : β → β → Bool} {P : β → Prop} {l : List β}
    (hl : ∀ b ∈ l, P b)
    (trans : ∀ a b c, P a → P b → P c → le a b = true → le b c = true → le a c = true)
    (total : ∀ a b, P a → P b → (le a b || le b a) = true) :
    (l.mergeSort le).Pairwise fun a b => le a b = true := by
  have hmap : (l.attachWith P hl).map Subtype.val = l := List.attachWith_map_subtype_val hl
  rw [← hmap, ← List.map_mergeSort (r := fun a b => le a.1 b.1) (fun a _ b _ => rfl),
    List.pairwise_map]
  exact List.pairwise_mergeSort (fun a b c => trans a.1 b.1 c.1 a.2 b.2 c.2)
    (fun a b => total a.1 b.1 a.2 b.2) _

/-- Sorting keeps elements with distinct keys apart. -/
theorem pairwise_mergeSort_of_nodup {le : β → β → Bool}
    (trans : ∀ a b c, le a b = true → le b c = true → le a c = true)
    (total : ∀ a b, (le a b || le b a) = true) {key : β → κ} {l : List β} (h : (l.map key).Nodup) :
    (l.mergeSort le).Pairwise fun a b => le a b = true ∧ key a ≠ key b := by
  refine (List.pairwise_mergeSort trans total l).and (List.pairwise_map.mp ?_)
  exact ((List.mergeSort_perm l le).map key).nodup_iff.mpr h

/-- Lists with the same elements that are sorted strictly are the same. -/
theorem eq_of_pairwise {lt : β → β → Prop} (asymm : ∀ a b, lt a b → ¬ lt b a) {l l' : List β}
    (h : l.Pairwise lt) (h' : l'.Pairwise lt) (hmem : ∀ b, b ∈ l ↔ b ∈ l') : l = l' := by
  have : Std.Irrefl lt := ⟨fun a ha => asymm a a ha ha⟩
  have : Std.Antisymm lt := ⟨fun a b hab hba => absurd hba (asymm a b hab)⟩
  exact h.eq_of_mem_iff h' hmem

/-! ### Single entries -/

variable [Std.LawfulEqCmp cmp]

theorem mem_values {t : Std.ExtTreeMap κ β cmp} {v : β} :
    v ∈ t.values ↔ ∃ k : κ, t[k]? = some v := by
  rw [values_eq_map_toList, List.mem_map]
  constructor
  · intro hx
    obtain ⟨⟨k, w⟩, hmem, rfl⟩ := hx
    exact ⟨k, Std.ExtTreeMap.mem_toList_iff_getElem?_eq_some.mp hmem⟩
  · intro hx
    obtain ⟨k, hk⟩ := hx
    exact ⟨(k, v), Std.ExtTreeMap.mem_toList_iff_getElem?_eq_some.mpr hk, rfl⟩

/-- Elements made of the entries of a table, with the same keys, have different keys. -/
theorem nodup_filterMap_toList {γ : Type} {key : γ → κ} (t : Std.ExtTreeMap κ β cmp)
    (f : κ → β → Option γ) (h : ∀ k b c, t[k]? = some b → f k b = some c → key c = k) :
    ((t.toList.filterMap fun e => f e.1 e.2).map key).Nodup := by
  rw [List.Nodup, List.pairwise_map, List.pairwise_filterMap]
  refine t.distinct_keys_toList.imp_of_mem ?_
  intro e e' he he' hne c hc c' hc' heq
  rw [Std.ExtTreeMap.mem_toList_iff_getElem?_eq_some] at he he'
  rw [h _ _ _ he hc, h _ _ _ he' hc'] at heq
  exact hne (Std.LawfulEqCmp.compare_eq_iff_eq.mpr heq)

/-- The keys of elements made of the entries of a table are those of the entries. -/
theorem exists_of_mem_filterMap_toList {γ : Type} {key : γ → κ} {t : Std.ExtTreeMap κ β cmp}
    {f : κ → β → Option γ} (h : ∀ k b c, t[k]? = some b → f k b = some c → key c = k) {k : κ}
    (hk : k ∈ (t.toList.filterMap fun e => f e.1 e.2).map key) :
    ∃ b c, t[k]? = some b ∧ f k b = some c := by
  obtain ⟨c, hmem, rfl⟩ := List.mem_map.mp hk
  obtain ⟨⟨k, b⟩, he, hc⟩ := List.mem_filterMap.mp hmem
  rw [Std.ExtTreeMap.mem_toList_iff_getElem?_eq_some] at he
  rw [h k b c he hc]
  exact ⟨b, c, he, hc⟩

/-- The keys of the entries that a filter drops, as many as the table gets smaller. -/
theorem exists_dropped (t : Std.ExtTreeMap κ β cmp) (f : κ → β → Bool) :
    ∃ dropped : List κ, dropped.Nodup ∧
      (∀ k, k ∈ dropped ↔ ∃ v, t[k]? = some v ∧ f k v = false) ∧
      t.size - (t.filter f).size = dropped.length := by
  refine ⟨(t.filter fun k v => !f k v).keys, Std.ExtTreeMap.nodup_keys, fun k => ?_, ?_⟩
  · rw [Std.ExtTreeMap.mem_keys, mem_iff_exists_getElem?]
    simp only [Std.ExtTreeMap.getElem?_filter', Option.filter_eq_some_iff, Bool.not_eq_true']
  · have hsize : t.size = (t.filter f).size + (t.filter fun k v => !f k v).size := by
      simp only [← Std.ExtTreeMap.length_toList, Std.ExtTreeMap.toList_filter]
      exact List.length_eq_length_filter_add _
    rw [Std.ExtTreeMap.length_keys]
    omega

variable [DecidableEq κ]

theorem getElem?_insert (t : Std.ExtTreeMap κ β cmp) (k a : κ) (v : β) :
    (t.insert k v)[a]? = if k = a then some v else t[a]? := by
  simp only [Std.ExtTreeMap.getElem?_insert, Std.LawfulEqCmp.compare_eq_iff_eq]

theorem getElem?_erase (t : Std.ExtTreeMap κ β cmp) (k a : κ) :
    (t.erase k)[a]? = if k = a then none else t[a]? := by
  simp only [Std.ExtTreeMap.getElem?_erase, Std.LawfulEqCmp.compare_eq_iff_eq]

theorem getD_insert (t : Std.ExtTreeMap κ β cmp) (k a : κ) (v w : β) :
    (t.insert k v).getD a w = if k = a then v else t.getD a w := by
  simp only [Std.ExtTreeMap.getD_insert, Std.LawfulEqCmp.compare_eq_iff_eq]

/-- One more element for a set in a table of sets. -/
theorem mem_getD_insert {γ : Type} {cmp' : γ → γ → Ordering} [Std.TransCmp cmp']
    [Std.LawfulEqCmp cmp'] (t : Std.ExtTreeMap κ (Std.ExtTreeSet γ cmp') cmp) (k a : κ) (b c : γ) :
    c ∈ (t.insert k ((t.getD k ∅).insert b)).getD a ∅ ↔ c ∈ t.getD a ∅ ∨ k = a ∧ b = c := by
  rw [getD_insert]
  split
  · rename_i hk
    rw [Std.ExtTreeSet.mem_insert, Std.LawfulEqCmp.compare_eq_iff_eq, ← hk, or_comm]
    simp
  · rename_i hk
    simp [hk]

theorem getElem?_insertIfNew (t : Std.ExtTreeMap κ β cmp) (k a : κ) (v : β) :
    (t.insertIfNew k v)[a]? = t[a]?.or (if k = a then some v else none) := by
  simp only [Std.ExtTreeMap.getElem?_insertIfNew, Std.LawfulEqCmp.compare_eq_iff_eq]
  by_cases hk : k = a
  · subst hk
    by_cases hmem : k ∈ t
    · simp [hmem]
    · simp [hmem]
  · simp [hk]

/-! ### Tables of elements that know their keys -/

/-- The last element with a key. -/
def lastWith (key : β → κ) (k : κ) (l : List β) : Option β := l.reverse.find? fun b => key b == k

theorem lastWith_append (key : β → κ) (k : κ) (l l' : List β) :
    lastWith key k (l ++ l') = (lastWith key k l').or (lastWith key k l) := by
  simp [lastWith, List.find?_append]

theorem lastWith_cons (key : β → κ) (k : κ) (b : β) (l : List β) :
    lastWith key k (b :: l) = (lastWith key k l).or (if key b = k then some b else none) := by
  rw [← List.singleton_append, lastWith_append]
  by_cases hk : key b = k <;> simp [lastWith, hk]

theorem lastWith_map {γ : Type} (key : β → κ) (k : κ) (f : γ → β) (l : List γ) :
    lastWith key k (l.map f) = (lastWith (fun c => key (f c)) k l).map f := by
  rw [lastWith, ← List.map_reverse, List.find?_map]
  rfl

theorem lastWith_filter {key : β → κ} {k : κ} {keep : β → Bool} (l : List β)
    (h : ∀ b, key b = k → keep b = true) : lastWith key k (l.filter keep) = lastWith key k l := by
  have hboth : (fun b => keep b && key b == k) = fun b => key b == k := by
    funext b
    by_cases hb : key b = k
    · simp [hb, h b hb]
    · simp [hb]
  rw [lastWith, ← List.filter_reverse, List.find?_filter]
  simp only [lastWith, Bool.decide_and, Bool.decide_eq_true, hboth]

theorem lastWith_eq_some {key : β → κ} {k : κ} {l : List β} {b : β}
    (h : lastWith key k l = some b) : b ∈ l ∧ key b = k := by
  refine ⟨?_, by simpa using List.find?_some h⟩
  simpa using List.mem_of_find?_eq_some h

theorem lastWith_isSome {key : β → κ} {k : κ} {l : List β} :
    (lastWith key k l).isSome ↔ k ∈ l.map key := by
  simp [lastWith, List.find?_isSome]

/-- Elements made of the entries of a table, with the same keys. -/
theorem lastWith_filterMap_toList {γ : Type} {key : γ → κ} (t : Std.ExtTreeMap κ β cmp)
    (f : κ → β → Option γ) (h : ∀ k b c, t[k]? = some b → f k b = some c → key c = k) (k : κ) :
    lastWith key k (t.toList.filterMap fun e => f e.1 e.2) = t[k]?.bind (f k) := by
  cases hlast : lastWith key k (t.toList.filterMap fun e => f e.1 e.2) with
  | some c =>
      obtain ⟨hmem, rfl⟩ := lastWith_eq_some hlast
      obtain ⟨⟨k, b⟩, he, hc⟩ := List.mem_filterMap.mp hmem
      rw [Std.ExtTreeMap.mem_toList_iff_getElem?_eq_some] at he
      rw [h k b c he hc, he]
      exact hc.symm
  | none =>
      cases hb : t[k]? with
      | none => rfl
      | some b =>
          cases hc : f k b with
          | none => exact hc.symm
          | some c =>
              have hmem : c ∈ t.toList.filterMap fun e => f e.1 e.2 :=
                List.mem_filterMap.mpr
                  ⟨(k, b), Std.ExtTreeMap.mem_toList_iff_getElem?_eq_some.mpr hb, hc⟩
              have hsome := lastWith_isSome.mpr (List.mem_map.mpr ⟨c, hmem, h k b c hb hc⟩)
              rw [hlast] at hsome
              exact absurd hsome (by simp)

theorem lastWith_toList (t : Std.ExtTreeMap κ β cmp) (k : κ) :
    lastWith Prod.fst k t.toList = t[k]?.map fun b => (k, b) := by
  have h : lastWith Prod.fst k (t.toList.filterMap some) = t[k]?.bind fun b => some (k, b) :=
    lastWith_filterMap_toList t (fun k b => some (k, b)) (by simp) k
  rw [List.filterMap_some] at h
  rw [h, Option.map_eq_bind]
  rfl

theorem getElem?_foldl_insert_map {γ : Type} (key : γ → κ) (value : γ → β) (l : List γ)
    (t : Std.ExtTreeMap κ β cmp) (k : κ) :
    (l.foldl (fun t c => t.insert (key c) (value c)) t)[k]? =
      ((lastWith key k l).map value).or t[k]? := by
  induction l generalizing t with
  | nil => rfl
  | cons c l ih =>
      rw [List.foldl_cons, ih, lastWith_cons, getElem?_insert]
      by_cases hk : key c = k <;> simp [hk]

theorem getElem?_foldl_insert (key : β → κ) (l : List β) (t : Std.ExtTreeMap κ β cmp) (k : κ) :
    (l.foldl (fun t b => t.insert (key b) b) t)[k]? = (lastWith key k l).or t[k]? := by
  simpa using getElem?_foldl_insert_map key id l t k

theorem getElem?_foldl_insertIfNew (key : β → κ) (l : List β) (t : Std.ExtTreeMap κ β cmp) (k : κ) :
    (l.foldl (fun t b => t.insertIfNew (key b) b) t)[k]? =
      t[k]?.or (l.find? fun b => key b == k) := by
  induction l generalizing t with
  | nil => simp
  | cons b l ih =>
      rw [List.foldl_cons, ih, getElem?_insertIfNew, Option.or_assoc]
      by_cases hk : key b = k <;> simp [hk]

/-- With distinct keys each element is the one of its key. -/
theorem find?_eq_some_of_nodup {key : β → κ} {l : List β} (h : (l.map key).Nodup) {b : β}
    (hb : b ∈ l) : (l.find? fun a => key a == key b) = some b := by
  induction l with
  | nil => simp at hb
  | cons a l ih =>
      rw [List.map_cons, List.nodup_cons] at h
      rcases List.mem_cons.mp hb with rfl | hb
      · simp
      · have hne : key a ≠ key b := by
          intro hc
          exact h.1 (hc ▸ List.mem_map_of_mem hb)
        simp [hne, ih h.2 hb]

/-- With distinct keys an element is the only one of its key. -/
theorem filter_eq_singleton_of_nodup {key : β → κ} {l : List β} (h : (l.map key).Nodup) {b : β}
    (hb : b ∈ l) : l.filter (fun a => key a == key b) = [b] := by
  induction l with
  | nil => simp at hb
  | cons a l ih =>
      rw [List.map_cons, List.nodup_cons] at h
      rcases List.mem_cons.mp hb with rfl | hb
      · have hnone : l.filter (fun a => key a == key b) = [] := by
          rw [List.filter_eq_nil_iff]
          intro a ha hkey
          exact h.1 ((beq_iff_eq.mp hkey) ▸ List.mem_map_of_mem ha)
        simp [hnone]
      · have hne : key a ≠ key b := by
          intro hc
          exact h.1 (hc ▸ List.mem_map_of_mem hb)
        simp [hne, ih h.2 hb]

end TunnelMesh.Map
