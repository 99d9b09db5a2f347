/-
Tables read as records.

What is written of a record are entries under some of its names, in their order.  So no
name comes twice and none is unknown, the record is accepted, and each of its fields is
found under its name or else left to its default.
-/
import TunnelMesh.Json.Decode
import TunnelMesh.Proofs.Toml.Document

namespace TunnelMesh.Toml

open Json

variable {names : List String} {es : List (String × Toml)}

/-- Entries under some of the names, in their order, with values that come back. -/
structure Fills (names : List String) (es : List (String × Toml)) : Prop where
  keys : (es.map (·.1)).Sublist names
  values : ∀ e ∈ es, e.2.ReadsBack

theorem fills_nil : Fills [] [] := ⟨List.Sublist.refl [], by simp⟩

theorem Fills.cons {k : String} {v : Toml} (hv : v.ReadsBack) (h : Fills names es) :
    Fills (k :: names) ((k, v) :: es) where
  keys := h.keys.cons_cons k
  values e he := (List.mem_cons.mp he).elim (fun heq => heq ▸ hv) (h.values e)

theorem Fills.skip (k : String) (h : Fills names es) : Fills (k :: names) es :=
  ⟨h.keys.cons k, h.values⟩

/-- Entries under bare names make a section that comes back. -/
theorem Fills.section (h : Fills names es) (hnames : names.Nodup) (hbare : ∀ k ∈ names, Bare k)
    {name : String} (hname : Bare name) : Section.ReadsBack ⟨name, es⟩ where
  name := hname
  keys e he := hbare e.1 (h.keys.subset (List.mem_map_of_mem he))
  values := h.values
  nodup := h.keys.nodup hnames

/-! ### Fields -/

theorem entriesToJson_eq_map (es : List (String × Toml)) :
    entriesToJson es = es.map fun e => (e.1, e.2.toJson) := by
  induction es with
  | nil => rfl
  | cons e es ih =>
      rw [entriesToJson, ih]
      rfl

theorem eraseDups_of_nodup {ks : List String} (h : ks.Nodup) : ks.eraseDups = ks := by
  induction ks with
  | nil => rfl
  | cons k ks ih =>
      have hkeep : (ks.filter fun b => !b == k) = ks := by
        rw [List.filter_eq_self]
        intro b hb
        rw [Bool.not_eq_true', beq_eq_false_iff_ne]
        rintro rfl
        exact (List.nodup_cons.mp h).1 hb
      rw [List.eraseDups_cons, hkeep, ih (List.nodup_cons.mp h).2]

/-- A table with some of the names is a record. -/
theorem record?_table (h : (es.map (·.1)).Sublist names) (hnames : names.Nodup) :
    (table es).toJson.record? names = some ⟨entriesToJson es, false⟩ := by
  have hkeys : (entriesToJson es).map (·.1) = es.map (·.1) := by
    rw [entriesToJson_eq_map, List.map_map]
    rfl
  have hknown : (entriesToJson es).filter (fun m => names.contains m.1) = entriesToJson es := by
    rw [List.filter_eq_self]
    intro m hm
    rw [List.contains_iff_mem]
    exact h.subset (hkeys ▸ List.mem_map_of_mem hm)
  have hdistinct : ((entriesToJson es).map (·.1)).eraseDups = (entriesToJson es).map (·.1) := by
    rw [hkeys, eraseDups_of_nodup (h.nodup hnames)]
  rw [toJson, record?]
  simp only [hknown, hdistinct, List.length_map, if_true]

@[simp]
theorem value?_nil (name : String) : Record.value? ⟨entriesToJson [], false⟩ name = none := rfl

/-- The value under a name is that of the first entry, or what the others have. -/
@[simp]
theorem value?_cons (k : String) (v : Toml) (es : List (String × Toml)) (name : String) :
    Record.value? ⟨entriesToJson ((k, v) :: es), false⟩ name =
      if k = name then some v.toJson else Record.value? ⟨entriesToJson es, false⟩ name := by
  rw [Record.value?, entriesToJson, List.find?_cons]
  by_cases hk : k = name
  · simp [hk]
  · rw [beq_eq_false_iff_ne.mpr hk, if_neg hk]
    rfl

end TunnelMesh.Toml

namespace TunnelMesh.Json.Record

variable {α : Type} {r : Record} {name : String} {read : Json → Option α}

/-- A reader goes on with the field that it read. -/
theorem bind_field {β : Type} {field : Option α} {a : α} (h : field = some a)
    (next : α → Option β) : (field >>= next) = next a := by
  rw [h]
  rfl

theorem required_eq {v : Json} {a : α} (h : r.value? name = some v) (hread : read v = some a) :
    r.required name read = some a := by
  rw [required, h, Option.bind_some, hread]

theorem withDefault_eq {v : Json} {a d : α} (h : r.value? name = some v) (hread : read v = some a) :
    r.withDefault name read d = some a := by
  rw [withDefault, h]
  exact hread

/-- What was written of a setting that may be missing is read with the default in its place. -/
theorem withDefault_orNull {write : α → Toml}
    (hread : ∀ a, orNull read (write a).toJson = some (some a)) {o : Option α} (d : Option α)
    (h : r.value? name = (o.map write).map Toml.toJson) :
    r.withDefault name (orNull read) d = some (o.or d) := by
  rw [withDefault, h]
  cases o with
  | none => rfl
  | some a => exact hread a

end TunnelMesh.Json.Record
