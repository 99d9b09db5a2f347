/-
What the parts of a line of the control protocol must be for the line to be read.

A line is split at its first equals sign.  The readers of values answer with a value
or with a fault; here is said when they answer with a value, and with which.
-/
import TunnelMesh.Proofs.Text.Lines
import TunnelMesh.Tunnel.Line

namespace TunnelMesh

open Net Text

/-! ### Answers -/

section Answers

variable {ε ε' α β : Type}

theorem map_eq_ok_iff {x : Except ε α} {f : α → β} {b : β} :
    x.map f = .ok b ↔ ∃ a, x = .ok a ∧ f a = b := by
  cases x with
  | error e => simp [Except.map]
  | ok a => simp [Except.map]

theorem mapError_eq_ok_iff {x : Except ε α} {g : ε → ε'} {a : α} :
    x.mapError g = .ok a ↔ x = .ok a := by
  cases x with
  | error e => simp [Except.mapError]
  | ok a => simp [Except.mapError]

end Answers

/-! ### Splitting -/

theorem splitFirst_eq_some {p : Char → Bool} {cs a b : List Char}
    (h : splitFirst p cs = some (a, b)) :
    ∃ c, p c = true ∧ cs = a ++ c :: b ∧ ∀ d ∈ a, p d = false := by
  induction cs generalizing a with
  | nil => simp [splitFirst] at h
  | cons c cs ih =>
      by_cases hc : p c = true
      · simp only [splitFirst, hc, if_true, Option.some.injEq, Prod.mk.injEq] at h
        obtain ⟨rfl, rfl⟩ := h
        exact ⟨c, hc, rfl, by simp⟩
      · simp only [splitFirst, hc, if_false, Bool.false_eq_true, Option.map_eq_some_iff] at h
        obtain ⟨⟨a', b'⟩, hrest, hpair⟩ := h
        obtain ⟨rfl, rfl⟩ := Prod.mk.inj hpair
        obtain ⟨d, hd, hcs, ha⟩ := ih hrest
        refine ⟨d, hd, by rw [hcs]; rfl, ?_⟩
        intro e he
        rcases List.mem_cons.mp he with rfl | he
        · simpa using hc
        · exact ha e he

/-- **A line is split at its first equals sign.** -/
theorem splitLine_eq_ok_iff {line key value : String} :
    splitLine line = .ok (key, value) ↔ line = key ++ "=" ++ value ∧ '=' ∉ key.toList := by
  constructor
  · intro h
    rw [splitLine] at h
    cases hsplit : splitOnce '=' line with
    | none => simp [hsplit] at h
    | some kv =>
        rw [hsplit] at h
        rw [splitOnce, Option.map_eq_some_iff] at hsplit
        obtain ⟨⟨a, b⟩, hfirst, rfl⟩ := hsplit
        obtain ⟨c, hc, hline, ha⟩ := splitFirst_eq_some hfirst
        obtain ⟨rfl, rfl⟩ := Prod.mk.inj (Except.ok.inj h)
        have hceq : c = '=' := by simpa using hc
        refine ⟨?_, ?_⟩
        · rw [← String.ofList_toList (s := line), hline, hceq, String.ofList_append,
            String.ofList_cons, ← String.append_assoc]
          rfl
        · rw [String.toList_ofList]
          intro hmem
          simpa using ha '=' hmem
  · rintro ⟨rfl, hkey⟩
    have hsplit : splitOnce '=' (key ++ "=" ++ value) = some (key, value) :=
      splitOnce_append hkey value
    rw [splitLine, hsplit]

/-- A line is split in one way. -/
theorem eq_of_split {key key' value value' : String} (h : key ++ "=" ++ value = key' ++ "=" ++ value')
    (hkey : '=' ∉ key.toList) (hkey' : '=' ∉ key'.toList) : key = key' ∧ value = value' := by
  have hsplit : splitLine (key ++ "=" ++ value) = .ok (key, value) :=
    splitLine_eq_ok_iff.mpr ⟨rfl, hkey⟩
  rw [splitLine_eq_ok_iff.mpr ⟨h, hkey'⟩] at hsplit
  obtain ⟨rfl, rfl⟩ := Prod.mk.inj (Except.ok.inj hsplit)
  exact ⟨rfl, rfl⟩

/-! ### Values -/

theorem readValue_eq_ok_iff {α : Type} {read : String → Option α} {key value : String} {a : α} :
    readValue read key value = .ok a ↔ read value = some a := by
  rw [readValue]
  cases read value with
  | none => simp
  | some b => simp

theorem readBool_eq_ok_iff {value : String} {b : Bool} :
    readBool value = .ok b ↔ value = boolText b := by
  have htext : boolText true = "true" ∧ boolText false = "false" := ⟨rfl, rfl⟩
  rw [readBool]
  by_cases htrue : value = "true"
  · cases b <;> simp [htrue, htext]
  · by_cases hfalse : value = "false"
    · cases b <;> simp [hfalse, htext]
    · cases b <;> simp [htrue, hfalse, htext]

theorem readSubnet_eq_ok_iff {value : String} {n : Subnet} :
    readSubnet value = .ok n ↔ readAllowedIp value = .ok n := by
  unfold readSubnet
  cases readAllowedIp value with
  | error e => simp
  | ok m => simp

end TunnelMesh
