/-
Taking values out of JSON.

A record is an object with named members or an array with the same values in the
order of the fields.  Unknown members are skipped, repeated known ones refused.
A field is required, has a default, or is optional; an optional field may be
missing from an object but not from an array.
-/
import TunnelMesh.Json.Basic
import TunnelMesh.Text.Digits

namespace TunnelMesh.Json

/-- The fields of a record as they were found. -/
structure Record where
  /-- Known names with their values. -/
  found : List (String × Json)
  /-- Whether the record was written as an array. -/
  positional : Bool

/-- Takes a value as a record with the given fields. -/
def record? (fields : List String) : Json → Option Record
  | obj members =>
    let known := members.filter fun m => fields.contains m.1
    if (known.map (·.1)).eraseDups.length = known.length then some ⟨known, false⟩ else none
  | arr items =>
    if items.length ≤ fields.length then some ⟨fields.zip items, true⟩ else none
  | _ => none

namespace Record

/-- The value of a field, if the record has one. -/
def value? (r : Record) (name : String) : Option Json :=
  (r.found.find? fun m => m.1 == name).map (·.2)

/-- A field that must be there. -/
def required {α : Type} (r : Record) (name : String) (read : Json → Option α) : Option α :=
  (r.value? name).bind read

/-- A field with a default. -/
def withDefault {α : Type} (r : Record) (name : String) (read : Json → Option α) (default : α) :
    Option α :=
  match r.value? name with
  | none => some default
  | some v => read v

/-- An optional value: null is nothing. -/
def orNull {α : Type} (read : Json → Option α) : Json → Option (Option α)
  | null => some none
  | v => (read v).map some

/-- An optional field. -/
def optional {α : Type} (r : Record) (name : String) (read : Json → Option α) :
    Option (Option α) :=
  match r.value? name with
  | none => if r.positional then none else some none
  | some v => orNull read v

end Record

/-- A string. -/
def text? : Json → Option String
  | str s => some s
  | _ => none

/-- A truth value. -/
def bool? : Json → Option Bool
  | bool b => some b
  | _ => none

/-- A natural number below a bound. -/
def natBelow? (bound : Nat) : Json → Option Nat
  | int n => if 0 ≤ n ∧ n < bound then some n.toNat else none
  | _ => none

/-- A number of 16 bits. -/
def u16? (v : Json) : Option UInt16 := (natBelow? Text.bound16 v).map UInt16.ofNat

/-- A number of 32 bits. -/
def u32? (v : Json) : Option UInt32 := (natBelow? Text.bound32 v).map UInt32.ofNat

/-- A number of 64 bits. -/
def u64? (v : Json) : Option UInt64 := (natBelow? Text.bound64 v).map UInt64.ofNat

/-- A string that another reader takes. -/
def parsed? {α : Type} (read : String → Option α) : Json → Option α
  | str s => read s
  | _ => none

/-- The floating point number nearest to a whole number. -/
def floatOfInt (n : Int) : Float :=
  let x := n.natAbs.toUInt64.toFloat
  if n < 0 then -x else x

/-- A number. -/
def float? : Json → Option Float
  | int n => some (floatOfInt n)
  | float x => some x
  | _ => none

/-- Reads every item of a list, or none. -/
def readAll {α : Type} (read : Json → Option α) : List Json → Option (List α)
  | [] => some []
  | v :: rest =>
    match read v with
    | none => none
    | some a => (readAll read rest).map (a :: ·)

/-- An array. -/
def list? {α : Type} (read : Json → Option α) : Json → Option (List α)
  | arr items => readAll read items
  | _ => none

/-- An object as a list of entries in the order of the text. -/
def entries? {α β : Type} (key : String → Option α) (read : Json → Option β) :
    Json → Option (List (α × β))
  | obj members =>
    members.mapM fun m => do
      let k ← key m.1
      let v ← read m.2
      return (k, v)
  | _ => none

/-- A number in the place of a name: digits without leading zero. -/
def numericKey? (bound : Nat) (s : String) : Option Nat :=
  let cs := s.toList
  if Text.isDecimal cs && (cs.length = 1 || cs.head? != some '0') then Text.nat? bound s else none

/-- One of several named alternatives without content: its name, or an object that maps the name to
null. -/
def variant? {α : Type} (names : List (String × α)) : Json → Option α
  | str s => (names.find? fun n => n.1 == s).map (·.2)
  | obj [(s, null)] => (names.find? fun n => n.1 == s).map (·.2)
  | _ => none

end TunnelMesh.Json
