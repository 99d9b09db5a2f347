/-
Values of the JSON format.

Whole numbers that fit 64 bits, signed or not, stay exact; every other number is
a floating point number.  Objects keep their members in the order of the text,
repeated names included, because a reader of records refuses repetitions.  Two
values exist only so that they can be skipped: a string with half of a surrogate
pair and a number beyond the range of floating point.
-/
import TunnelMesh.Decimal.Shortest

namespace TunnelMesh

/-- A value of the JSON format. -/
inductive Json where
  | null
  | bool (b : Bool)
  /-- A whole number from -2⁶³ to 2⁶⁴ - 1. -/
  | int (n : Int)
  | float (x : Float)
  | str (s : String)
  | arr (items : List Json)
  | obj (members : List (String × Json))
  /-- A string that holds half of a surrogate pair. -/
  | brokenText
  /-- A number beyond the range of floating point. -/
  | hugeNumber
deriving Inhabited

namespace Json

/-- The member of a given name; of several, the last. -/
def member? (name : String) : Json → Option Json
  | obj members => (members.reverse.find? fun m => m.1 == name).map (·.2)
  | _ => none

/-- A natural number. -/
def nat (n : Nat) : Json := int n

/-- An optional value; nothing is null. -/
def ofOption {α : Type} (f : α → Json) : Option α → Json
  | none => null
  | some a => f a

/-- A list of values. -/
def ofList {α : Type} (f : α → Json) (xs : List α) : Json := arr (xs.map f)

/-- A member that is left out when there is no value. -/
def optionalMember {α : Type} (name : String) (f : α → Json) : Option α → List (String × Json)
  | none => []
  | some a => [(name, f a)]

end Json

end TunnelMesh
