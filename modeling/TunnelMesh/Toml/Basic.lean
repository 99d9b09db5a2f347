/-
Values of the TOML format.

Tables keep their entries in the order of the text, and no key occurs twice in one
table.  Dates and times are kept as they were written.
-/
import TunnelMesh.Json.Basic

namespace TunnelMesh

/-- A value of the TOML format. -/
inductive Toml where
  | str (s : String)
  | int (n : Int)
  | float (x : Float)
  | bool (b : Bool)
  /-- A date, a time or both. -/
  | time (text : String)
  | arr (items : List Toml)
  | table (entries : List (String × Toml))
deriving Inhabited

namespace Toml

mutual

/-- The same data in JSON; a time becomes a record of its own. -/
def toJson : Toml → Json
  | str s => .str s
  | int n => .int n
  | float x => .float x
  | bool b => .bool b
  | time t => .obj [("$time", .str t)]
  | arr items => .arr (itemsToJson items)
  | table entries => .obj (entriesToJson entries)

/-- The items of an array in JSON. -/
def itemsToJson : List Toml → List Json
  | [] => []
  | v :: rest => v.toJson :: itemsToJson rest

/-- The entries of a table in JSON. -/
def entriesToJson : List (String × Toml) → List (String × Json)
  | [] => []
  | (k, v) :: rest => (k, v.toJson) :: entriesToJson rest

end

end Toml

end TunnelMesh
