/-
Documents of the TOML format.

A document is lines that set keys of the current table and headers that open
tables.  A table may be opened once; keys with points open tables that no header
may reopen; tables written on one line are closed.
-/
import TunnelMesh.Toml.Scalar

namespace TunnelMesh.Toml

/-- How a table came to be. -/
inductive Opening where
  /-- On the way to another table's header. -/
  | implied
  /-- By its own header, or as the root. -/
  | header
  /-- By a key with points. -/
  | dotted
deriving DecidableEq

/-- A document while it is read. -/
inductive Tree where
  /-- A value that nothing can be added to. -/
  | leaf (v : Toml)
  | table (opening : Opening) (entries : List (String × Tree))
  /-- Tables under one key, the last one open; each is the list of its entries. -/
  | tables (items : List (List (String × Tree)))
deriving Inhabited

namespace Tree

/-- The entries of a table. -/
abbrev Entries := List (String × Tree)

mutual

/-- The value of a finished tree. -/
def close : Tree → Toml
  | leaf v => v
  | table _ entries => .table (closeEntries entries)
  | tables items => .arr (closeTables items)

/-- The values of a table's entries. -/
def closeEntries : List (String × Tree) → List (String × Toml)
  | [] => []
  | (k, t) :: rest => (k, t.close) :: closeEntries rest

/-- The values of several tables. -/
def closeTables : List (List (String × Tree)) → List Toml
  | [] => []
  | es :: rest => .table (closeEntries es) :: closeTables rest

end

/-- The tree under a key. -/
def find? (key : String) (es : Entries) : Option Tree :=
  (es.find? fun e => e.1 == key).map (·.2)

/-- Sets the tree under a key, at its place or at the end. -/
def put (key : String) (t : Tree) (es : Entries) : Entries :=
  if (find? key es).isSome then es.map fun e => if e.1 == key then (key, t) else e
  else es ++ [(key, t)]

/-- Changes the table that headers lead to over a path, opening tables on the way. -/
def alongHeader (change : Entries → Option Entries) : List String → Entries → Option Entries
  | [], es => change es
  | k :: path, es =>
    match find? k es with
    | none => (alongHeader change path []).map fun sub => put k (.table .implied sub) es
    | some (.leaf _) => none
    | some (.table o sub) => (alongHeader change path sub).map fun sub => put k (.table o sub) es
    | some (.tables items) =>
      match items.getLast? with
      | none => none
      | some last =>
        (alongHeader change path last).map fun sub =>
          put k (.tables (items.dropLast ++ [sub])) es

/-- Sets a key with points in a table: tables on the way must have been opened by such keys, and the
last one too. -/
def setKey (v : Toml) : List String → Entries → Option Entries
  | [], _ => none
  | [k], es => if (find? k es).isSome then none else some (es ++ [(k, .leaf v)])
  | k :: path, es =>
    match find? k es with
    | none => (setKey v path []).map fun sub => put k (.table .dotted sub) es
    | some (.table .dotted sub) => (setKey v path sub).map fun sub => put k (.table .dotted sub) es
    | some _ => none

/-- Opens a table by its header. -/
def openTable (key : String) (es : Entries) : Option Entries :=
  match find? key es with
  | none => some (es ++ [(key, .table .header [])])
  | some (.table .implied sub) => some (put key (.table .header sub) es)
  | some _ => none

/-- Opens one more table under a key. -/
def openTables (key : String) (es : Entries) : Option Entries :=
  match find? key es with
  | none => some (es ++ [(key, .tables [[]])])
  | some (.tables items) => some (put key (.tables (items ++ [[]])) es)
  | some _ => none

end Tree

/-! ### Values -/

mutual

/-- Reads a value. -/
def readValue : Nat → List Char → Option (Toml × List Char)
  | 0, _ => none
  | _ + 1, [] => none
  | fuel + 1, c :: rest =>
    if c = '"' ∨ c = '\'' then (readStr (c :: rest)).map fun (s, rest) => (str s, rest)
    else if c = '[' then readItems [] fuel rest
    else if c = '\x7b' then
      match skipSpace rest with
      | '\x7d' :: rest => some (table [], rest)
      | rest => readEntries [] fuel rest
    else if c = 't' then
      match rest with
      | 'r' :: 'u' :: 'e' :: rest => some (bool true, rest)
      | _ => none
    else if c = 'f' then
      match rest with
      | 'a' :: 'l' :: 's' :: 'e' :: rest => some (bool false, rest)
      | _ => none
    else readNumber (c :: rest)

/-- Reads the items of an array, after its bracket or a comma. -/
def readItems (acc : List Toml) : Nat → List Char → Option (Toml × List Char)
  | 0, _ => none
  | fuel + 1, cs =>
    match skipLines (cs.length + 1) cs with
    | ']' :: rest => some (arr acc.reverse, rest)
    | cs =>
      match readValue fuel cs with
      | none => none
      | some (v, rest) =>
        match skipLines (rest.length + 1) rest with
        | ',' :: rest => readItems (v :: acc) fuel rest
        | ']' :: rest => some (arr (v :: acc).reverse, rest)
        | _ => none

/-- Reads the entries of a table on one line, after its brace or a comma. -/
def readEntries (acc : Tree.Entries) : Nat → List Char → Option (Toml × List Char)
  | 0, _ => none
  | fuel + 1, cs =>
    match readKey (cs.length + 1) cs with
    | some (path, '=' :: rest) =>
      match readValue fuel (skipSpace rest) with
      | none => none
      | some (v, rest) =>
        match Tree.setKey v path acc with
        | none => none
        | some acc =>
          match skipSpace rest with
          | ',' :: rest => readEntries acc fuel rest
          | '\x7d' :: rest => some (table (Tree.closeEntries acc), rest)
          | _ => none
    | _ => none

end

/-! ### Lines -/

/-- A document up to a line: all tables, and the path of the one whose keys are being set. -/
structure Reading where
  root : Tree.Entries
  path : List String

/-- Reads a header after its bracket. -/
def readHeader (s : Reading) (cs : List Char) : Option (Reading × List Char) :=
  let (many, cs) := match cs with
    | '[' :: rest => (true, rest)
    | cs => (false, cs)
  match readKey (cs.length + 1) cs with
  | some (path, ']' :: rest) =>
    let rest := if many then readChar ']' rest else some rest
    match rest, path.getLast? with
    | some rest, some key =>
      let change := if many then Tree.openTables key else Tree.openTable key
      (Tree.alongHeader change path.dropLast s.root).map fun root => (⟨root, path⟩, rest)
    | _, _ => none
  | _ => none

/-- Reads a line that sets a key. -/
def readSetting (s : Reading) (cs : List Char) : Option (Reading × List Char) :=
  match readKey (cs.length + 1) cs with
  | some (path, '=' :: rest) =>
    match readValue (2 * rest.length + 2) (skipSpace rest) with
    | none => none
    | some (v, rest) =>
      (Tree.alongHeader (Tree.setKey v path) s.path s.root).map fun root => (⟨root, s.path⟩, rest)
  | _ => none

/-- Reads the lines of a document. -/
def readLines (s : Reading) : Nat → List Char → Option Tree.Entries
  | 0, _ => none
  | fuel + 1, cs =>
    match skipLines (cs.length + 1) cs with
    | [] => some s.root
    | c :: rest =>
      let line := if c = '[' then readHeader s rest else readSetting s (c :: rest)
      match line with
      | none => none
      | some (s, rest) =>
        match skipComment (skipSpace rest) with
        | [] => some s.root
        | rest =>
          match newline? rest with
          | some rest => readLines s fuel rest
          | none => none

/-- Reads a whole text as a document; a byte order mark before it does not count. -/
def ofText? (s : String) : Option Toml :=
  let cs := match s.toList with
    | '\uFEFF' :: rest => rest
    | cs => cs
  (readLines ⟨[], []⟩ (cs.length + 1) cs).map fun es => table (Tree.closeEntries es)

end TunnelMesh.Toml
