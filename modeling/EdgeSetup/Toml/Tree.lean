import EdgeSetup.Json.Value

/-!
# Growing a document

A document grows one statement at a time: a table is opened by its header, an item is added to a
list of tables, or a value is assigned. A table may be opened by a header once, may grow by dotted
keys only where dotted keys made it, and a value is never replaced.
-/

namespace EdgeSetup.Toml

open Json

/-- How a table came to be. -/
inductive TableOrigin where
  /-- It has a header of its own. -/
  | header
  /-- It was named on the way to another header. -/
  | parent
  /-- It was named on the way to a value, by a dotted key. -/
  | dotted
  deriving DecidableEq, Repr

/-- A part of a document. -/
inductive Tree where
  | value (value : Value)
  | table (origin : TableOrigin) (members : List (String × Tree))
  /-- A list of tables, the last one first. -/
  | tables (items : List Tree)
  deriving Inhabited

namespace Tree

/-- A document with nothing in it. -/
def empty : Tree := table .header []

/-- A path through tables. -/
abbrev Path := List String

/-- Changes the table at a path. Tables missing on the way are made, with the given origin; a list
of tables stands for its last one. Dotted keys do not pass through a table with a header. -/
def editAt? (made : TableOrigin) (edit : Tree → Option Tree) : Path → Tree → Option Tree
  | key :: rest, table origin members =>
    let child? : Option Tree :=
      match Members.get? members key with
      | none => editAt? made edit rest (table made [])
      | some (value _) => none
      | some (tables []) => none
      | some (tables (last :: before)) =>
        (editAt? made edit rest last).map (fun last => tables (last :: before))
      | some (table origin members) =>
        if made = .dotted && origin = .header then none
        else editAt? made edit rest (table origin members)
    child?.map (fun child => table origin (Members.insert key child members))
  | [], tree => edit tree
  | _ :: _, _ => none

/-- Opens a table by its header, within the table that holds it. -/
def openIn? (key : String) : Tree → Option Tree
  | table origin members =>
    match Members.get? members key with
    | none => some (table origin (Members.insert key (table .header []) members))
    | some (table .parent inner) =>
      some (table origin (Members.insert key (table .header inner) members))
    | some _ => none
  | _ => none

/-- Adds an empty table to a list of tables, within the table that holds it. -/
def appendIn? (key : String) : Tree → Option Tree
  | table origin members =>
    match Members.get? members key with
    | none => some (table origin (Members.insert key (tables [empty]) members))
    | some (tables items) =>
      some (table origin (Members.insert key (tables (empty :: items)) members))
    | some _ => none
  | _ => none

/-- Puts a value under a key that is not taken. A key reached by dots must lie in a table that dots
made, and a plain one in a table that they did not. -/
def assignIn? (dotted : Bool) (key : String) (item : Value) : Tree → Option Tree
  | table origin members =>
    if decide (origin = .dotted) ≠ dotted || (Members.get? members key).isSome then none
    else some (table origin (Members.insert key (value item) members))
  | _ => none

/-- Opens the table of a header. -/
def openTable? (path : Path) (tree : Tree) : Option Tree := do
  let key ← path.getLast?
  editAt? .parent (openIn? key) path.dropLast tree

/-- Adds a table to the list of tables of a header. -/
def appendTable? (path : Path) (tree : Tree) : Option Tree := do
  let key ← path.getLast?
  editAt? .parent (appendIn? key) path.dropLast tree

/-- Assigns a value to a dotted key, within the table that the path leads to. -/
def assign? (place path : Path) (item : Value) (tree : Tree) : Option Tree := do
  let key ← path.getLast?
  let within (tree : Tree) : Option Tree :=
    editAt? .dotted (assignIn? (1 < path.length) key item) path.dropLast tree
  editAt? .parent within place tree

mutual

/-- The value of a finished part. -/
def toValue : Tree → Value
  | value item => item
  | table _ members => .object (toMembers members)
  | tables items => .array (toItems items).reverse

/-- The values of the members of a table. -/
def toMembers : List (String × Tree) → List (String × Value)
  | [] => []
  | (key, tree) :: rest => (key, toValue tree) :: toMembers rest

/-- The values of the items of a list of tables. -/
def toItems : List Tree → List Value
  | [] => []
  | item :: rest => toValue item :: toItems rest

end

/-- The value of an inline table: its assignments, made one by one. -/
def ofAssignments? (assignments : List (Path × Value)) : Option Value :=
  (assignments.foldlM (fun (tree : Tree) (path, item) => tree.assign? [] path item) empty).map
    toValue

end Tree

end EdgeSetup.Toml
