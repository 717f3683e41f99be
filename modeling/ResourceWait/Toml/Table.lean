import ResourceWait.Document.Node

/-!
# Tables in TOML

A document defines tables in several ways, and whether a table may still be added to depends on how
it came about. `Table.isImplicit` is one that was only named on the way to another, and
`Table.isDotted` one that was named by the dots of a key. A table that was written out, with a header
or in braces, is closed to dotted keys; one that came about by dots is closed to headers.

Fields stand in the order of their first mention, except that a header which writes out a table named
before moves it to the end.
-/

namespace ResourceWait.Toml

mutual

/-- **What stands under a key.** -/
inductive Item where
  /-- A value, which cannot be added to. -/
  | value (value : Node)
  /-- A table. -/
  | table (table : Table)
  /-- Tables in a row, the last one open. -/
  | tables (tables : List Table)

/-- **A table** that is being defined. -/
inductive Table where
  /-- Whether it is implicit, whether it is dotted, and its fields. -/
  | mk (implicit dotted : Bool) (fields : List (String × Item))

end

instance : Inhabited Table := ⟨.mk false false []⟩

namespace Table

/-- A table that is written out and has no field yet. -/
def empty : Table := .mk false false []

/-- Whether a table was only named so far. -/
def isImplicit : Table → Bool
  | mk implicit _ _ => implicit

/-- Whether a table was named by a dotted key. -/
def isDotted : Table → Bool
  | mk _ dotted _ => dotted

/-- The fields of a table. -/
def fields : Table → List (String × Item)
  | mk _ _ fields => fields

/-- A table with other fields. -/
def withFields : Table → List (String × Item) → Table
  | mk implicit dotted _, fields => mk implicit dotted fields

/-- Fields with the one under a key replaced, or put at the end. -/
def put (key : String) (item : Item) : List (String × Item) → List (String × Item)
  | [] => [(key, item)]
  | (k, i) :: rest => if k = key then (k, item) :: rest else (k, i) :: put key item rest

/-- Fields without the one under a key. -/
def without (key : String) (fields : List (String × Item)) : List (String × Item) :=
  fields.filter fun (k, _) => k != key

/-- A table with a field put under a key. -/
def set (table : Table) (key : String) (item : Item) : Table :=
  table.withFields (put key item table.fields)

/-- What stands under a key. -/
def get? (table : Table) (key : String) : Option Item := table.fields.lookup key

/-- **Changes the table at the end of a path.** Tables that are missing on the way are named by it. In
a row of tables the path goes on in the last. `dotted` tells a dotted key from a header: it may only
pass through tables that are implicit. -/
def modifyAt (dotted : Bool) (change : Table → Option Table) :
    (path : List String) → Table → Option Table
  | [], table => change table
  | key :: path, table =>
    match table.get? key with
    | none => do
      return table.set key (.table (← modifyAt dotted change path (mk true dotted [])))
    | some (.value _) => none
    | some (.table inner) =>
      if dotted && !inner.isImplicit then none
      else do return table.set key (.table (← modifyAt dotted change path inner))
    | some (.tables inners) => do
      let last ← inners.getLast?
      return table.set key (.tables (inners.dropLast ++ [← modifyAt dotted change path last]))

/-- The table at the end of a path, an empty one if the path goes on where nothing is, and `none` if
there is a value in its way. -/
def at? : (path : List String) → Table → Option Table
  | [], table => some table
  | key :: path, table =>
    match table.get? key with
    | none => some empty
    | some (.value _) => none
    | some (.table inner) => inner.at? path
    | some (.tables inners) => do at? path (← inners.getLast?)

/-- **Defines a key**: the path to its table, its name there, and its value. A plain key does not go
into a table named by dots, nor a dotted one into a table named otherwise, and no key is defined
twice. -/
def define (path : List String) (key : String) (value : Node) : Table → Option Table :=
  modifyAt true (fun table =>
    if table.isDotted == path.isEmpty || (table.get? key).isSome then none
    else some (table.set key (.value value))) path

mutual

/-- What stands under a key, as a value of a document. -/
def nodeOfItem : Item → Node
  | .value node => node
  | .table table => nodeOfTable table
  | .tables tables => .seq (nodesOfTables tables)

/-- A table as a value of a document. -/
def nodeOfTable : Table → Node
  | mk _ _ fields => .table (nodesOfFields fields) true

/-- Tables in a row as values of a document. -/
def nodesOfTables : List Table → List Node
  | [] => []
  | table :: rest => nodeOfTable table :: nodesOfTables rest

/-- Fields of a table as those of a document. -/
def nodesOfFields : List (String × Item) → List (Option String × Node)
  | [] => []
  | (key, item) :: rest => (some key, nodeOfItem item) :: nodesOfFields rest

end

/-- **A table as a value of a document.** -/
def toNode (table : Table) : Node := nodeOfTable table

/-- **The table in braces** of given keys with their values; `none` if they do not go together. -/
def ofPairs (pairs : List (List String × String × Node)) : Option Table :=
  pairs.foldlM (fun table (path, key, value) => table.define path key value) empty

end Table

end ResourceWait.Toml
