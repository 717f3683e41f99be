import ResourceWait.Toml.Value

/-!
# Documents in TOML

A document is read line by line into statements: a key with its value, the header of a table, or the
header of one more table in a row. `Document.ofStatements?` then builds the table that they define
together. A table is put in its place when it is complete, that is, where the next header or the end
of the document comes; up to then it is kept apart, so that a table is not found by a path that leads
through itself.
-/

namespace ResourceWait.Toml

/-- **A statement of a document.** -/
inductive Statement where
  /-- A key and its value. -/
  | pair (path : List String) (key : String) (value : Node)
  /-- The header of a table. -/
  | header (path : List String) (key : String)
  /-- The header of one more table in a row. -/
  | rowHeader (path : List String) (key : String)
deriving Inhabited

/-- A statement, and what follows it on its line. -/
def scanStatement (cs : List Char) : Option (Statement × List Char) :=
  match cs with
  | '[' :: '[' :: rest => do
    let ((path, key), rest) ← scanKey rest
    return (.rowHeader path key, ← behindWord? "]]" rest)
  | '[' :: rest => do
    let ((path, key), rest) ← scanKey rest
    return (.header path key, ← behindChar? ']' rest)
  | cs => do
    let ((path, key), rest) ← scanKey cs
    let rest := skipBlanks (← behindChar? '=' rest)
    let (value, rest) ← scanValue (2 * rest.length + 1) (depthLimit - 1) rest
    return (.pair path key value, rest)

/-- The statements of a text; `fuel` bounds the lines. -/
def scanStatements : (fuel : Nat) → List Char → Option (List Statement)
  | 0, _ => none
  | fuel + 1, cs => match skipBlanks cs with
    | [] => some []
    | c :: rest =>
      if c = '#' ∨ c = '\n' ∨ c = '\r' then do scanStatements fuel (← endLine? (c :: rest))
      else do
        let (statement, rest) ← scanStatement (c :: rest)
        let statements ← scanStatements fuel (← endLine? rest)
        return statement :: statements

/-- **A document that is being built.** -/
structure Document where
  /-- The tables that are complete. -/
  root : Table := .empty
  /-- The table that the next pair goes into. -/
  current : Table := .empty
  /-- Where that table belongs, and whether it is one in a row; the root belongs nowhere. -/
  place : Option ((List String × String) × Bool) := none
deriving Inhabited

namespace Document

/-- Puts the current table into its place. -/
def finishTable (document : Document) : Option Table :=
  match document.place with
  | none => some document.current
  | some ((path, key), true) =>
    document.root.modifyAt false (fun parent => do
      match parent.get? key with
      | some (.tables tables) => some (parent.set key (.tables (tables ++ [document.current])))
      | none => some (parent.set key (.tables [document.current]))
      | _ => none) path
  | some ((path, key), false) =>
    document.root.modifyAt false (fun parent => do
      match parent.get? key with
      | none => some (parent.set key (.table document.current))
      | some _ => none) path

/-- Begins a table: one that a path has only led through so far is taken out of its place. -/
def startTable (root : Table) (path : List String) (key : String) : Option Document := do
  let place := some ((path, key), false)
  match (← root.at? path).get? key with
  | none => return { root := ← root.modifyAt false some path, current := .empty, place }
  | some (.table (.mk true false fields)) =>
    let root ← root.modifyAt false (fun parent =>
      some (parent.withFields (Table.without key parent.fields))) path
    return { root, current := .mk false false fields, place }
  | some _ => none

/-- Begins one more table in a row, and the row with it if it is the first. -/
def startRow (root : Table) (path : List String) (key : String) : Option Document := do
  let root ← root.modifyAt false (fun parent =>
    match parent.get? key with
    | some (.tables _) => some parent
    | none => some (parent.set key (.tables []))
    | _ => none) path
  return { root, current := .empty, place := some ((path, key), true) }

/-- **Adds a statement** to a document, if it goes with those before. -/
def add (document : Document) : Statement → Option Document
  | .pair path key value => do
    return { document with current := ← document.current.define path key value }
  | .header path key => do startTable (← document.finishTable) path key
  | .rowHeader path key => do startRow (← document.finishTable) path key

/-- **The table that statements define together.** -/
def ofStatements? (statements : List Statement) : Option Table := do
  (← statements.foldlM add {}).finishTable

end Document

/-- A text without the mark of byte order that it may begin with. -/
def skipMark : List Char → List Char
  | '\uFEFF' :: rest => rest
  | cs => cs

/-- **The table that a text defines.** -/
def read (text : String) : Option Table := do
  let cs := skipMark text.toList
  Document.ofStatements? (← scanStatements (cs.length + 1) cs)

end ResourceWait.Toml
