import ResourceWait.Decimal.Layout
import ResourceWait.Document.Node
import ResourceWait.Toml.Form

/-!
# Writing TOML

A table is written as its plain fields, one to a line, and then its tables, each under a header and
behind an empty line. A list of several values has a line for each.

There are values that TOML has no way to write: integers beyond 64 bits with a sign, and nothing at
all. Then nothing is written.
-/

namespace ResourceWait.Toml

/-- Values in a row, on one line if there are fewer than two. -/
def writeList : List (List Char) → List Char
  | [] => ['[', ']']
  | [item] => '[' :: (item ++ [']'])
  | items =>
    '[' :: '\n' :: (items.flatMap fun item => ' ' :: ' ' :: ' ' :: ' ' :: (item ++ [',', '\n']))
      ++ [']']

mutual

/-- **A value as it is written**, if it can be. -/
def writeValue : Node → Option (List Char)
  | .flag b => some (toString b).toList
  | .int i => if -Int.pow 2 63 ≤ i ∧ i < Int.pow 2 63 then some (toString i).toList else none
  | .float x => some (Layout.positional.text x).toList
  | .text s => some (Form.write s)
  | .list items _ => (writeValues items).map writeList
  | _ => none

/-- Values as they are written, if all of them can be. -/
def writeValues : List Node → Option (List (List Char))
  | [] => some []
  | item :: rest => do
    let written ← writeValue item
    let others ← writeValues rest
    return written :: others

end

/-- A field on a line of its own. -/
def writeField (key : String) (value : Node) : Option (List Char) :=
  (writeValue value).map fun written => key.toList ++ (' ' :: '=' :: ' ' :: (written ++ ['\n']))

/-- The plain fields of a table, one to a line; its tables are left out. -/
def writePlain : List (String × Node) → Option (List Char)
  | [] => some []
  | (_, .table _ _) :: rest => writePlain rest
  | (key, value) :: rest => do
    let line ← writeField key value
    let others ← writePlain rest
    return line ++ others

/-- A table under a header. -/
def writeSection (key : String) (fields : List (String × Node)) : Option (List Char) :=
  (writePlain fields).map fun lines => '\n' :: '[' :: (key.toList ++ (']' :: '\n' :: lines))

/-- The fields of a table whose keys are texts. -/
def namedFields (fields : List (Option String × Node)) : List (String × Node) :=
  fields.filterMap fun (key, value) => key.map (·, value)

/-- The tables of a table, each under its header; its plain fields are left out. -/
def writeSections : List (String × Node) → Option (List Char)
  | [] => some []
  | (key, .table fields _) :: rest => do
    let section_ ← writeSection key (namedFields fields)
    let others ← writeSections rest
    return section_ ++ others
  | _ :: rest => writeSections rest

/-- **A document as it is written**: the plain fields, then the tables. The keys are words, and the
tables hold no tables. -/
def writeDocument (fields : List (String × Node)) : Option String := do
  let plain ← writePlain fields
  let sections ← writeSections fields
  return String.ofList (plain ++ sections)

end ResourceWait.Toml
