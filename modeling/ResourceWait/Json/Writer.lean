import ResourceWait.Decimal.Layout
import ResourceWait.Json.Quoted
import ResourceWait.Record.Basic

/-!
# Writing JSON

The compact form of a value: no space anywhere, fields in their order, escapes only where they are
needed. What denotes no value is written as `null`.
-/

namespace ResourceWait

namespace Json

/-- Parts with commas between them. -/
def commaSeparated : List (List Char) → List Char
  | [] => []
  | [part] => part
  | part :: rest => part ++ ',' :: commaSeparated rest

mutual

/-- **The compact form of a value.** -/
def write : Node → List Char
  | .null => "null".toList
  | .flag b => (toString b).toList
  | .int i => (toString i).toList
  | .float x => match x with
    | .finite .. => (Layout.bounded.text x).toList
    | _ => "null".toList
  | .text s => Quoted.write s
  | .list items _ => '[' :: (commaSeparated (writeItems items) ++ [']'])
  | .table fields _ => '{' :: (commaSeparated (writeFields fields) ++ ['}'])
  | .faulty => "null".toList
  | .broken => "null".toList

/-- The compact forms of the values of a list. -/
def writeItems : List Node → List (List Char)
  | [] => []
  | item :: rest => write item :: writeItems rest

/-- The compact forms of the fields of a table. -/
def writeFields : List (Option String × Node) → List (List Char)
  | [] => []
  | (key, value) :: rest => (Quoted.write (key.getD "") ++ ':' :: write value) :: writeFields rest

end

end Json

/-- The compact JSON text of a value. -/
def Node.toJson (node : Node) : String := String.ofList (Json.write node)

/-- **The compact JSON text of a record**: all its fields, in the order declared. -/
def Record.toJson {R : Type} [Record R] (record : R) : String := (Record.write record).toJson

end ResourceWait
