import ResourceWait.Record.Codec

/-!
# Records in documents

A record is a structure with named fields, and a document may give it in two ways: as a table of
fields under their names, or as a list of its fields in the order declared.

In a table the keys may come in any order and unknown ones are passed over, but a known one may not
come twice. The first fault in the order of the document is the one reported; only when there is none
are the fields counted, and then the first missing one in the order declared is. A field with a value
for its absence (`Field.absent`) is never missing.

In a list a tail of fields may be left out if all of them have such values. What a list may hold
beyond the last field is up to the kind of document (`Surplus`).

`Record` ties a structure to its fields, as a type with a place for each (`Record.Tuple`) and two
functions that are each other's inverse.
-/

namespace ResourceWait

/-- **A field of a record.** -/
structure Field (α : Type) where
  /-- Its name in a document. -/
  name : String
  /-- How its values stand in a document. -/
  codec : Codec α
  /-- Its value where a document leaves it out, if it may. -/
  absent : Option α

/-- The fields of a record in the order declared, with the type that has a place for each. -/
inductive Fields : Type → Type 1 where
  /-- No field. -/
  | nil : Fields Unit
  /-- One field and then others. -/
  | cons {α β : Type} (field : Field α) (rest : Fields β) : Fields (α × β)

namespace Fields

/-- How many fields there are. -/
def count : Fields τ → Nat
  | nil => 0
  | cons _ rest => rest.count + 1

/-- The names of the fields in order. -/
def names : Fields τ → List String
  | nil => []
  | cons field rest => field.name :: rest.names

/-- Reads a value under a name, only to see whether it can be read; `none` if no field has the
name. -/
def check? (fields : Fields τ) (surplus : Surplus) (name : String) (node : Node) :
    Option (Except ReadError Unit) :=
  match fields with
  | nil => none
  | cons field rest =>
    if field.name = name then some ((field.codec.read surplus node).map fun _ => ())
    else rest.check? surplus name node

/-- **The first fault in a table's fields**, in the order of the table: a key that denotes no text,
a known field for the second time, a value that a known field cannot have, or one that is not
whole. `seen` are the known fields met so far. -/
def checkTable (fields : Fields τ) (surplus : Surplus) (seen : List String) :
    List (Option String × Node) → Except ReadError Unit
  | [] => .ok ()
  | (none, _) :: _ => .error .malformed
  | (some key, node) :: rest =>
    match fields.check? surplus key node with
    | none => if node.isWhole then checkTable fields surplus seen rest else .error .malformed
    | some result =>
      if seen.contains key then .error (.data (.duplicate key))
      else do
        result
        checkTable fields surplus (key :: seen) rest

/-- The value under a key in a table. -/
def lookup (name : String) (table : List (Option String × Node)) : Option Node :=
  (table.find? fun (key, _) => key == some name).map (·.2)

/-- **The values of the fields in a table**, each read from under its name, or its value for being
absent. -/
def gather (surplus : Surplus) (table : List (Option String × Node)) :
    Fields τ → Except ReadError τ
  | nil => .ok ()
  | cons field rest => do
    let value ← match lookup field.name table with
      | some node => field.codec.read surplus node
      | none => match field.absent with
        | some value => .ok value
        | none => .error (.data (.missing field.name))
    let values ← rest.gather surplus table
    return (value, values)

/-- **The values of the fields in a list**, and what is left of the list. `tooShort` is the error of
a list that ends at a position where a value has to be. -/
def takeItems (surplus : Surplus) (closed : Bool) (tooShort : Nat → DataError) (position : Nat) :
    Fields τ → List Node → Except ReadError (τ × List Node)
  | nil, items => .ok ((), items)
  | cons field rest, [] =>
    if closed then
      match field.absent with
      | some value => do
        let (values, left) ← rest.takeItems surplus closed tooShort (position + 1) []
        return ((value, values), left)
      | none => .error (.data (tooShort position))
    else .error .malformed
  | cons field rest, item :: items => do
    let value ← field.codec.read surplus item
    let (values, left) ← rest.takeItems surplus closed tooShort (position + 1) items
    return ((value, values), left)

/-- The fields as a table, in the order declared. -/
def writeTable : Fields τ → τ → List (String × Node)
  | nil, _ => []
  | cons field rest, (value, values) => (field.name, field.codec.write value) :: rest.writeTable values

end Fields

/-- **A record**: a structure with named fields. -/
class Record (R : Type) where
  /-- The name of the structure in messages. -/
  typeName : String
  /-- A place for each field. -/
  Tuple : Type
  /-- The fields in the order declared. -/
  fields : Fields Tuple
  /-- The record with given fields. -/
  ofTuple : Tuple → R
  /-- The fields of a record. -/
  toTuple : R → Tuple
  /-- A record is made of its fields. -/
  ofTuple_toTuple : ∀ r, ofTuple (toTuple r) = r := by intro r; rfl
  /-- Fields are those of the record made of them. -/
  toTuple_ofTuple : ∀ t, toTuple (ofTuple t) = t := by intro t; rfl

namespace Record

variable {R : Type} [Record R]

/-- Reads a record given as a table. -/
def readTable (surplus : Surplus) (table : List (Option String × Node)) (closed : Bool) :
    Except ReadError R := do
  (fields (R := R)).checkTable surplus [] table
  if closed then (fields (R := R)).gather surplus table |>.map ofTuple else .error .malformed

/-- Reads a record given as a list. -/
def readList (surplus : Surplus) (items : List Node) (closed : Bool) : Except ReadError R := do
  let tooShort := fun length => DataError.tooShort length (typeName R) (fields (R := R)).count
  let (values, left) ← (fields (R := R)).takeItems surplus closed tooShort 0 items
  let record : R := ofTuple values
  if !closed then .error .malformed
  else if left.isEmpty then .ok record
  else match surplus with
    | .malformed => .error .malformed
    | .counted => .error (.data (.tooLong items.length))
    | .ignored => .ok record

/-- **Reads a record**, given as a table or as a list. -/
def read (surplus : Surplus) : Node → Except ReadError R
  | .table table closed => readTable surplus table closed
  | .list items closed => readList surplus items closed
  | node => .error (node.unexpected (.record (typeName R)))

/-- **Writes a record** as a table of all its fields, in the order declared. -/
def write (record : R) : Node :=
  .map ((fields (R := R)).writeTable (toTuple record))

/-- A record as a value of a document. -/
def codec (R : Type) [Record R] : Codec R where
  read := read
  write := write

end Record

end ResourceWait
