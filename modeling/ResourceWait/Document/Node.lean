import ResourceWait.Decimal.Double

/-!
# Documents

What a reader of documents makes of a text: a tree of values, `Node`. Numbers keep the difference
between an integer and a double, tables keep their fields in the order written, repeated keys
included, since all of that shows in what is said about a document that does not fit.

A tree can also hold places that denote no value, because an error is reported at the place where it
is met and everything before it still counts. `Node.faulty` is a value that is lexically whole but
stands for nothing, such as half of a surrogate pair or a number beyond the doubles; whoever does
not look at it is not disturbed by it. `Node.broken` is where the text stops being a document; then
nothing that comes later was read, and the lists and tables around it are not closed.
`Node.isWhole` says that no such end is inside.
-/

namespace ResourceWait

/-- **A value of a document.** -/
inductive Node where
  /-- The value of nothing. -/
  | null
  /-- A truth value. -/
  | flag (value : Bool)
  /-- An integer. -/
  | int (value : Int)
  /-- A number written with a point or an exponent, or too large for an integer. -/
  | float (value : Double)
  /-- A text. -/
  | text (value : String)
  /-- Values in a row, and whether the list was closed. -/
  | list (items : List Node) (closed : Bool)
  /-- Values under keys, in the order written, and whether the table was closed. A key may stand for
  no text, as a value may. -/
  | table (fields : List (Option String × Node)) (closed : Bool)
  /-- A value that is whole but denotes nothing. -/
  | faulty
  /-- The end of what could be read. -/
  | broken
deriving Inhabited

namespace Node

mutual

/-- **A whole value**: one that was read to its end, whether or not all in it denotes something. -/
def isWhole : Node → Bool
  | .broken => false
  | .list items closed => areWhole items && closed
  | .table fields closed => fieldsAreWhole fields && closed
  | _ => true

/-- Whether all values of a list are whole. -/
def areWhole : List Node → Bool
  | [] => true
  | item :: rest => isWhole item && areWhole rest

/-- Whether all values of a table are whole. -/
def fieldsAreWhole : List (Option String × Node) → Bool
  | [] => true
  | (_, value) :: rest => isWhole value && fieldsAreWhole rest

end

/-- A list read to its end. -/
abbrev seq (items : List Node) : Node := .list items true

/-- A table read to its end, all of whose keys are texts. -/
def map (fields : List (String × Node)) : Node :=
  .table (fields.map fun (key, value) => (some key, value)) true

/-- A field put into its place among fields in ascending order of keys, unless there is one of its
key already. -/
def insertField (key : Option String) (value : Node) :
    List (Option String × Node) → List (Option String × Node)
  | [] => [(key, value)]
  | (k, v) :: rest =>
    if key = k then (k, v) :: rest
    else if (key.getD "") < (k.getD "") then (key, value) :: (k, v) :: rest
    else (k, v) :: insertField key value rest

mutual

/-- **A value with its tables in order**: the fields of every table in ascending order of keys, and
of a repeated key only the last value. -/
def sorted : Node → Node
  | .list items closed => .list (sortedItems items) closed
  | .table fields closed => .table (sortedFields fields) closed
  | value => value

/-- The values of a list with their tables in order. -/
def sortedItems : List Node → List Node
  | [] => []
  | item :: rest => sorted item :: sortedItems rest

/-- The fields of a table in order, and the tables inside them too. -/
def sortedFields : List (Option String × Node) → List (Option String × Node)
  | [] => []
  | (key, value) :: rest => insertField key (sorted value) (sortedFields rest)

end

/-- The value of a field of a table. -/
def field? (name : String) : Node → Option Node
  | .table fields _ => (fields.find? fun (key, _) => key == some name).map (·.2)
  | _ => none

end Node

end ResourceWait
