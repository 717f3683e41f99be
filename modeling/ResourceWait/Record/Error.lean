import ResourceWait.Decimal.Layout
import ResourceWait.Document.Node
import ResourceWait.Text.Quoted

/-!
# Documents that do not fit

What can be wrong with a document that is to be read as a record. Either it is no document at all,
from some place on (`ReadError.malformed`), or a value in it is not what the record asks for
(`ReadError.data`), which is said in one line: what was found and what was expected, or which field
is missing or there twice.
-/

namespace ResourceWait

/-- **What a value looks like** to someone who asked for another one. -/
inductive Shape where
  /-- The value of nothing. -/
  | null
  /-- A truth value. -/
  | flag (value : Bool)
  /-- An integer. -/
  | int (value : Int)
  /-- A double. -/
  | float (value : Double)
  /-- A text. -/
  | text (value : String)
  /-- A list, of whatever. -/
  | sequence
  /-- A table, of whatever. -/
  | map
deriving DecidableEq, Inhabited

/-- What a value looks like, if it denotes one. -/
def Node.shape? : Node → Option Shape
  | .null => some .null
  | .flag b => some (.flag b)
  | .int i => some (.int i)
  | .float x => some (.float x)
  | .text s => some (.text s)
  | .list _ _ => some .sequence
  | .table _ _ => some .map
  | .faulty => none
  | .broken => none

/-- **What a reader asked for.** -/
inductive Expected where
  /-- A text. -/
  | text
  /-- A truth value. -/
  | flag
  /-- An integer below `2 ^ 64`. -/
  | u64
  /-- An integer below `2 ^ 32`. -/
  | u32
  /-- A list. -/
  | sequence
  /-- A record of a given name. -/
  | record (name : String)
deriving DecidableEq, Inhabited

/-- **Why a document does not fit a record.** -/
inductive DataError where
  /-- A value of another type. -/
  | wrongType (found : Shape) (expected : Expected)
  /-- An integer that the type has no room for. -/
  | outOfRange (value : Int) (expected : Expected)
  /-- A field that has to be there and is not. -/
  | missing (field : String)
  /-- A field that is there twice. -/
  | duplicate (field : String)
  /-- A row of values that ends at a field that has to be there. -/
  | tooShort (length : Nat) (record : String) (fields : Nat)
  /-- A row of more values than the record has fields. -/
  | tooLong (length : Nat)
deriving DecidableEq, Inhabited

/-- **Why a document cannot be read as a record.** -/
inductive ReadError where
  /-- It is no document. -/
  | malformed
  /-- It is one, as far as it was read, but it does not fit. -/
  | data (error : DataError)
deriving DecidableEq, Inhabited

/-- What a message says of a value that was found, with numbers laid out as its kind of document
does. -/
def Shape.message (numbers : Layout) : Shape → String
  | .null => "null"
  | .flag b => "boolean `" ++ toString b ++ "`"
  | .int i => "integer `" ++ toString i ++ "`"
  | .float x => "floating point `" ++ numbers.text x ++ "`"
  | .text s => "string " ++ Text.quoted s
  | .sequence => "sequence"
  | .map => "map"

/-- What a message says of a value that was expected. -/
def Expected.message : Expected → String
  | .text => "a string"
  | .flag => "a boolean"
  | .u64 => "u64"
  | .u32 => "u32"
  | .sequence => "a sequence"
  | .record name => "struct " ++ name

/-- **The line that says why a document does not fit.** -/
def DataError.message (numbers : Layout) : DataError → String
  | .wrongType found expected =>
    "invalid type: " ++ found.message numbers ++ ", expected " ++ expected.message
  | .outOfRange value expected =>
    "invalid value: integer `" ++ toString value ++ "`, expected " ++ expected.message
  | .missing field => "missing field `" ++ field ++ "`"
  | .duplicate field => "duplicate field `" ++ field ++ "`"
  | .tooShort length record fields =>
    "invalid length " ++ toString length ++ ", expected struct " ++ record ++ " with "
      ++ toString fields ++ " elements"
  | .tooLong length => "invalid length " ++ toString length ++ ", expected fewer elements in array"

end ResourceWait
