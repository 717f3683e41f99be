import ResourceWait.Json.Number
import ResourceWait.Json.Quoted
import ResourceWait.Record.Basic

/-!
# Reading JSON

A reader that goes through a text once and makes a `Node` of it, as far as it goes. Where the text
stops being JSON the reader stops too: it puts `Node.broken` there, leaves the lists and tables
around it open, and has no rest to go on with.

`Json.read` gives the value and whether the text ends with it. `Record.ofJson` reads a record, and
since it looks at the fields in their order, a field that does not fit is reported even if the text
breaks off behind it.
-/

namespace ResourceWait

namespace Json

/-- Whether a character may stand between the parts of a document. -/
def isSpace (c : Char) : Bool := c == ' ' || c == '\n' || c == '\t' || c == '\r'

/-- A text without the space it begins with. -/
def skipSpace (cs : List Char) : List Char := cs.dropWhile isSpace

/-- The text behind a word, if the word is what it begins with. -/
def behind? (word : List Char) (cs : List Char) : Option (List Char) :=
  if word.isPrefixOf cs then some (cs.drop word.length) else none

/-- A value that is one word, if the text begins with it. -/
def readWord (word : String) (value : Node) (cs : List Char) : Node × Option (List Char) :=
  match behind? word.toList cs with
  | some rest => (value, some rest)
  | none => (.broken, none)

/-- The text behind an opening quote, read up to its closing quote. -/
def readText (cs : List Char) : Node × Option (List Char) :=
  match Quoted.scan cs with
  | none => (.broken, none)
  | some (pieces, rest) => match Quoted.join pieces with
    | some characters => (.text (String.ofList characters), some rest)
    | none => (.faulty, some rest)

/-- A number. -/
def readNumber (cs : List Char) : Node × Option (List Char) :=
  match Numeral.scan cs with
  | some (numeral, rest) => (numeral.toNode, some rest)
  | none => (.broken, none)

/-- A key, if the text begins with one: the text it denotes, if any, and what follows it. -/
def readKey : List Char → Option (Option String × List Char)
  | '"' :: cs => match Quoted.scan cs with
    | some (pieces, rest) => some ((Quoted.join pieces).map String.ofList, rest)
    | none => none
  | _ => none

mutual

/-- **The value that a text begins with**, and the rest of the text. `fuel` bounds the steps. -/
def readValue : (fuel : Nat) → List Char → Node × Option (List Char)
  | 0, _ => (.broken, none)
  | fuel + 1, cs => match skipSpace cs with
    | '{' :: rest =>
      let (fields, rest) := readFields fuel true rest
      (.table fields rest.isSome, rest)
    | '[' :: rest =>
      let (items, rest) := readItems fuel true rest
      (.list items rest.isSome, rest)
    | '"' :: rest => readText rest
    | 'n' :: rest => readWord "ull" .null rest
    | 't' :: rest => readWord "rue" (.flag true) rest
    | 'f' :: rest => readWord "alse" (.flag false) rest
    | c :: rest => if c = '-' || Text.isDigit c then readNumber (c :: rest) else (.broken, none)
    | [] => (.broken, none)

/-- The values of a list from where the first, or a comma and the next one, has to be. -/
def readItems : (fuel : Nat) → (first : Bool) → List Char → List Node × Option (List Char)
  | 0, _, _ => ([], none)
  | fuel + 1, first, cs => match skipSpace cs, first with
    | ']' :: rest, _ => ([], some rest)
    | cs, true => readItem fuel cs
    | ',' :: rest, false => readItem fuel rest
    | _, false => ([], none)

/-- One value of a list and then the others. -/
def readItem : (fuel : Nat) → List Char → List Node × Option (List Char)
  | 0, _ => ([], none)
  | fuel + 1, cs => match skipSpace cs with
    | ']' :: _ => ([], none)
    | cs => match readValue fuel cs with
      | (item, none) => ([item], none)
      | (item, some rest) =>
        let (items, rest) := readItems fuel false rest
        (item :: items, rest)

/-- The fields of a table from where the first, or a comma and the next one, has to be. -/
def readFields : (fuel : Nat) → (first : Bool) → List Char →
    List (Option String × Node) × Option (List Char)
  | 0, _, _ => ([], none)
  | fuel + 1, first, cs => match skipSpace cs, first with
    | '}' :: rest, _ => ([], some rest)
    | cs, true => readField fuel cs
    | ',' :: rest, false => readField fuel rest
    | _, false => ([], none)

/-- One field of a table and then the others. -/
def readField : (fuel : Nat) → List Char → List (Option String × Node) × Option (List Char)
  | 0, _ => ([], none)
  | fuel + 1, cs => match readKey (skipSpace cs) with
    | none => ([], none)
    | some (key, rest) => match skipSpace rest with
      | ':' :: rest => match readValue fuel rest with
        | (value, none) => ([(key, value)], none)
        | (value, some rest) =>
          let (fields, rest) := readFields fuel false rest
          ((key, value) :: fields, rest)
      | _ => ([(key, .broken)], none)

end

/-- **The value that a text holds**, and whether nothing but space follows it. -/
def read (cs : List Char) : Node × Bool :=
  let (node, rest) := readValue (3 * cs.length + 1) cs
  (node, match rest with | some rest => (skipSpace rest).isEmpty | none => false)

end Json

/-- The value that a JSON text holds, if the text is one value from end to end. -/
def Node.ofJson? (text : String) : Option Node :=
  match Json.read text.toList with
  | (node, true) => some node
  | _ => none

/-- **The record that a JSON text holds.** -/
def Record.ofJson {R : Type} [Record R] (text : String) : Except ReadError R := do
  let (node, ended) := Json.read text.toList
  let record ← Record.read .malformed node
  if ended then return record else .error .malformed

end ResourceWait
