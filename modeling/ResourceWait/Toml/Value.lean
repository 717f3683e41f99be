import ResourceWait.Toml.Moment
import ResourceWait.Toml.Number
import ResourceWait.Toml.Quoted
import ResourceWait.Toml.Table

/-!
# Keys and values in TOML

A key is a word of letters, digits, dashes and underscores, or a text in quotes on one line; several
of them with dots in between are a path. A value is a text, a number, a date or a time, a truth value,
a list in brackets, which may spread over lines, or a table in braces, which may not.

Values may be nested 79 deep, and a path may have 79 keys.
-/

namespace ResourceWait.Toml

/-- Whether a character may stand in a key without quotes. -/
def isWordChar (c : Char) : Bool :=
  ('a' ≤ c && c ≤ 'z') || ('A' ≤ c && c ≤ 'Z') || Text.isDigit c || c == '-' || c == '_'

/-- One key, and what follows it. -/
def scanWord (cs : List Char) : Option (String × List Char) :=
  match cs with
  | c :: _ =>
    if c = '"' ∨ c = '\'' then (Quoted.scanLine cs).map fun (key, rest) => (String.ofList key, rest)
    else match cs.takeWhile isWordChar with
      | [] => none
      | word => some (String.ofList word, cs.dropWhile isWordChar)
  | [] => none

/-- How deep values may be nested, and how many keys a path may have, plus one. -/
def depthLimit : Nat := 80

/-- Keys with dots in between, and what follows them; blanks may stand around each. `limit` is how
many may come. -/
def scanPath : (limit : Nat) → List Char → Option (List String × List Char)
  | 0, _ => none
  | limit + 1, cs => do
    let (key, rest) ← scanWord (skipBlanks cs)
    match skipBlanks rest with
    | '.' :: rest => do
      let (path, rest) ← scanPath limit rest
      return (key :: path, rest)
    | rest => return ([key], rest)

/-- **A key**: the path to its table and its name there, and what follows it. -/
def scanKey (cs : List Char) : Option ((List String × String) × List Char) := do
  let (keys, rest) ← scanPath (depthLimit - 1) cs
  return ((keys.dropLast, ← keys.getLast?), rest)

/-- What follows a word, if the text begins with it. -/
def behindWord? (word : String) (cs : List Char) : Option (List Char) :=
  if word.toList.isPrefixOf cs then some (cs.drop word.length) else none

/-- A value that is neither a list nor a table, and what follows it. -/
def scanScalar (cs : List Char) : Option (Node × List Char) :=
  match cs with
  | c :: _ =>
    if c = '"' ∨ c = '\'' then
      (Quoted.scan cs).map fun (text, rest) => (.text (String.ofList text), rest)
    else if c = 't' then (behindWord? "true" cs).map fun rest => (.flag true, rest)
    else if c = 'f' then (behindWord? "false" cs).map fun rest => (.flag false, rest)
    else scanMoment cs <|> scanNumber cs
  | [] => none

mutual

/-- **A value**, and what follows it. `depth` is how many lists and tables may still be opened, and
`fuel` bounds the steps. -/
def scanValue : (fuel depth : Nat) → List Char → Option (Node × List Char)
  | 0, _, _ => none
  | fuel + 1, depth, cs => match cs with
    | '[' :: rest => match depth with
      | 0 => none
      | depth + 1 => (scanItems fuel depth rest).map fun (items, rest) => (.seq items, rest)
    | '{' :: rest => match depth with
      | 0 => none
      | depth + 1 => match skipBlanks rest with
        | '}' :: rest => some (Table.empty.toNode, rest)
        | rest => do
          let (pairs, rest) ← scanPairs fuel depth rest
          return ((← Table.ofPairs pairs).toNode, rest)
    | cs => scanScalar cs

/-- The values of a list up to its closing bracket, and what follows that; a comma may stand behind
the last. -/
def scanItems : (fuel depth : Nat) → List Char → Option (List Node × List Char)
  | 0, _, _ => none
  | fuel + 1, depth, cs => match skipLines cs.length cs with
    | ']' :: rest => some ([], rest)
    | cs => do
      let (item, rest) ← scanValue fuel depth cs
      match skipLines rest.length rest with
      | ']' :: rest => return ([item], rest)
      | ',' :: rest => do
        let (items, rest) ← scanItems fuel depth rest
        return (item :: items, rest)
      | _ => none

/-- The keys of a table in braces with their values up to its closing brace, and what follows that;
there is one at least. -/
def scanPairs : (fuel depth : Nat) → List Char →
    Option (List (List String × String × Node) × List Char)
  | 0, _, _ => none
  | fuel + 1, depth, cs => do
    let ((path, key), rest) ← scanKey cs
    let (value, rest) ← scanValue fuel depth (skipBlanks (← behindChar? '=' rest))
    match skipBlanks rest with
    | '}' :: rest => return ([(path, key, value)], rest)
    | ',' :: rest => do
      let (pairs, rest) ← scanPairs fuel depth rest
      return ((path, key, value) :: pairs, rest)
    | _ => none

end

end ResourceWait.Toml
