/-!
# Space and lines in TOML

A document is made of lines. On a line, parts may be set apart by spaces and tabs, and a comment may
stand at its end. A line ends with a line feed, perhaps after a carriage return, which stands nowhere
else. Other control characters stand nowhere at all.
-/

namespace ResourceWait.Toml

/-- A space or a tab. -/
def isBlank (c : Char) : Bool := c == ' ' || c == '\t'

/-- A text without the blanks it begins with. -/
def skipBlanks (cs : List Char) : List Char := cs.dropWhile isBlank

/-- Whether a character may stand in a comment or in a text on one line. -/
def isPlain (c : Char) : Bool := c == '\t' || (' ' ≤ c && c != '\x7f')

/-- What follows the end of a line, if the text begins with one. -/
def behindNewline? : List Char → Option (List Char)
  | '\n' :: rest => some rest
  | '\r' :: '\n' :: rest => some rest
  | _ => none

/-- A text without the comment it begins with, if it begins with one. -/
def skipComment : List Char → List Char
  | '#' :: rest => rest.dropWhile isPlain
  | cs => cs

/-- What follows a line of which nothing is left but blanks and a comment. The last line of a document
need not be ended. -/
def endLine? (cs : List Char) : Option (List Char) :=
  match skipComment (skipBlanks cs) with
  | [] => some []
  | cs => behindNewline? cs

/-- A text without the blanks, comments and ends of lines that it begins with; `fuel` bounds the
lines. -/
def skipLines : (fuel : Nat) → List Char → List Char
  | 0, cs => cs
  | fuel + 1, cs =>
    let cs := skipBlanks cs
    match behindNewline? (skipComment cs) with
    | some rest => skipLines fuel rest
    | none => cs

end ResourceWait.Toml
