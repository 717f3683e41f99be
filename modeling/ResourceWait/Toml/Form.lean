import ResourceWait.Toml.Space

/-!
# Choosing how to write a text in TOML

A text is written in the first form in which it can stand as it is: in double quotes, in single
quotes, in three double quotes, in three single quotes. Only if none will do is it written with
escapes. So a text with a backslash or a double quote usually stands in single quotes, and one of
several lines in three quotes.

In double quotes a tab is written as an escape all the same.
-/

namespace ResourceWait.Toml

/-- **A form of a text**: which quotes, and whether it has lines. -/
inductive Form where
  /-- One double quote on each side. -/
  | basic
  /-- One single quote on each side. -/
  | literal
  /-- Three double quotes on each side. -/
  | basicLines
  /-- Three single quotes on each side. -/
  | literalLines
deriving DecidableEq, Repr

namespace Form

/-- Whether a character can only be written as an escape. -/
def isControl (c : Char) : Bool := (c < ' ' && c != '\t' && c != '\n') || c == '\x7f'

/-- The longest run of a character in a text; `run` is how many of them stand right before it. -/
def longestRun (c : Char) : (run : Nat) → List Char → Nat
  | run, [] => run
  | run, d :: rest => if d = c then longestRun c (run + 1) rest else max run (longestRun c 0 rest)

/-- **The form in which a text is written.** -/
def choose (s : List Char) : Form :=
  let control := s.any isControl
  let escape := s.contains '\\'
  let lines := s.contains '\n'
  let double := longestRun '"' 0 s
  let single := longestRun '\'' 0 s
  if !control && !escape && double == 0 && !lines then basic
  else if !control && single == 0 && !lines then literal
  else if !control && !escape && double ≤ 2 then basicLines
  else if !control && single ≤ 2 then literalLines
  else if lines then basicLines
  else basic

/-- A code point below 256 as four hexadecimal digits in capitals. -/
def fourDigits (n : Nat) : List Char :=
  ['0', '0', (Nat.digitChar (n / 16)).toUpper, (Nat.digitChar (n % 16)).toUpper]

/-- The escape of a character, if it needs one in double quotes; quotes and line feeds are up to the
form. -/
def escape? : Char → Option (List Char)
  | '\x08' => some ['\\', 'b']
  | '\t' => some ['\\', 't']
  | '\x0c' => some ['\\', 'f']
  | '\r' => some ['\\', 'r']
  | '\\' => some ['\\', '\\']
  | c => if isControl c then some ('\\' :: 'u' :: fourDigits c.toNat) else none

/-- The content of a text between one double quote on each side. -/
def basicContent : List Char → List Char
  | [] => []
  | '\n' :: rest => '\\' :: 'n' :: basicContent rest
  | '"' :: rest => '\\' :: '"' :: basicContent rest
  | c :: rest => (escape? c).getD [c] ++ basicContent rest

/-- The content of a text between three double quotes on each side: every third quote of a run is
escaped. `run` is how many stand right before it. -/
def basicLinesContent : (run : Nat) → List Char → List Char
  | _, [] => []
  | run, '"' :: rest =>
    if run = 2 then '\\' :: '"' :: basicLinesContent 0 rest
    else '"' :: basicLinesContent (run + 1) rest
  | _, c :: rest => (escape? c).getD [c] ++ basicLinesContent 0 rest

/-- The line feed behind an opening, which is not read: it is there if the text has lines. -/
def opening (s : List Char) : List Char := if s.contains '\n' then ['\n'] else []

/-- A text written in a form. -/
def writeAs : Form → List Char → List Char
  | basic, s => '"' :: (basicContent s ++ ['"'])
  | literal, s => '\'' :: (s ++ ['\''])
  | basicLines, s =>
    '"' :: '"' :: '"' :: (opening s ++ (basicLinesContent 0 s ++ ['"', '"', '"']))
  | literalLines, s => '\'' :: '\'' :: '\'' :: (opening s ++ (s ++ ['\'', '\'', '\'']))

/-- **A text as it is written.** -/
def write (s : String) : List Char := writeAs (choose s.toList) s.toList

end Form

end ResourceWait.Toml
