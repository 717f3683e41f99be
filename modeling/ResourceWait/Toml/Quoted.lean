import ResourceWait.Text.Digits
import ResourceWait.Toml.Space

/-!
# Texts in TOML

A text stands in double quotes, where a backslash escapes, or in single quotes, where everything
stands for itself. One quote on each side keeps it on one line. With three on each side it may have
line ends, which are read as line feeds; one right behind the opening is left out. Up to two quotes
may stand in such a text, also right before its end.

In a text of lines in double quotes a backslash at the end of a line joins it to the next character
that is not space.
-/

namespace ResourceWait.Toml.Quoted

/-- The character with a code point, if there is one. -/
def charOf? (n : Nat) : Option Char :=
  if n.isValidChar then some (Char.ofNat n) else none

/-- The character that a short escape stands for. -/
def shortEscape? : Char → Option Char
  | 'b' => some '\x08'
  | 't' => some '\t'
  | 'n' => some '\n'
  | 'f' => some '\x0c'
  | 'r' => some '\r'
  | '"' => some '"'
  | '\\' => some '\\'
  | _ => none

/-- The character with a code point written in hexadecimal. -/
def coded? (digits : List Char) : Option Char := do charOf? (← Text.hexValue? digits)

/-- A character in front of what was read of a text. -/
def add (c : Char) (read : Option (List Char × List Char)) : Option (List Char × List Char) :=
  read.map fun (text, rest) => (c :: text, rest)

/-- **The text behind an opening double quote**, and what follows it. -/
def scanBasic : List Char → Option (List Char × List Char)
  | [] => none
  | '"' :: rest => some ([], rest)
  | '\\' :: 'u' :: a :: b :: c :: d :: rest => do add (← coded? [a, b, c, d]) (scanBasic rest)
  | '\\' :: 'U' :: a :: b :: c :: d :: e :: f :: g :: h :: rest => do
    add (← coded? [a, b, c, d, e, f, g, h]) (scanBasic rest)
  | '\\' :: e :: rest => do add (← shortEscape? e) (scanBasic rest)
  | c :: rest => if c != '\\' && isPlain c then add c (scanBasic rest) else none

/-- **The text behind an opening single quote**, and what follows it. -/
def scanLiteral : List Char → Option (List Char × List Char)
  | [] => none
  | '\'' :: rest => some ([], rest)
  | c :: rest => if isPlain c then add c (scanLiteral rest) else none

/-- The quotes, two at most, that stand between the content of a text of lines and its end, when
three were taken from them already. -/
def lastQuotes (quote : Char) : List Char → List Char × List Char
  | a :: b :: rest =>
    if a = quote then if b = quote then ([a, b], rest) else ([a], b :: rest) else ([], a :: b :: rest)
  | [a] => if a = quote then ([a], []) else ([], [a])
  | [] => ([], [])

/-- Whether nothing but blanks stands before the end of the line. -/
def endsLine (cs : List Char) : Bool := (behindNewline? (skipBlanks cs)).isSome

/-- **The text of lines behind an opening of double quotes**, and what follows it. Where `joining`,
space and line ends are left out up to the next character. -/
def scanBasicLines : (joining : Bool) → List Char → Option (List Char × List Char)
  | _, [] => none
  | true, '\n' :: rest => scanBasicLines true rest
  | true, '\r' :: '\n' :: rest => scanBasicLines true rest
  | true, ' ' :: rest => scanBasicLines true rest
  | true, '\t' :: rest => scanBasicLines true rest
  | _, '"' :: '"' :: '"' :: rest => some (lastQuotes '"' rest)
  | _, '\n' :: rest => add '\n' (scanBasicLines false rest)
  | _, '\r' :: '\n' :: rest => add '\n' (scanBasicLines false rest)
  | _, '\\' :: 'u' :: a :: b :: c :: d :: rest => do
    add (← coded? [a, b, c, d]) (scanBasicLines false rest)
  | _, '\\' :: 'U' :: a :: b :: c :: d :: e :: f :: g :: h :: rest => do
    add (← coded? [a, b, c, d, e, f, g, h]) (scanBasicLines false rest)
  | _, '\\' :: e :: rest =>
    match shortEscape? e with
    | some c => add c (scanBasicLines false rest)
    | none => if endsLine (e :: rest) then scanBasicLines true (e :: rest) else none
  | _, c :: rest => if c != '\\' && isPlain c then add c (scanBasicLines false rest) else none

/-- **The text of lines behind an opening of single quotes**, and what follows it. -/
def scanLiteralLines : List Char → Option (List Char × List Char)
  | [] => none
  | '\'' :: '\'' :: '\'' :: rest => some (lastQuotes '\'' rest)
  | '\n' :: rest => add '\n' (scanLiteralLines rest)
  | '\r' :: '\n' :: rest => add '\n' (scanLiteralLines rest)
  | c :: rest => if isPlain c then add c (scanLiteralLines rest) else none

/-- A text without the line end that it begins with, if it begins with one. -/
def skipNewline (cs : List Char) : List Char := (behindNewline? cs).getD cs

/-- A text on one line, in quotes of either kind, and what follows it. -/
def scanLine : List Char → Option (List Char × List Char)
  | '"' :: rest => scanBasic rest
  | '\'' :: rest => scanLiteral rest
  | _ => none

/-- **A text in quotes** of any kind, and what follows it. -/
def scan : List Char → Option (List Char × List Char)
  | '"' :: '"' :: '"' :: rest => scanBasicLines false (skipNewline rest)
  | '\'' :: '\'' :: '\'' :: rest => scanLiteralLines (skipNewline rest)
  | cs => scanLine cs

end ResourceWait.Toml.Quoted
