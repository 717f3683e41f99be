import ResourceWait.Text.Digits

/-!
# Texts in JSON

A text stands between double quotes. Inside, a backslash starts an escape, and no control character
may stand for itself.

`scan` finds where a text ends and splits it into pieces: characters, and units of sixteen bits
written as four hexadecimal digits. `join` then makes characters of the units, two surrogates
together making one; a surrogate without its other half is no character, so a text that is whole may
still denote nothing. `write` uses escapes only where it has to.
-/

namespace ResourceWait.Json.Quoted

/-- **A piece of a text in quotes.** -/
inductive Piece where
  /-- A character, standing for itself or written as a short escape. -/
  | char (c : Char)
  /-- A unit of sixteen bits. -/
  | unit (n : Nat)
deriving DecidableEq

/-- The character that a short escape stands for. -/
def shortEscape? : Char → Option Char
  | '"' => some '"'
  | '\\' => some '\\'
  | '/' => some '/'
  | 'b' => some '\x08'
  | 'f' => some '\x0c'
  | 'n' => some '\n'
  | 'r' => some '\r'
  | 't' => some '\t'
  | _ => none

/-- **The pieces of a text up to its closing quote**, and what comes behind that. -/
def scan : List Char → Option (List Piece × List Char)
  | [] => none
  | '"' :: rest => some ([], rest)
  | '\\' :: 'u' :: a :: b :: c :: d :: rest => do
    let n ← Text.hexValue? [a, b, c, d]
    let (pieces, rest) ← scan rest
    return (.unit n :: pieces, rest)
  | '\\' :: e :: rest => do
    let c ← shortEscape? e
    let (pieces, rest) ← scan rest
    return (.char c :: pieces, rest)
  | c :: rest => do
    if c = '\\' ∨ c < ' ' then none
    let (pieces, rest) ← scan rest
    return (.char c :: pieces, rest)

/-- Whether a unit is the first half of a pair. -/
def isLeading (n : Nat) : Bool := 0xD800 ≤ n && n < 0xDC00

/-- Whether a unit is the second half of a pair. -/
def isTrailing (n : Nat) : Bool := 0xDC00 ≤ n && n < 0xE000

/-- **The characters that pieces denote**; `none` if half of a pair stands alone. -/
def join : List Piece → Option (List Char)
  | [] => some []
  | .char c :: rest => (join rest).map (c :: ·)
  | .unit n :: .unit m :: rest =>
    if isLeading n then
      if isTrailing m then
        (join rest).map (Char.ofNat (0x10000 + (n - 0xD800) * 0x400 + (m - 0xDC00)) :: ·)
      else none
    else if isTrailing n then none
    else (join (.unit m :: rest)).map (Char.ofNat n :: ·)
  | .unit n :: rest =>
    if isLeading n || isTrailing n then none else (join rest).map (Char.ofNat n :: ·)

/-- A number below 256 as four hexadecimal digits in small letters. -/
def fourDigits (n : Nat) : List Char :=
  ['0', '0', Nat.digitChar (n / 16), Nat.digitChar (n % 16)]

/-- A character as it stands in a text that is written. -/
def writeChar (c : Char) : List Char :=
  match c with
  | '"' => ['\\', '"']
  | '\\' => ['\\', '\\']
  | '\x08' => ['\\', 'b']
  | '\x0c' => ['\\', 'f']
  | '\n' => ['\\', 'n']
  | '\r' => ['\\', 'r']
  | '\t' => ['\\', 't']
  | c => if c < ' ' then '\\' :: 'u' :: fourDigits c.toNat else [c]

/-- **A text in quotes**, ready to be scanned. -/
def write (s : String) : List Char :=
  '"' :: (s.toList.flatMap writeChar ++ ['"'])

end ResourceWait.Json.Quoted
