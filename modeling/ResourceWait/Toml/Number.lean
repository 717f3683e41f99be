import ResourceWait.Document.Node
import ResourceWait.Text.Digits

/-!
# Numbers in TOML

Integers have a sign and decimal digits without a needless zero in front, or after `0x`, `0o` and
`0b` digits of another base and no sign. They fit into 64 bits with a sign. Doubles have decimals, an
exponent or both, and are rounded to the nearest; infinity has to be written as such, except that the
negative one is also what becomes of a number that is too far below zero.

A single underscore may stand between two digits.
-/

namespace ResourceWait.Toml

open ResourceWait.Text (isDigit digitsValue hexDigit?)

/-- Digits of a kind behind the first one, each perhaps after an underscore, and what follows them. -/
def moreDigits (isDigit : Char → Bool) : List Char → Option (List Char × List Char)
  | [] => some ([], [])
  | ['_'] => none
  | '_' :: c :: rest =>
    if isDigit c then (moreDigits isDigit rest).map fun (digits, rest) => (c :: digits, rest)
    else none
  | c :: rest =>
    if isDigit c then (moreDigits isDigit rest).map fun (digits, rest) => (c :: digits, rest)
    else some ([], c :: rest)

/-- Digits of a kind, one at least, and what follows them. -/
def someDigits (isDigit : Char → Bool) : List Char → Option (List Char × List Char)
  | c :: rest =>
    if isDigit c then (moreDigits isDigit rest).map fun (digits, rest) => (c :: digits, rest)
    else none
  | [] => none

/-- A sign, which may be left out, and what follows it: whether it is a minus. -/
def scanSign : List Char → Bool × List Char
  | '+' :: rest => (false, rest)
  | '-' :: rest => (true, rest)
  | cs => (false, cs)

/-- Decimal digits of which the first is zero only if it is the only one, and what follows them. -/
def scanWhole : List Char → Option (List Char × List Char)
  | '0' :: rest => some (['0'], rest)
  | cs => someDigits isDigit cs

/-- The value of digits in a base, if all of them are digits of it. -/
def basedValue (base : Nat) (digits : List Char) : Nat :=
  digits.foldl (fun value c => base * value + (hexDigit? c).getD 0) 0

/-- Whether a character is a digit of a base. -/
def isDigitOf (base : Nat) (c : Char) : Bool :=
  match hexDigit? c with
  | some value => value < base
  | none => false

/-- An integer, if 64 bits hold it. -/
def boundedInt? (i : Int) : Option Node :=
  if -Int.pow 2 63 ≤ i ∧ i < Int.pow 2 63 then some (.int i) else none

/-- An integer in a base, behind the letter of the base. -/
def scanBased (base : Nat) (cs : List Char) : Option (Node × List Char) := do
  let (digits, rest) ← someDigits (isDigitOf base) cs
  return (← boundedInt? (basedValue base digits), rest)

/-- An integer, and what follows it. -/
def scanInt : List Char → Option (Node × List Char)
  | '0' :: 'x' :: rest => scanBased 16 rest
  | '0' :: 'o' :: rest => scanBased 8 rest
  | '0' :: 'b' :: rest => scanBased 2 rest
  | cs => do
    let (negative, cs) := scanSign cs
    let (digits, rest) ← scanWhole cs
    let value : Int := digitsValue digits
    return (← boundedInt? (if negative then -value else value), rest)

/-- The decimals of a double, if a point follows, and what follows them. -/
def scanDecimals : List Char → Option (List Char × List Char)
  | '.' :: rest => someDigits isDigit rest
  | cs => some ([], cs)

/-- The exponent of a double, if its letter follows, and what follows it. -/
def scanExponent (cs : List Char) : Option (Int × List Char) :=
  match cs with
  | c :: rest =>
    if c = 'e' ∨ c = 'E' then do
      let (negative, rest) := scanSign rest
      let (digits, rest) ← someDigits isDigit rest
      let value : Int := digitsValue digits
      return (if negative then -value else value, rest)
    else some (0, cs)
  | [] => some (0, [])

/-- A double with decimals, an exponent or both, and what follows it. -/
def scanDecimal (cs : List Char) : Option (Node × List Char) := do
  let (negative, cs) := scanSign cs
  let (whole, behindWhole) ← scanWhole cs
  let (decimals, behindDecimals) ← scanDecimals behindWhole
  let (exponent, rest) ← scanExponent behindDecimals
  if rest.length = behindWhole.length then none
  match Double.ofDecimal negative (digitsValue (whole ++ decimals)) (exponent - decimals.length) with
  | .infinite false => none
  | x => return (.float x, rest)

/-- Infinity or no number, with or without a sign, and what follows it. -/
def scanSpecial (cs : List Char) : Option (Node × List Char) :=
  let (negative, cs) := scanSign cs
  match cs with
  | 'i' :: 'n' :: 'f' :: rest => some (.float (.infinite negative), rest)
  | 'n' :: 'a' :: 'n' :: rest => some (.float .nan, rest)
  | _ => none

/-- **A number**, and what follows it. -/
def scanNumber (cs : List Char) : Option (Node × List Char) :=
  scanDecimal cs <|> scanSpecial cs <|> scanInt cs

end ResourceWait.Toml
