import ResourceWait.Document.Node
import ResourceWait.Text.Digits

/-!
# Numbers in JSON

A number is a sign, digits without a needless zero in front, and perhaps decimals and an exponent.
Without the last two it is an integer if 64 bits hold it, with a sign or without; negative zero and
anything larger is a double.

A double is read from a significand of 64 bits. Digits go into it as long as there is room; the
digits of the whole part that find none still count as places, those behind the point do not. The
significand is then scaled by the power of ten (`Double.scaled`). A number beyond the doubles is no
number, though it is whole.
-/

namespace ResourceWait.Json

open ResourceWait.Text (isDigit digitValue digitsValue spanDigits)

/-- **A number as it is written**: its sign, its digits, and the exponent with its sign. -/
structure Numeral where
  /-- Whether a minus sign stands in front. -/
  negative : Bool
  /-- The digits of the whole part. -/
  whole : List Char
  /-- The digits behind the point, if there is one. -/
  decimals : Option (List Char)
  /-- The exponent, if there is one: whether it is negative, and its digits. -/
  exponent : Option (Bool × List Char)
deriving DecidableEq

namespace Numeral

/-- The whole part of a number: digits, of which the first is zero only if it is the only one. -/
def scanWhole (cs : List Char) : Option (List Char × List Char) :=
  match spanDigits cs with
  | ([], _) => none
  | ('0' :: _ :: _, _) => none
  | split => some split

/-- The decimals of a number, if a point follows: one digit at least. -/
def scanDecimals : List Char → Option (Option (List Char) × List Char)
  | '.' :: cs => match spanDigits cs with
    | ([], _) => none
    | (digits, rest) => some (some digits, rest)
  | cs => some (none, cs)

/-- The sign of an exponent, which may be left out. -/
def scanSign : List Char → Bool × List Char
  | '+' :: cs => (false, cs)
  | '-' :: cs => (true, cs)
  | cs => (false, cs)

/-- The exponent of a number, if its letter follows: one digit at least. -/
def scanExponent (cs : List Char) : Option (Option (Bool × List Char) × List Char) :=
  match cs with
  | c :: rest =>
    if c = 'e' ∨ c = 'E' then
      let (negative, rest) := scanSign rest
      match spanDigits rest with
      | ([], _) => none
      | (digits, rest) => some (some (negative, digits), rest)
    else some (none, cs)
  | [] => some (none, [])

/-- **The number that a text begins with**, and what follows it. -/
def scan (cs : List Char) : Option (Numeral × List Char) := do
  let (negative, cs) := match cs with
    | '-' :: rest => (true, rest)
    | cs => (false, cs)
  let (whole, cs) ← scanWhole cs
  let (decimals, cs) ← scanDecimals cs
  let (exponent, cs) ← scanExponent cs
  return (⟨negative, whole, decimals, exponent⟩, cs)

/-- Digits put behind a significand while 64 bits hold it: the significand, and the digits that were
left. -/
def fill (significand : Nat) : List Char → Nat × List Char
  | [] => (significand, [])
  | c :: rest =>
    let next := 10 * significand + digitValue c
    if next < UInt64.size then fill next rest else (significand, c :: rest)

/-- The greatest exponent that is told apart from larger ones. -/
def exponentBound : Nat := Nat.pow 2 31

/-- The double that a number denotes, if it denotes one. -/
def toDouble? (n : Numeral) : Option Double :=
  let (significand, places) := fill 0 n.whole
  let decimals := n.decimals.getD []
  let (significand, unused) := fill significand decimals
  let shift : Int := (places.length : Int) - (decimals.length - unused.length : Nat)
  let (down, digits) := n.exponent.getD (false, [])
  let exponent := digitsValue digits
  if exponentBound ≤ exponent then
    if down ∨ significand = 0 then some (.finite n.negative 0 (-1074)) else none
  else Double.scaled n.negative significand (if down then shift - exponent else shift + exponent)

/-- The integer that a number denotes, if it is written as one and 64 bits hold it. -/
def toInt? (n : Numeral) : Option Int :=
  if n.decimals.isSome ∨ n.exponent.isSome then none
  else
    let value := digitsValue n.whole
    if n.negative then
      if value = 0 ∨ Nat.pow 2 63 < value then none else some (-(value : Int))
    else if value < UInt64.size then some value else none

/-- **The value of a number**: an integer if it can be one, else a double, if it is in range. -/
def toNode (n : Numeral) : Node :=
  match n.toInt? with
  | some i => .int i
  | none => match n.toDouble? with
    | some x => .float x
    | none => .faulty

end Numeral

end ResourceWait.Json
