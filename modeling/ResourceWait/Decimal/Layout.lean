import ResourceWait.Decimal.Shortest

/-!
# Writing doubles out

How a double is shown: its shortest decimal, laid out with or without an exponent. A `Layout` says
from which size on, up or down, an exponent is written, and what becomes of a tie; both kinds of
document that this library reads show a whole number with one decimal, as `10.0`.
-/

namespace ResourceWait

/-- **A layout of numbers**: between which powers of ten the first digit may lie for a number to be
written without an exponent, and which of two shortest decimals is taken when both are as near. -/
structure Layout where
  /-- The least such power, if there is one. -/
  least : Option Int
  /-- The greatest such power, if there is one. -/
  greatest : Option Int
  /-- Where a tie goes. -/
  tie : Tie
deriving DecidableEq, Inhabited

namespace Layout

/-- An exponent from `1e+16` up and below `1e-5`; a tie goes to the even digit. -/
def bounded : Layout := ⟨some (-5), some 15, .toEven⟩

/-- Never an exponent, whatever the size; a tie goes away from zero. -/
def positional : Layout := ⟨none, none, .up⟩

/-- Whether a number whose first digit counts `10 ^ k` is written without an exponent. -/
def isPositional (l : Layout) (k : Int) : Bool :=
  (match l.least with | some a => a ≤ k | none => true) &&
    (match l.greatest with | some b => k ≤ b | none => true)

/-- Digits with the point where `10 ^ exponent` counts the last one; at least one digit follows the
point. -/
def withPoint (digits : List Char) (exponent : Int) : List Char :=
  if 0 ≤ exponent then digits ++ List.replicate exponent.toNat '0' ++ ['.', '0']
  else
    let decimals := (-exponent).toNat
    if decimals < digits.length then
      digits.take (digits.length - decimals) ++ '.' :: digits.drop (digits.length - decimals)
    else '0' :: '.' :: (List.replicate (decimals - digits.length) '0' ++ digits)

/-- Digits with the point behind the first one, and the power of ten that one counts. -/
def withExponent (digits : List Char) (first : Int) : List Char :=
  let lead := match digits with
    | d :: e :: rest => d :: '.' :: e :: rest
    | short => short
  lead ++ 'e' :: (if 0 ≤ first then '+' else '-') :: (toString first.natAbs).toList

/-- **The text of a double** in a layout. -/
def text (l : Layout) : Double → String
  | .nan => "NaN"
  | .infinite negative => if negative then "-inf" else "inf"
  | .finite negative mantissa exponent =>
    let d := Decimal.shortest l.tie mantissa exponent
    let digits := (toString d.digits).toList
    let first : Int := d.exponent + digits.length - 1
    let body := if l.isPositional first then withPoint digits d.exponent
      else withExponent digits first
    String.ofList (if negative then '-' :: body else body)

end Layout

end ResourceWait
