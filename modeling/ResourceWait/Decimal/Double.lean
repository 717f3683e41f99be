/-!
# Doubles as integers

The numbers of the 64-bit binary format, written with integers: a finite one is `m · 2^e`, with
`m` below `2^53` and `e` at least `-1074`. Every operation here takes its exact result as a
fraction and rounds once, to the nearest double and to an even mantissa on a tie
(`Double.ofFraction`), so all of it is arithmetic on natural numbers.

A document's numbers become doubles in one of two ways. `Double.ofDecimal` rounds the exact decimal
once. `Double.scaled` rounds the digits first and then multiplies or divides by a power of ten that
has itself been rounded; now and then the second is one unit off the first.
-/

namespace ResourceWait

/-- **A double**: a finite number `± mantissa · 2 ^ exponent`, an infinity, or no number. -/
inductive Double where
  /-- A finite number; zero has a sign too. -/
  | finite (negative : Bool) (mantissa : Nat) (exponent : Int)
  /-- Larger than every finite number, with a sign. -/
  | infinite (negative : Bool)
  /-- Not a number. -/
  | nan
deriving DecidableEq, Inhabited

namespace Double

/-- `a / b` rounded to the nearest integer, a half to the even neighbour. -/
def roundQuotient (a b : Nat) : Nat :=
  let q := a / b
  let r := 2 * (a % b)
  if r < b then q else if b < r then q + 1 else if q % 2 = 0 then q else q + 1

/-- The larger of two numbers, one of which is a whole power of two up or down: `n · 2 ^ k` as a
numerator and a denominator. -/
def scaleFraction (num den : Nat) (k : Int) : Nat × Nat :=
  if 0 ≤ k then (num * Nat.pow 2 k.toNat, den) else (num, den * Nat.pow 2 (-k).toNat)

/-- The exponent at which `num / den` has a mantissa of 53 bits, and no less than the least
exponent there is. -/
def exponentOf (num den : Nat) : Int :=
  let guess : Int := (Nat.log2 num : Int) - Nat.log2 den - 53
  let (n, d) := scaleFraction num den (-guess)
  max (-1074) (if d * Nat.pow 2 53 ≤ n then guess + 1 else guess)

/-- **The double nearest to a fraction**, with an even mantissa on a tie, and infinite from half a
unit above the greatest double. -/
def ofFraction (negative : Bool) (num den : Nat) : Double :=
  if num = 0 then .finite negative 0 (-1074) else
    let e := exponentOf num den
    let (n, d) := scaleFraction num den (-e)
    let m := roundQuotient n d
    let (m, e) := if m = Nat.pow 2 53 then (Nat.pow 2 52, e + 1) else (m, e)
    if 971 < e then .infinite negative else .finite negative m e

/-- A decimal power as a fraction, times a number. -/
def decimalFraction (digits : Nat) (exponent : Int) : Nat × Nat :=
  if 0 ≤ exponent then (digits * Nat.pow 10 exponent.toNat, 1)
  else (digits, Nat.pow 10 (-exponent).toNat)

/-- The double nearest to `digits · 10 ^ exponent`. Exponents beyond the reach of any double are
cut short, so that no power is taken that could not matter. -/
def ofDecimal (negative : Bool) (digits : Nat) (exponent : Int) : Double :=
  if digits = 0 then .finite negative 0 (-1074)
  else if 400 < exponent then .infinite negative
  else if exponent < -(400 + (Nat.log2 digits : Int)) then .finite negative 0 (-1074)
  else
    let (n, d) := decimalFraction digits exponent
    ofFraction negative n d

/-- The magnitude of a finite double as a fraction. -/
def fraction (mantissa : Nat) (exponent : Int) : Nat × Nat :=
  scaleFraction mantissa 1 exponent

/-- The product of two doubles that are neither infinite nor no number. -/
def times : Double → Double → Double
  | .finite s m e, .finite t n f =>
    let (a, b) := fraction m e
    let (c, d) := fraction n f
    ofFraction (s != t) (a * c) (b * d)
  | x, _ => x

/-- The quotient of two doubles that are neither infinite nor no number, the second not zero. -/
def dividedBy : Double → Double → Double
  | .finite s m e, .finite t n f =>
    let (a, b) := fraction m e
    let (c, d) := fraction n f
    ofFraction (s != t) (a * d) (b * c)
  | x, _ => x

/-- Whether a double is zero, of either sign. -/
def isZero : Double → Bool
  | .finite _ m _ => m == 0
  | _ => false

/-- Ten to a power that a double can hold, rounded. -/
def powerOfTen (k : Nat) : Double :=
  ofFraction false (Nat.pow 10 k) 1

/-- Dividing by ten to a large power goes 308 decimal places at a time, rounding at each. -/
def shrink : (rounds : Nat) → Double → Nat → Double
  | 0, x, k => x.dividedBy (powerOfTen (min k 308))
  | rounds + 1, x, k =>
    if k ≤ 308 then x.dividedBy (powerOfTen k)
    else if x.isZero then x
    else shrink rounds (x.dividedBy (powerOfTen 308)) (k - 308)

/-- **A scaled number**: `digits`, rounded, then times or over a rounded power of ten. There is no
number where that leaves the range of doubles. -/
def scaled (negative : Bool) (digits : Nat) (exponent : Int) : Option Double :=
  let x := ofFraction negative digits 1
  if 0 ≤ exponent then
    if 308 < exponent then (if x.isZero then some x else none)
    else match x.times (powerOfTen exponent.toNat) with
      | .finite s m e => some (.finite s m e)
      | _ => none
  else
    -- three rounds of 308 places take the greatest 64-bit number to zero
    some (shrink 4 x (-exponent).toNat)

end Double

end ResourceWait
