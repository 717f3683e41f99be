import ResourceWait.Decimal.Double

/-!
# The shortest decimal of a double

Every double is the nearest one to a whole interval of reals, and among the decimals in that
interval there is one with the fewest digits. `Decimal.shortest` finds it: for one digit, for two,
and so on, it tries the two decimals of that many digits on either side of the number, and takes the
first that falls into the interval – the nearer one when both do, and on a tie whichever `Tie` says.
Seventeen digits always suffice.

The interval reaches half a unit of the mantissa up and half a unit down, except that below a power
of two the doubles lie twice as close and it reaches a quarter down. Its ends belong to it when the
mantissa is even.
-/

namespace ResourceWait

/-- **A decimal**: `digits · 10 ^ exponent`. -/
structure Decimal where
  /-- The digits, read as a number. -/
  digits : Nat
  /-- The power of ten that the last digit counts. -/
  exponent : Int
deriving DecidableEq, Inhabited

/-- **Which of two neighbours on a grid stands for a number halfway between them.** -/
inductive Tie where
  /-- The even one. -/
  | toEven
  /-- The greater one. -/
  | up
deriving DecidableEq, Inhabited

/-- Whether a number halfway between two neighbours goes to the lower of them, `low`. -/
def Tie.goesDown (tie : Tie) (low : Nat) : Bool :=
  match tie with
  | .toEven => low % 2 == 0
  | .up => false

namespace Decimal

/-- A fraction compared with another: whether `a / b < c / d`. -/
def less (x y : Nat × Nat) : Bool := x.1 * y.2 < y.1 * x.2

/-- The interval of reals that round to a double, in quarters of its unit: its two ends as
fractions, and whether they belong to it. -/
def interval (mantissa : Nat) (exponent : Int) : (Nat × Nat) × (Nat × Nat) × Bool :=
  let down := if mantissa = Nat.pow 2 52 ∧ -1074 < exponent then 1 else 2
  (Double.scaleFraction (4 * mantissa - down) 1 (exponent - 2),
    Double.scaleFraction (4 * mantissa + 2) 1 (exponent - 2), mantissa % 2 = 0)

/-- Whether a fraction lies in an interval. -/
def within (ends : (Nat × Nat) × (Nat × Nat) × Bool) (x : Nat × Nat) : Bool :=
  let (lower, upper, closed) := ends
  if closed then !less x lower && !less upper x else less lower x && less x upper

/-- The power of ten of the first digit of a fraction that is not zero. -/
def leadingExponent (num den : Nat) : Int :=
  -- 1233 / 4096 is a little less than the decimal logarithm of two
  let guess : Int := ((Nat.log2 num : Int) - Nat.log2 den) * 1233 / 4096
  let reaches (k : Int) : Bool := !less (num, den) (Double.decimalFraction 1 k)
  if reaches (guess + 2) then guess + 2 else if reaches (guess + 1) then guess + 1
  else if reaches guess then guess else if reaches (guess - 1) then guess - 1 else guess - 2

/-- The decimal on a grid that is in the interval, if one of the two around the number is: the
nearer one if both are. -/
def onGrid (tie : Tie) (num den : Nat) (ends : (Nat × Nat) × (Nat × Nat) × Bool) (unit : Int) :
    Option Decimal :=
  let (p, q) := Double.decimalFraction 1 unit
  let low := num * q / (den * p)
  let remainder := num * q % (den * p)
  let value (n : Nat) : Nat × Nat := Double.decimalFraction n unit
  let lowIn := within ends (value low)
  let highIn := within ends (value (low + 1))
  let lowNearer := 2 * remainder < den * p || (2 * remainder == den * p && tie.goesDown low)
  if lowIn && (lowNearer || !highIn) then some ⟨low, unit⟩
  else if highIn then some ⟨low + 1, unit⟩
  else none

/-- A decimal with its trailing zeros counted in the exponent; `fuel` bounds how many there are. -/
def trimmed : (fuel : Nat) → Decimal → Decimal
  | 0, d => d
  | fuel + 1, d =>
    if d.digits ≠ 0 ∧ d.digits % 10 = 0 then trimmed fuel ⟨d.digits / 10, d.exponent + 1⟩ else d

/-- **The shortest decimal** that reads back as `mantissa · 2 ^ exponent`, and the nearest of
those. -/
def shortest (tie : Tie) (mantissa : Nat) (exponent : Int) : Decimal :=
  if mantissa = 0 then ⟨0, 0⟩ else
    let (num, den) := Double.fraction mantissa exponent
    let ends := interval mantissa exponent
    let first := leadingExponent num den
    match (List.range 17).findSome? fun (n : Nat) => onGrid tie num den ends (first - n) with
    | some d => trimmed 20 d
    | none => ⟨0, 0⟩

end Decimal

end ResourceWait
