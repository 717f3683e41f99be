/-!
# Digits

The digits of numbers in texts, in tens and in powers of two, and the numbers that they make.
-/

namespace ResourceWait.Text

/-- Whether a character is a decimal digit. -/
def isDigit (c : Char) : Bool := '0' ≤ c && c ≤ '9'

/-- The value of a decimal digit. -/
def digitValue (c : Char) : Nat := c.toNat - '0'.toNat

/-- The value of decimal digits, the first counting most. -/
def digitsValue (digits : List Char) : Nat :=
  digits.foldl (fun value c => 10 * value + digitValue c) 0

/-- The decimal digits that a text begins with, and what follows them. -/
def spanDigits (cs : List Char) : List Char × List Char :=
  (cs.takeWhile isDigit, cs.dropWhile isDigit)

/-- The value of a hexadecimal digit, in either case. -/
def hexDigit? (c : Char) : Option Nat :=
  if isDigit c then some (digitValue c)
  else if 'a' ≤ c ∧ c ≤ 'f' then some (c.toNat - 'a'.toNat + 10)
  else if 'A' ≤ c ∧ c ≤ 'F' then some (c.toNat - 'A'.toNat + 10)
  else none

/-- The value of hexadecimal digits, the first counting most. -/
def hexValue? : List Char → Option Nat :=
  go 0
where
  /-- The value of more digits behind a number. -/
  go (value : Nat) : List Char → Option Nat
    | [] => some value
    | c :: rest => match hexDigit? c with
      | some digit => go (16 * value + digit) rest
      | none => none

end ResourceWait.Text
