import ResourceWait.Document.Node
import ResourceWait.Text.Digits

/-!
# Dates and times in TOML

A date, a time of day, or a date with a time and perhaps an offset. Dates have to exist, leap years
considered; a minute may have a second numbered sixty. To a record that knows nothing of dates, one is
a table with a field of its own.
-/

namespace ResourceWait.Toml

open ResourceWait.Text (isDigit digitsValue spanDigits)

/-- A number of exactly so many digits, from one bound to another, and what follows it. -/
def scanPart (digits least greatest : Nat) (cs : List Char) : Option (Nat × List Char) :=
  let part := cs.take digits
  let value := digitsValue part
  if part.length = digits ∧ part.all isDigit ∧ least ≤ value ∧ value ≤ greatest then
    some (value, cs.drop digits)
  else none

/-- What follows a character, if the text begins with it. -/
def behindChar? (c : Char) : List Char → Option (List Char)
  | d :: rest => if c = d then some rest else none
  | [] => none

/-- Whether a year has a leap day. -/
def isLeapYear (year : Nat) : Bool := year % 4 == 0 && (year % 100 != 0 || year % 400 == 0)

/-- How many days a month has. -/
def daysIn (year month : Nat) : Nat :=
  if month = 2 then (if isLeapYear year then 29 else 28)
  else if month = 4 ∨ month = 6 ∨ month = 9 ∨ month = 11 then 30 else 31

/-- What follows a date. -/
def behindDate? (cs : List Char) : Option (List Char) := do
  let (year, cs) ← scanPart 4 0 9999 cs
  let (month, cs) ← scanPart 2 1 12 (← behindChar? '-' cs)
  let (_, cs) ← scanPart 2 1 (daysIn year month) (← behindChar? '-' cs)
  return cs

/-- What follows the fraction of a second, which may be left out. -/
def behindFraction (cs : List Char) : List Char :=
  match cs with
  | '.' :: rest => match spanDigits rest with
    | ([], _) => cs
    | (_, rest) => rest
  | cs => cs

/-- What follows a time of day. -/
def behindTime? (cs : List Char) : Option (List Char) := do
  let (_, cs) ← scanPart 2 0 23 cs
  let (_, cs) ← scanPart 2 0 59 (← behindChar? ':' cs)
  let (_, cs) ← scanPart 2 0 60 (← behindChar? ':' cs)
  return behindFraction cs

/-- What follows an offset. -/
def behindOffset? (cs : List Char) : Option (List Char) :=
  match cs with
  | 'Z' :: rest => some rest
  | 'z' :: rest => some rest
  | c :: rest =>
    if c = '+' ∨ c = '-' then do
      let (_, cs) ← scanPart 2 0 23 rest
      let (_, cs) ← scanPart 2 0 59 (← behindChar? ':' cs)
      return cs
    else none
  | [] => none

/-- What follows a time behind a date, which may be left out. -/
def behindClock (cs : List Char) : List Char :=
  match cs with
  | c :: rest =>
    if c = 'T' ∨ c = 't' ∨ c = ' ' then
      match behindTime? rest with
      | some rest => (behindOffset? rest).getD rest
      | none => cs
    else cs
  | [] => []

/-- The key under which a record finds a date. -/
def momentKey : String := "moment"

/-- **A date or a time**, and what follows it. -/
def scanMoment (cs : List Char) : Option (Node × List Char) := do
  let rest ← behindClock <$> behindDate? cs <|> behindTime? cs
  return (.map [(momentKey, .text (String.ofList (cs.take (cs.length - rest.length))))], rest)

end ResourceWait.Toml
