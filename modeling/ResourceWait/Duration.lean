/-!
# Durations

A span of time, exact to the nanosecond, and the short text an error message shows it in: whole
and fractional seconds from a second up, else milliseconds, microseconds or nanoseconds, whichever
is the largest unit that leaves a whole part.

The fraction is exact. It is written with the digits of the smaller unit and without trailing
zeros, so `1.5ms` and `3.000000001s` lose nothing and `120s` gains nothing.

A duration is also what one sleeps for. A sleep takes as long as it was meant to, but no longer than
thirty years.
-/

namespace ResourceWait

/-- **A duration**: a number of nanoseconds. -/
structure Duration where
  /-- How many nanoseconds. -/
  nanoseconds : Nat
deriving DecidableEq, Repr, Inhabited

/-- A point on a clock: the nanoseconds since the clock started. -/
abbrev Instant := Nat

namespace Duration

/-- No time at all. -/
def zero : Duration := ⟨0⟩

/-- So many seconds. -/
def ofSeconds (n : Nat) : Duration := ⟨n * 1000000000⟩

/-- So many milliseconds. -/
def ofMilliseconds (n : Nat) : Duration := ⟨n * 1000000⟩

/-- So many seconds and, on top, so many nanoseconds. -/
def ofParts (seconds nanos : Nat) : Duration := ⟨seconds * 1000000000 + nanos⟩

/-- The whole seconds of a duration. -/
def seconds (d : Duration) : Nat := d.nanoseconds / 1000000000

/-- The nanoseconds of a duration beyond its whole seconds. -/
def subseconds (d : Duration) : Nat := d.nanoseconds % 1000000000

/-- The whole seconds and the rest make up the duration. -/
theorem ofParts_seconds_subseconds (d : Duration) : ofParts d.seconds d.subseconds = d := by
  obtain ⟨n⟩ := d
  simp only [ofParts, seconds, subseconds, mk.injEq]
  omega

/-- A duration of whole seconds has that many of them. -/
@[simp] theorem seconds_ofSeconds (n : Nat) : (ofSeconds n).seconds = n := by
  simp [ofSeconds, seconds]

/-- **The longest sleep**: thirty years of 365 days. -/
def longestSleep : Duration := .ofSeconds (30 * 365 * 86400)

/-- **How long a sleep takes** that is meant to last for a duration. It is taken to the nanosecond here;
a real timer counts whole milliseconds, and wakes at the first of them that is not before the end of the
sleep. The laws of waits do not rest on the difference: they speak of how long a sleep takes, whatever
that is, or ask no more of it than that it takes some time. -/
def slept (d : Duration) : Duration := ⟨min d.nanoseconds longestSleep.nanoseconds⟩

/-- A sleep of up to thirty years takes as long as it was meant to. -/
theorem slept_of_le {d : Duration} (h : d.nanoseconds ≤ longestSleep.nanoseconds) : d.slept = d := by
  obtain ⟨n⟩ := d
  exact congrArg mk (Nat.min_eq_left h)

/-- The digits of a number below `10 ^ width`, leading zeros included, most significant first. -/
def paddedDigits : (width : Nat) → Nat → List Char
  | 0, _ => []
  | width + 1, n => paddedDigits width (n / 10) ++ [Nat.digitChar (n % 10)]

/-- A text without the zeros it ends in. -/
def dropTrailingZeros (digits : List Char) : List Char :=
  (digits.reverse.dropWhile (· == '0')).reverse

/-- The text of a fraction of `width` digits: nothing if it is zero, else a point and the digits up
to the last one that counts. -/
def fractionText (width fraction : Nat) : List Char :=
  match dropTrailingZeros (paddedDigits width fraction) with
  | [] => []
  | digits => '.' :: digits

/-- A number of nanoseconds in a unit of `10 ^ width` of them, with the unit's sign. -/
def textIn (width : Nat) (unit : String) (nanoseconds : Nat) : String :=
  toString (nanoseconds / Nat.pow 10 width)
    ++ String.ofList (fractionText width (nanoseconds % Nat.pow 10 width)) ++ unit

/-- **The text of a duration**, in the largest unit that leaves a whole part. -/
def text (d : Duration) : String :=
  let n := d.nanoseconds
  if 1000000000 ≤ n then textIn 9 "s" n
  else if 1000000 ≤ n then textIn 6 "ms" n
  else if 1000 ≤ n then textIn 3 "µs" n
  else textIn 0 "ns" n

instance : ToString Duration := ⟨text⟩

example : (ofParts 3 10).text = "3.00000001s" := by decide
example : (ofParts 0 1000001).text = "1.000001ms" := by decide
example : (ofParts 0 1500).text = "1.5µs" := by decide
example : zero.text = "0ns" := by decide

end Duration

end ResourceWait
