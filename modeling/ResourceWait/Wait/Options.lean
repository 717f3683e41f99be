import ResourceWait.Wait.Clock

/-!
# Options of a wait

How long to pause between two fetches, how much time to spend at most, and the token that may end the
wait earlier. Two seconds and two minutes are the usual.

A budget is spent when more time has passed than it holds, to the nanosecond; at its very end a fetch
is still allowed, and so is the first fetch when it holds nothing.
-/

namespace ResourceWait

/-- The usual pause between two fetches. -/
def usualInterval : Duration := .ofSeconds 2

/-- The usual budget. -/
def usualTimeout : Duration := .ofSeconds 120

/-- **The pace of a wait**: its pause and its budget. -/
structure Pace where
  /-- The pause between two fetches. -/
  interval : Duration := usualInterval
  /-- How much time to spend at most; `none` for a wait without end. -/
  timeout : Option Duration := some usualTimeout
deriving DecidableEq, Repr

/-- Whether a wait that has gone on for some time has spent its budget. -/
def Pace.isSpent (pace : Pace) (elapsed : Nat) : Bool :=
  match pace.timeout with
  | some budget => budget.nanoseconds < elapsed
  | none => false

/-- How long a pause takes that nothing cuts short. -/
def Pace.lap (pace : Pace) : Nat := pace.interval.slept.nanoseconds

/-- No budget is spent when the wait begins. -/
@[simp] theorem Pace.isSpent_zero (pace : Pace) : pace.isSpent 0 = false := by
  unfold isSpent
  split
  · exact decide_eq_false (Nat.not_lt_zero _)
  · rfl

/-- A finite budget is spent when more time has passed than it holds. -/
theorem Pace.isSpent_iff {pace : Pace} {budget : Duration} (h : pace.timeout = some budget)
    (elapsed : Nat) : pace.isSpent elapsed = true ↔ budget.nanoseconds < elapsed := by
  simp [isSpent, h]

/-- A wait that would spend no finite budget has not spent its own. -/
theorem Pace.isSpent_eq_false {pace : Pace} {elapsed : Nat}
    (h : ∀ budget, pace.timeout = some budget → elapsed ≤ budget.nanoseconds) :
    pace.isSpent elapsed = false := by
  cases htimeout : pace.timeout with
  | none => simp [isSpent, htimeout]
  | some budget =>
    have hle := h budget htimeout
    simp [isSpent, htimeout, hle]

/-- What has passed of an unspent budget is no more than it holds. -/
theorem Pace.le_of_isSpent_eq_false {pace : Pace} {budget : Duration} {elapsed : Nat}
    (h : pace.timeout = some budget) (hspent : pace.isSpent elapsed = false) :
    elapsed ≤ budget.nanoseconds := by
  refine Nat.le_of_not_lt fun hlt => ?_
  rw [(isSpent_iff h elapsed).mpr hlt] at hspent
  exact absurd hspent.symm Bool.false_ne_true

/-- A budget that can be spent is finite. -/
theorem Pace.timeout_of_isSpent {pace : Pace} {elapsed : Nat} (h : pace.isSpent elapsed = true) :
    ∃ budget, pace.timeout = some budget ∧ budget.nanoseconds < elapsed := by
  cases htimeout : pace.timeout with
  | none => simp [isSpent, htimeout] at h
  | some budget => exact ⟨budget, rfl, (isSpent_iff htimeout elapsed).mp h⟩

/-- **The options of a wait**: its pace and its token. -/
structure WaitOptions extends Pace where
  /-- What may cancel the wait, if anything. -/
  cancel : Option Token := none
deriving DecidableEq, Repr

namespace WaitOptions

/-- The options for a wait without end. -/
def forever : WaitOptions := { timeout := none }

/-- The options with another pause. -/
def withInterval (options : WaitOptions) (interval : Duration) : WaitOptions :=
  { options with interval }

/-- The options with another budget. -/
def withTimeout (options : WaitOptions) (timeout : Option Duration) : WaitOptions :=
  { options with timeout }

/-- The options with a token. -/
def withCancel (options : WaitOptions) (token : Token) : WaitOptions :=
  { options with cancel := some token }

/-- The clock of a wait that begins with these options. -/
def clock (options : WaitOptions) (now : Instant) : Clock := ⟨now, options.cancel⟩

end WaitOptions

end ResourceWait
