import ResourceWait.Routine.Basic
import ResourceWait.Wait.Goal
import ResourceWait.Wait.Options

/-!
# Waiting

A wait asks a source again and again until an answer settles it. Every pass looks at the budget first
and at the resource then; between two passes lies a pause. What an answer showed is the handle of the
next question, and it is what the wait ends with.

`waitForStatus` does not ask at all about a resource that is there already, or that has no status.
`waitForDelete` always asks: a resource that can still be fetched is not deleted, whatever its status.

Each of the two has a loop. That of a status asks its goal about every answer, and so would serve for
any goal (`poll`); that of a deletion looks for an absence and at nothing else. The two come to the same
for the goal of a deletion (`waitForDelete_eq_pollFromNow`), so what holds of the first loop for all goals
holds of both waits.

The loops are written with the step between two passes left open, in any monad that routines can be
lifted to. The waits themselves have the pause there.
-/

namespace ResourceWait

namespace Routine

variable {S R E : Type} [Resource R]

/-! ### Loops with an open step -/

section

variable {m : Type → Type} [Monad m] [MonadLiftT (Routine S (Event R E)) m]

/-- **Asks until the goal is settled** or the budget spent, and takes a step of its own between two
passes, which says whether to go on. `start` is when the wait began, `current` the last representation;
`fuel` is how many passes are followed. -/
def pollWith (rest : m Bool) (source : Source S R E) (goal : Goal) (pace : Pace) (start : Instant) :
    (fuel : Nat) → (current : R) → m (Except (WaitError R E) R)
  | 0, _ => liftM (halt : Routine S (Event R E) _)
  | fuel + 1, current => do
    if pace.isSpent ((← (now : Routine S (Event R E) Instant)) - start) then
      (log [(goal.timeoutNotice current).about current] : Routine S (Event R E) Unit)
      return .error (goal.timeoutError pace.timeout current)
    else
      match ← fetch source current with
      | .error e => return .error (.fetch e)
      | .ok observation =>
        match goal.judge current observation with
        | .settled entries result =>
          (log entries : Routine S (Event R E) Unit)
          return result
        | .unsettled entries newer =>
          (log entries : Routine S (Event R E) Unit)
          if ← rest then pollWith rest source goal pace start fuel newer
          else return .error (.ofCancelled newer)

/-- **Asks until the resource is gone** or the budget spent, with a step of its own between two
passes. -/
def pollDeletionWith (rest : m Bool) (source : Source S R E) (pace : Pace) (start : Instant) :
    (fuel : Nat) → (last : R) → m (Except (WaitError R E) R)
  | 0, _ => liftM (halt : Routine S (Event R E) _)
  | fuel + 1, last => do
    if pace.isSpent ((← (now : Routine S (Event R E) Instant)) - start) then
      (log [Notice.deletionTimedOut.about last] : Routine S (Event R E) Unit)
      return .error (.timeout (Resource.kind R) (Resource.id last) "deleted" (Resource.status last)
        (pace.timeout.getD .zero) last)
    else
      match ← fetch source last with
      | .error e => return .error (.fetch e)
      | .ok .notFound =>
        (log [Notice.deleted.about last] : Routine S (Event R E) Unit)
        return .ok last
      | .ok (.found newer) =>
        (log [Notice.awaitingDeletion.about newer] : Routine S (Event R E) Unit)
        if ← rest then pollDeletionWith rest source pace start fuel newer
        else return .error (.ofCancelled newer)

/-- `pollFromNow` with the step between two passes left open. -/
def pollFromNowWith (rest : m Bool) (source : Source S R E) (goal : Goal) (pace : Pace) (fuel : Nat)
    (resource : R) : m (Except (WaitError R E) R) := do
  pollWith rest source goal pace (← (now : Routine S (Event R E) Instant)) fuel resource

/-- `waitForStatus` with the step between two passes left open. -/
def waitForStatusWith (rest : m Bool) (source : Source S R E) (target : String)
    (failures : List String) (pace : Pace) (fuel : Nat) (resource : R) :
    m (Except (WaitError R E) R) :=
  match Resource.status resource with
  | none => return .error (.misuse (Resource.kind R))
  | some status =>
    if Status.agree status target then return .ok resource
    else pollFromNowWith rest source (.status target failures) pace fuel resource

/-- `waitForDelete` with the step between two passes left open. -/
def waitForDeleteWith (rest : m Bool) (source : Source S R E) (pace : Pace) (fuel : Nat)
    (resource : R) : m (Except (WaitError R E) R) := do
  pollDeletionWith rest source pace (← (now : Routine S (Event R E) Instant)) fuel resource

/-- **The loop of a deletion is the loop for the goal of a deletion.** -/
theorem pollDeletionWith_eq (rest : m Bool) (source : Source S R E) (pace : Pace) (start : Instant)
    (fuel : Nat) (last : R) :
    pollDeletionWith rest source pace start fuel last
      = pollWith rest source .deletion pace start fuel last := by
  induction fuel generalizing last with
  | zero => rfl
  | succ fuel ih =>
    rw [pollDeletionWith, pollWith]
    refine congrArg (liftM _ >>= ·) (funext fun moment => ?_)
    -- a spent budget is told and reported alike, so the loops can only part over an answer
    refine congrArg (ite _ _) ?_
    refine congrArg (liftM _ >>= ·) (funext fun answer => ?_)
    match answer with
    | .error e => rfl
    | .ok .notFound => rfl
    | .ok (.found newer) =>
      dsimp only [Goal.judge]
      simp only [ih]

/-- So is a wait for a deletion, however it rests. -/
theorem waitForDeleteWith_eq (rest : m Bool) (source : Source S R E) (pace : Pace) (fuel : Nat)
    (resource : R) :
    waitForDeleteWith rest source pace fuel resource
      = pollFromNowWith rest source .deletion pace fuel resource := by
  unfold waitForDeleteWith pollFromNowWith
  simp only [pollDeletionWith_eq]

end

/-! ### Waits that pause -/

/-- **Asks until the goal is settled**, the budget spent or the token cancelled. -/
def poll (source : Source S R E) (goal : Goal) (pace : Pace) (start : Instant) (fuel : Nat)
    (current : R) : Routine S (Event R E) (Except (WaitError R E) R) :=
  pollWith (pause pace.interval : Routine S (Event R E) Bool) source goal pace start fuel current

/-- Asks until the goal is settled, from now on. -/
def pollFromNow (source : Source S R E) (goal : Goal) (pace : Pace) (fuel : Nat) (resource : R) :
    Routine S (Event R E) (Except (WaitError R E) R) :=
  pollFromNowWith (pause pace.interval : Routine S (Event R E) Bool) source goal pace fuel resource

/-- **Waits for a status**, or for one of the failures. A resource that is in the status already is
returned as it is, without a question. -/
def waitForStatus (source : Source S R E) (target : String) (failures : List String) (pace : Pace)
    (fuel : Nat) (resource : R) : Routine S (Event R E) (Except (WaitError R E) R) :=
  waitForStatusWith (pause pace.interval : Routine S (Event R E) Bool) source target failures pace fuel
    resource

/-- **Waits for a deletion.** What is returned is the last representation that was seen. -/
def waitForDelete (source : Source S R E) (pace : Pace) (fuel : Nat) (resource : R) :
    Routine S (Event R E) (Except (WaitError R E) R) :=
  waitForDeleteWith (pause pace.interval : Routine S (Event R E) Bool) source pace fuel resource

section

variable (source : Source S R E) (goal : Goal) (pace : Pace) (start : Instant) (fuel : Nat)

theorem poll_zero (current : R) : poll source goal pace start 0 current = halt := rfl

/-- One pass of the loop, and the rest behind a pause. -/
theorem poll_succ (current : R) :
    poll source goal pace start (fuel + 1) current = do
      if pace.isSpent ((← now) - start) then
        log [(goal.timeoutNotice current).about current]
        return .error (goal.timeoutError pace.timeout current)
      else
        match ← fetch source current with
        | .error e => return .error (.fetch e)
        | .ok observation =>
          match goal.judge current observation with
          | .settled entries result =>
            log entries
            return result
          | .unsettled entries newer =>
            log entries
            if ← pause pace.interval then poll source goal pace start fuel newer
            else return .error (.ofCancelled newer) := rfl

theorem pollFromNow_eq (resource : R) :
    pollFromNow source goal pace fuel resource
      = now >>= fun start => poll source goal pace start fuel resource := rfl

/-- **A wait for a deletion asks until that goal is settled**, from now on. -/
theorem waitForDelete_eq_pollFromNow (resource : R) :
    waitForDelete source pace fuel resource = pollFromNow source .deletion pace fuel resource :=
  waitForDeleteWith_eq (pause pace.interval) source pace fuel resource

end

/-! ### What waits are made of -/

/-- **A property of routines that holds piece by piece**: the operations on a source have it, and one
routine after another has it if both do. -/
structure IsPiecewise (source : Source S R E) (P : (α : Type) → Routine S (Event R E) α → Prop) :
    Prop where
  /-- Doing nothing has it. -/
  pure : ∀ {α : Type} (a : α), P α (Pure.pure a)
  /-- Not being followed has it. -/
  halt : ∀ {α : Type}, P α Routine.halt
  /-- Looking at the clock has it. -/
  now : P Instant Routine.now
  /-- Writing to the log has it. -/
  log : ∀ entries, P Unit (Routine.log entries)
  /-- Asking has it. -/
  fetch : ∀ handle, P (Except E (Observation R)) (Routine.fetch source handle)
  /-- Pausing has it. -/
  pause : ∀ interval, P Bool (Routine.pause interval)
  /-- It passes on to what is put together. -/
  bind : ∀ {α β : Type} {x : Routine S (Event R E) α} {f : α → Routine S (Event R E) β}, P α x →
    (∀ a, P β (f a)) → P β (x >>= f)

namespace IsPiecewise

variable {source : Source S R E} {P : (α : Type) → Routine S (Event R E) α → Prop}

/-- **The loop has what its pieces have.** -/
theorem poll (piecewise : IsPiecewise source P) (goal : Goal) (pace : Pace) (start : Instant)
    (fuel : Nat) (current : R) : P _ (Routine.poll source goal pace start fuel current) := by
  induction fuel generalizing current with
  | zero => exact piecewise.halt
  | succ fuel ih =>
    rw [poll_succ]
    refine piecewise.bind piecewise.now fun moment => ?_
    split
    · exact piecewise.bind (piecewise.log _) fun _ => piecewise.pure _
    · refine piecewise.bind (piecewise.fetch current) fun answer => ?_
      split
      · exact piecewise.pure _
      · split
        · exact piecewise.bind (piecewise.log _) fun _ => piecewise.pure _
        · refine piecewise.bind (piecewise.log _) fun _ => ?_
          refine piecewise.bind (piecewise.pause _) fun slept => ?_
          split
          · exact ih _
          · exact piecewise.pure _

/-- So has a wait for a deletion. -/
theorem waitForDelete (piecewise : IsPiecewise source P) (pace : Pace) (fuel : Nat) (resource : R) :
    P _ (Routine.waitForDelete source pace fuel resource) := by
  rw [waitForDelete_eq_pollFromNow, pollFromNow_eq]
  exact piecewise.bind piecewise.now fun start => piecewise.poll .deletion pace start fuel resource

end IsPiecewise

end Routine

end ResourceWait
