import ResourceWait.Resource.Basic
import ResourceWait.Source.Basic
import ResourceWait.Status
import ResourceWait.Wait.Error

/-!
# What is waited for

A wait is for a status or for a deletion, and its goal decides what an answer of the source means.
`Goal.judge` gives the verdict on one observation: it either settles the wait, well or badly, or it
leaves it open with a newer representation of the resource to go on with.

For a status the target counts before the statuses of failure, so a status that is both settles the
wait well. For a deletion no status counts at all: as long as the resource is there, the wait is open.
-/

namespace ResourceWait

/-- **A goal of a wait.** -/
inductive Goal where
  /-- A status to reach, and the statuses that mean that it will not be reached. -/
  | status (target : String) (failures : List String)
  /-- The resource being gone. -/
  | deletion
deriving DecidableEq, Repr

/-- **The verdict on an observation**, with what is to be logged about it. -/
inductive Verdict (R E : Type) where
  /-- The wait is over. -/
  | settled (log : List LogEntry) (result : Except (WaitError R E) R)
  /-- The wait goes on, with this representation. -/
  | unsettled (log : List LogEntry) (current : R)

section

variable {R E : Type} [Resource R]

/-- The log entry of a notice about a resource. -/
def Notice.about (notice : Notice) (resource : R) : LogEntry :=
  ⟨Resource.kind R, Resource.id resource, notice⟩

namespace Goal

/-- What the goal is called in an error. -/
def target : Goal → String
  | status target _ => target
  | deletion => "deleted"

/-- **The verdict on an observation** that was asked for with a handle. -/
def judge (goal : Goal) (handle : R) (observation : Observation R) : Verdict R E :=
  match goal, observation with
  | status target _, .notFound =>
    .settled [Notice.about (.disappeared target) handle]
      (.error (.notFound (Resource.kind R) (Resource.id handle) target handle))
  | status target failures, .found current =>
    match Resource.status current with
    | none => .settled [] (.error (.misuse (Resource.kind R)))
    | some s =>
      if Status.agree s target then .settled [Notice.about (.reached s) current] (.ok current)
      else if Status.isAnyOf s failures then
        .settled [Notice.about (.failed s) current]
          (.error (.failure (Resource.kind R) (Resource.id current) s current))
      else .unsettled [Notice.about (.awaiting target s) current] current
  | deletion, .notFound => .settled [Notice.about .deleted handle] (.ok handle)
  | deletion, .found current => .unsettled [Notice.about .awaitingDeletion current] current

/-- What is logged when the budget is spent. -/
def timeoutNotice (goal : Goal) (current : R) : Notice :=
  match goal with
  | status target _ => .timedOut target (Resource.status current)
  | deletion => .deletionTimedOut

/-- The error of a spent budget. -/
def timeoutError (goal : Goal) (budget : Option Duration) (current : R) : WaitError R E :=
  .timeout (Resource.kind R) (Resource.id current) goal.target (Resource.status current)
    (budget.getD .zero) current

end Goal

/-- The error of a cancelled wait. -/
def WaitError.ofCancelled (current : R) : WaitError R E :=
  .cancelled (Resource.kind R) (Resource.id current) current

end

end ResourceWait
