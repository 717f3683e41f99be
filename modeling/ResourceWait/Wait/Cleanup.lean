import ResourceWait.Wait.Poll

/-!
# Cleanups

Before a resource can go, those that depend on it have to be gone, so a cleanup waits for many
deletions, one after the other. One that does not come about is written down and passed over: the
report says of every resource whether it is gone, and if not, why.
-/

namespace ResourceWait

/-- **The report of a cleanup.** -/
structure CleanupReport where
  /-- The ids of the resources that are gone. -/
  deleted : List String := []
  /-- The ids of the others, each with the reason. -/
  failed : List (String × String) := []
deriving DecidableEq, Repr

namespace CleanupReport

/-- Whether every resource is gone. -/
def isComplete (report : CleanupReport) : Bool := report.failed.isEmpty

/-- A report and the one that came after it. -/
def merge (first second : CleanupReport) : CleanupReport :=
  ⟨first.deleted ++ second.deleted, first.failed ++ second.failed⟩

/-- The report of a resource that is gone. -/
def ofDeleted (id : String) : CleanupReport := { deleted := [id] }

/-- The report of a resource that is not. -/
def ofFailed (id reason : String) : CleanupReport := { failed := [(id, reason)] }

@[simp] theorem merge_empty (report : CleanupReport) : report.merge {} = report := by
  simp [merge]

@[simp] theorem empty_merge (report : CleanupReport) : merge {} report = report := by
  simp [merge]

/-- Reports in a row do not depend on how they are grouped. -/
theorem merge_assoc (a b c : CleanupReport) : (a.merge b).merge c = a.merge (b.merge c) := by
  simp [merge]

end CleanupReport

namespace Routine

variable {S R E : Type} [Resource R] [ToString E]

/-- Waits for one deletion of a cleanup, and says how it went. -/
def waitForDeletion (source : Source S R E) (pace : Pace) (fuel : Nat) (resource : R) :
    Routine S (Event R E) CleanupReport := do
  match ← waitForDelete source pace fuel resource with
  | .ok _ =>
    log [Notice.about .deletionConfirmed resource]
    return .ofDeleted (Resource.id resource)
  | .error error =>
    log [Notice.about (.deletionGivenUp error.message) resource]
    return .ofFailed (Resource.id resource) error.message

/-- **Waits for every resource in turn to be gone**, whatever became of the ones before. -/
def waitForDeletions (source : Source S R E) (pace : Pace) (fuel : Nat) :
    List R → Routine S (Event R E) CleanupReport
  | [] => return {}
  | resource :: rest => do
    let report ← waitForDeletion source pace fuel resource
    let others ← waitForDeletions source pace fuel rest
    return report.merge others

end Routine

end ResourceWait
