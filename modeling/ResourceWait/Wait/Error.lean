import ResourceWait.Duration
import ResourceWait.Wait.Log

/-!
# Waits without success

Every way in which a wait can end other than well. Except where the source itself failed, or where
there was nothing to wait for, the error carries the last representation of the resource, so that the
caller need not ask again.
-/

namespace ResourceWait

/-- **Why a wait did not succeed.** -/
inductive WaitError (R E : Type) where
  /-- The budget was spent first. -/
  | timeout (kind id target : String) (status : Option String) (budget : Duration) (resource : R)
  /-- The resource went into a status of failure. -/
  | failure (kind id status : String) (resource : R)
  /-- The resource has no status that could be waited for. -/
  | misuse (kind : String)
  /-- The resource is not there any more. -/
  | notFound (kind id target : String) (resource : R)
  /-- The token was cancelled. -/
  | cancelled (kind id : String) (resource : R)
  /-- The source failed. -/
  | fetch (error : E)
deriving DecidableEq, Repr

namespace WaitError

variable {R E : Type}

/-- The last representation of the resource, where there is one. -/
def resource? : WaitError R E → Option R
  | timeout _ _ _ _ _ resource => some resource
  | failure _ _ _ resource => some resource
  | notFound _ _ _ resource => some resource
  | cancelled _ _ resource => some resource
  | misuse _ => none
  | fetch _ => none

/-- Whether the budget was spent. -/
def isTimeout : WaitError R E → Bool
  | timeout .. => true
  | _ => false

/-- Whether the resource failed. -/
def isFailure : WaitError R E → Bool
  | failure .. => true
  | _ => false

/-- **The message of an error.** That of a source is passed on as it is. -/
def message [ToString E] : WaitError R E → String
  | timeout kind id target status budget _ =>
    "Timeout after " ++ budget.text ++ " waiting for " ++ kind ++ " " ++ id ++ " to reach "
      ++ target ++ " (last status: " ++ statusText status ++ ")"
  | failure kind id status _ =>
    kind ++ " " ++ id ++ " transitioned to failure status " ++ status
  | misuse kind => kind ++ " resources have no status field to wait on"
  | notFound kind id target _ =>
    kind ++ " " ++ id ++ " disappeared while waiting for status " ++ target
  | cancelled kind id _ => "Wait for " ++ kind ++ " " ++ id ++ " was cancelled"
  | fetch error => toString error

instance [ToString E] : ToString (WaitError R E) := ⟨message⟩

end WaitError

end ResourceWait
