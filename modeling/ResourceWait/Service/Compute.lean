import ResourceWait.Config.Basic
import ResourceWait.Resource.Compute
import ResourceWait.Wait.Cleanup

/-!
# Waiting on compute

Servers settle in `ACTIVE` and fail in `ERROR`, unless a configuration says otherwise. The waits of
the service are those of `ResourceWait.Wait.Poll` with its statuses and its pace. A server that is
gone has given back its ports, which is what its deletion is waited for.
-/

namespace ResourceWait

/-- **Compute**: the statuses and the pace of its waits. -/
structure Compute where
  /-- The statuses. -/
  defaults : StatusDefaults
  /-- The pace. -/
  pace : Pace
deriving DecidableEq, Repr

namespace Compute

/-- The service under a configuration. -/
def withConfig (config : PollConfig) : Compute := ⟨config.compute, config.pace⟩

/-- The service under the usual configuration. -/
def usual : Compute := withConfig {}

variable {S R E : Type}

/-- Waits for a server to be in the usual status. -/
def waitForServer (service : Compute) (source : Source S Server E) (fuel : Nat) (server : Server) :
    Routine S (Event Server E) (Except (WaitError Server E) Server) :=
  Routine.waitForStatus source service.defaults.status service.defaults.failures service.pace fuel
    server

/-- Waits for the deletion of a resource. -/
def waitForDelete [Resource R] (service : Compute) (source : Source S R E) (fuel : Nat)
    (resource : R) : Routine S (Event R E) (Except (WaitError R E) R) :=
  Routine.waitForDelete source service.pace fuel resource

/-- Waits for the deletion of a server within a budget. -/
def waitForServerDeleted (service : Compute) (source : Source S Server E)
    (timeout : Option Duration) (fuel : Nat) (server : Server) :
    Routine S (Event Server E) (Except (WaitError Server E) Server) :=
  Routine.waitForDelete source { service.pace with timeout } fuel server

/-- **Waits for servers to be gone**, one after the other. -/
def waitForServersDeleted [ToString E] (service : Compute) (source : Source S Server E)
    (fuel : Nat) (servers : List Server) : Routine S (Event Server E) CleanupReport :=
  Routine.waitForDeletions source service.pace fuel servers

end Compute

end ResourceWait
