import ResourceWait.Config.Basic
import ResourceWait.Resource.Storage
import ResourceWait.Wait.Cleanup

/-!
# Waiting on block storage

Volumes, snapshots and backups settle in `available` and fail in `error`, unless a configuration says
otherwise. The waits of the service are those of `ResourceWait.Wait.Poll` with its statuses and its
pace.

A resource whose creation was answered with a status of failure is refused at once. In a cleanup the
backups come before the snapshots, which cannot go while a backup of them is left.
-/

namespace ResourceWait

/-- **Block storage**: the statuses and the pace of its waits. -/
structure BlockStorage where
  /-- The statuses. -/
  defaults : StatusDefaults
  /-- The pace. -/
  pace : Pace
deriving DecidableEq, Repr

namespace BlockStorage

/-- The service under a configuration. -/
def withConfig (config : PollConfig) : BlockStorage := ⟨config.blockStorage, config.pace⟩

/-- The service under the usual configuration. -/
def usual : BlockStorage := withConfig {}

/-- The status of an attached volume. -/
def volumeInUse : String := "in-use"

/-- The status of a detached volume. -/
def volumeAvailable : String := "available"

/-- The pace of the service with another budget. -/
def paceWithin (service : BlockStorage) (timeout : Option Duration) : Pace :=
  { service.pace with timeout }

variable {S R E : Type} [Resource R]

/-- Waits for the usual status. -/
def waitForStatus (service : BlockStorage) (source : Source S R E) (fuel : Nat) (resource : R) :
    Routine S (Event R E) (Except (WaitError R E) R) :=
  Routine.waitForStatus source service.defaults.status service.defaults.failures service.pace fuel
    resource

/-- Waits for the deletion of a resource. -/
def waitForDelete (service : BlockStorage) (source : Source S R E) (fuel : Nat) (resource : R) :
    Routine S (Event R E) (Except (WaitError R E) R) :=
  Routine.waitForDelete source service.pace fuel resource

/-- The status of failure that a resource is in already, if it is in one. -/
def failedStatus? (service : BlockStorage) (resource : R) : Option String :=
  (Resource.status resource).filter fun status => Status.isAnyOf status service.defaults.failures

/-- **Waits for a fresh resource to be ready.** -/
def waitForCreated (service : BlockStorage) (source : Source S R E) (timeout : Option Duration)
    (fuel : Nat) (resource : R) : Routine S (Event R E) (Except (WaitError R E) R) := do
  match service.failedStatus? resource with
  | some status =>
    return .error (.failure (Resource.kind R) (Resource.id resource) status resource)
  | none =>
    let result ← Routine.waitForStatus source service.defaults.status service.defaults.failures
      (service.paceWithin timeout) fuel resource
    if let .ok created := result then
      Routine.log [Notice.about .created created]
    return result

/-- Waits for a volume to be attached. -/
def waitForAttached (service : BlockStorage) (source : Source S Volume E)
    (timeout : Option Duration) (fuel : Nat) (volume : Volume) :
    Routine S (Event Volume E) (Except (WaitError Volume E) Volume) :=
  Routine.waitForStatus source volumeInUse service.defaults.failures (service.paceWithin timeout)
    fuel volume

/-- Waits for a volume to be detached. -/
def waitForDetached (service : BlockStorage) (source : Source S Volume E)
    (timeout : Option Duration) (fuel : Nat) (volume : Volume) :
    Routine S (Event Volume E) (Except (WaitError Volume E) Volume) :=
  Routine.waitForStatus source volumeAvailable service.defaults.failures
    (service.paceWithin timeout) fuel volume

/-- **Waits for backups and then for snapshots to be gone.** -/
def waitForCleanup [ToString E] (service : BlockStorage) (backupSource : Source S Backup E)
    (snapshotSource : Source S Snapshot E) (fuel : Nat) (backups : List Backup)
    (snapshots : List Snapshot) : Routine S (Event (Backup ⊕ Snapshot) E) CleanupReport := do
  let first ← (Routine.waitForDeletions backupSource service.pace fuel backups).mapEvents
    (Event.map .inl)
  let second ← (Routine.waitForDeletions snapshotSource service.pace fuel snapshots).mapEvents
    (Event.map .inr)
  return first.merge second

end BlockStorage

end ResourceWait
