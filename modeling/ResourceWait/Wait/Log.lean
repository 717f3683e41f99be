/-!
# The log of a wait

What a wait says while it goes on and when it ends. Every entry is about one resource, named by its
kind and id, and holds one notice; its text and its level follow from that.
-/

namespace ResourceWait

/-- How much an entry matters. -/
inductive Level where
  /-- Of interest to someone who looks into it. -/
  | debug
  /-- Good news. -/
  | info
  /-- Bad news. -/
  | warn
deriving DecidableEq, Repr

/-- The name of a level. -/
def Level.name : Level → String
  | .debug => "DEBUG"
  | .info => "INFO"
  | .warn => "WARN"

/-- **What is said about a resource.** -/
inductive Notice where
  /-- It is in a status that does not settle the wait for another. -/
  | awaiting (target status : String)
  /-- It is in the status waited for. -/
  | reached (status : String)
  /-- It is in a status of failure. -/
  | failed (status : String)
  /-- It is not there any more, though a status was waited for. -/
  | disappeared (target : String)
  /-- The budget for reaching a status is spent. -/
  | timedOut (target : String) (status : Option String)
  /-- It is still there, though its deletion is waited for. -/
  | awaitingDeletion
  /-- It is not there, as was waited for. -/
  | deleted
  /-- The budget for its deletion is spent. -/
  | deletionTimedOut
  /-- It was created and is ready. -/
  | created
  /-- A cleanup can go on without it. -/
  | deletionConfirmed
  /-- A cleanup goes on in spite of it. -/
  | deletionGivenUp (reason : String)
deriving DecidableEq, Repr

/-- **An entry of the log.** -/
structure LogEntry where
  /-- The kind of the resource. -/
  kind : String
  /-- The id of the resource. -/
  id : String
  /-- What is said about it. -/
  notice : Notice
deriving DecidableEq, Repr

/-- How much a notice matters: success is good news, failure bad. -/
def Notice.level : Notice → Level
  | .awaiting .. | .awaitingDeletion | .deletionConfirmed => .debug
  | .reached _ | .deleted | .created => .info
  | .failed _ | .disappeared _ | .timedOut .. | .deletionTimedOut | .deletionGivenUp _ => .warn

/-- A status as it is shown where it may not be known. -/
def statusText (status : Option String) : String := status.getD "unknown"

namespace LogEntry

/-- How much an entry matters. -/
def level (entry : LogEntry) : Level := entry.notice.level

/-- **The text of an entry.** -/
def text (entry : LogEntry) : String :=
  let name := entry.kind ++ " " ++ entry.id
  match entry.notice with
  | .awaiting target status =>
    "Still waiting for " ++ name ++ " to reach " ++ target ++ ", current status is " ++ status
  | .reached status => name ++ " reached status " ++ status
  | .failed status => name ++ " transitioned to failure status " ++ status
  | .disappeared target => name ++ " disappeared while waiting for " ++ target
  | .timedOut target status =>
    "Timeout waiting for " ++ name ++ " to reach " ++ target ++ ", last status "
      ++ statusText status
  | .awaitingDeletion => "Still waiting for " ++ name ++ " to be deleted"
  | .deleted => name ++ " deleted"
  | .deletionTimedOut => "Timeout waiting for " ++ name ++ " to be deleted"
  | .created => name ++ " created"
  | .deletionConfirmed => name ++ " confirmed deleted"
  | .deletionGivenUp reason => "Giving up on deletion of " ++ name ++ ": " ++ reason

/-- The line of an entry: its level and its text. -/
def line (entry : LogEntry) : String := entry.level.name ++ " " ++ entry.text

end LogEntry

end ResourceWait
