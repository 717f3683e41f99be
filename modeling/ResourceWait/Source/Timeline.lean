import ResourceWait.Record.Basic
import ResourceWait.Resource.Basic
import ResourceWait.Source.Basic

/-!
# Timelines

A source for rehearsing slow and unruly services. A timeline is a list of steps; every question takes
the next one, and the last one stays. A step says what is there in the form of a document, so the same
timeline serves every kind of resource, and a document that does not fit the kind asked for is an
error of the source. A step may also sleep for a while, and may cancel the token of the wait.

Instead of a whole representation a step may give only the fields that changed, to be put over those
of the handle it is asked with.
-/

namespace ResourceWait

/-- **What a step of a timeline shows.** -/
inductive Sight where
  /-- The resource is there and looks like this. -/
  | found (document : Node)
  /-- The resource is there and looks like the handle, but for these fields. -/
  | changed (fields : Node)
  /-- The resource is not there. -/
  | notFound
  /-- The source fails with these words. -/
  | error (message : String)
deriving Inhabited

/-- **A step of a timeline.** -/
structure TimelineStep where
  /-- What it shows. -/
  sight : Sight
  /-- How long it sleeps. -/
  delay : Duration := .zero
  /-- Whether it cancels the token of the wait. -/
  cancels : Bool := false
deriving Inhabited

/-- **A timeline**: the steps to come. -/
structure Timeline where
  /-- The steps, the next one first. -/
  steps : List TimelineStep := []
deriving Inhabited

namespace Node

/-- The fields of a table. -/
def fields : Node → List (Option String × Node)
  | table fields _ => fields
  | _ => []

/-- A table with the fields of another put over its own. -/
def overlaid (base update : Node) : Node := .table (base.fields ++ update.fields) true

end Node

namespace Timeline

/-- The next step, if there is any, and the timeline without it, unless it is the last. -/
def next : Timeline → Option TimelineStep × Timeline
  | ⟨[]⟩ => (none, ⟨[]⟩)
  | ⟨[step]⟩ => (some step, ⟨[step]⟩)
  | ⟨step :: rest⟩ => (some step, ⟨rest⟩)

variable {R : Type} [Record R]

/-- The error of a document that does not fit. -/
def malformed (error : ReadError) : FetchError :=
  ⟨"malformed representation: " ++ match error with
    | .data e => e.message .bounded
    | .malformed => "no document"⟩

/-- The resource that a document shows. -/
def observe (document : Node) : Except FetchError (Observation R) :=
  match Record.read .counted document.sorted with
  | .ok resource => .ok (.found resource)
  | .error e => .error (malformed e)

/-- What a step answers when asked with a handle. -/
def answer (handle : R) : Sight → Except FetchError (Observation R)
  | .found document => observe document
  | .changed fields => observe ((Record.write handle).overlaid fields)
  | .notFound => .ok .notFound
  | .error message => .error ⟨message⟩

/-- The reply of a step; where there is no step, nothing is there. -/
def reply (handle : R) : Option TimelineStep → Reply R FetchError
  | some step => ⟨answer handle step.sight, step.delay.slept, step.cancels⟩
  | none => { answer := .ok .notFound }

/-- **A timeline as a source**, the same for every handle. -/
def source : Source Timeline R FetchError where
  fetch handle _ timeline :=
    let (step, rest) := timeline.next
    (reply handle step, rest)

end Timeline

end ResourceWait
