import ResourceWait.Source.Timeline

/-!
# A cloud of timelines

Many resources, each with its own timeline, found by their addresses. Asking about one leaves the
timelines of the others as they are, and the kind of the resource does not matter for finding it.
-/

namespace ResourceWait

/-- **A cloud**: timelines by address. -/
structure Cloud where
  /-- The timelines. -/
  timelines : List (String × Timeline) := []
deriving Inhabited

namespace Cloud

/-- The timeline at an address; without one, nothing is there. -/
def timeline (cloud : Cloud) (address : String) : Timeline :=
  (cloud.timelines.lookup address).getD ⟨[]⟩

/-- Entries by address with one replaced, or put at the end. -/
def replace (address : String) (timeline : Timeline) :
    List (String × Timeline) → List (String × Timeline)
  | [] => [(address, timeline)]
  | (a, t) :: rest =>
    if a = address then (a, timeline) :: rest else (a, t) :: replace address timeline rest

/-- The cloud with a timeline at an address. -/
def script (cloud : Cloud) (address : String) (timeline : Timeline) : Cloud :=
  ⟨replace address timeline cloud.timelines⟩

/-- **A cloud as a source** of the resources of one kind. -/
def source {R : Type} [Record R] [Resource R] : Source Cloud R FetchError where
  fetch handle _ cloud :=
    let address := Resource.address handle
    let (step, rest) := (cloud.timeline address).next
    (Timeline.reply handle step, cloud.script address rest)

end Cloud

end ResourceWait
