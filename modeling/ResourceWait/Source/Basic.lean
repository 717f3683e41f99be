import ResourceWait.Duration

/-!
# Sources

Where fresh representations of a resource come from. A source is asked with the last representation
at hand – it carries the id and whatever else it takes to find the resource – and answers that the
resource is there, that it is not, or that it could not tell.

A source has a state, which moves with every question, and an answer may take its time. It is a plain
function of its state, of the handle and of the moment at which it is asked, so whatever a remote
service can do, some source does.
-/

namespace ResourceWait

/-- **What a look at a resource showed.** -/
inductive Observation (R : Type) where
  /-- The resource is there and looks like this. -/
  | found (resource : R)
  /-- The resource is not there. -/
  | notFound
deriving DecidableEq, Repr

namespace Observation

variable {R : Type}

/-- A resource that is there, or is not. -/
def ofOption : Option R → Observation R
  | some resource => .found resource
  | none => .notFound

/-- The resource, if it is there. -/
def found? : Observation R → Option R
  | .found resource => some resource
  | .notFound => none

/-- Whether the resource is not there. -/
def isNotFound : Observation R → Bool
  | .found _ => false
  | .notFound => true

/-- What was made of an option gives it back. -/
@[simp] theorem found?_ofOption (o : Option R) : (ofOption o).found? = o := by
  cases o <;> rfl

end Observation

/-- **What a source replies.** -/
structure Reply (R E : Type) where
  /-- What it saw, or why it could not look. -/
  answer : Except E (Observation R)
  /-- How long that took. -/
  delay : Duration := .zero
  /-- Whether, just before it answered, the token of the wait was cancelled. -/
  cancels : Bool := false

/-- **A source** of resources with states in `S` and errors in `E`. -/
structure Source (S R E : Type) where
  /-- The reply to a handle at a moment, and the state that leaves behind. -/
  fetch : R → Instant → S → Reply R E × S

/-- **An error of a source**, in its own words. -/
structure FetchError where
  /-- The words. -/
  message : String
deriving DecidableEq, Repr

instance : ToString FetchError := ⟨FetchError.message⟩

end ResourceWait
