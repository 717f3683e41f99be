import ResourceWait.Resource.Basic
import ResourceWait.Source.Basic

/-!
# Scripts

A source for rehearsing: it answers with the steps of a script, one at a time and whatever it is
asked, and with the last step again and again once the script is at its end. It counts the questions
and keeps the ids that they were about.
-/

namespace ResourceWait

/-- **A step of a script.** -/
inductive ScriptStep (R : Type) where
  /-- The resource is there and looks like this. -/
  | found (resource : R)
  /-- The resource is not there. -/
  | notFound
  /-- The source fails with these words. -/
  | error (message : String)
deriving DecidableEq, Repr

/-- **A script**, and how far it has been played. -/
structure Script (R : Type) where
  /-- The steps. -/
  steps : Array (ScriptStep R) := #[]
  /-- How many questions were asked. -/
  count : Nat := 0
  /-- The ids that were asked about, in order. -/
  askedIds : Array String := #[]

namespace Script

variable {R : Type}

/-- A script without steps. -/
def empty : Script R := {}

/-- The script with one more step. -/
def thenStep (script : Script R) (step : ScriptStep R) : Script R :=
  { script with steps := script.steps.push step }

/-- The script that shows a resource next. -/
def thenFound (script : Script R) (resource : R) : Script R := script.thenStep (.found resource)

/-- The script that reports the resource as absent next. -/
def thenNotFound (script : Script R) : Script R := script.thenStep .notFound

/-- The script that fails next. -/
def thenError (script : Script R) (message : String) : Script R := script.thenStep (.error message)

/-- A script of given steps. -/
def ofSteps (steps : List (ScriptStep R)) : Script R := steps.foldl thenStep empty

/-- The step that the next question is answered with, if there is any step at all. -/
def current? (script : Script R) : Option (ScriptStep R) :=
  script.steps[script.count]? <|> script.steps.back?

variable [Resource R]

/-- The answer to a question about a resource. -/
def answer (script : Script R) (handle : R) : Except FetchError (Observation R) :=
  match script.current? with
  | some (.found resource) => .ok (.found resource)
  | some .notFound => .ok .notFound
  | some (.error message) => .error ⟨message⟩
  | none =>
    .error ⟨"no scripted outcome for " ++ Resource.kind R ++ " " ++ Resource.id handle⟩

/-- **A script as a source**; it answers at once. -/
def source : Source (Script R) R FetchError where
  fetch handle _ script :=
    ({ answer := script.answer handle },
      { script with count := script.count + 1, askedIds := script.askedIds.push (Resource.id handle) })

end Script

end ResourceWait
