import ResourceWait.Proofs.DeletionOutcome
import ResourceWait.Wait.Cleanup

/-!
# The account of a cleanup

A cleanup waits for one deletion after the other. Each of these waits is an `Attempt`: the resource,
the clock and the state of the source that it began with, and what it ended with. A cleanup that
returns is a chain of attempts, one for each resource and in their order, where each begins with the
clock and the state that the one before has left; `Attempt.Linked` says so, and its transcript is
that of the attempts with a closing line behind each.

The report is then read off the attempts. Every one has exactly one entry, under the id of the
resource that the caller gave, whatever a later representation is called. That an entry is right
comes from the outcome of a single wait: for a deletion only an absence is a success, so what was
answered last decides on which list the entry stands.
-/

namespace ResourceWait

variable {S R E : Type}

/-- **A source keeps ids**: what it shows of a resource has the id that was asked about. -/
def Source.KeepsIds [Resource R] (source : Source S R E) : Prop :=
  ∀ handle now s shown, (source.reply handle now s).answer = .ok (.found shown) →
    Resource.id shown = Resource.id handle

variable [Resource R]

/-- Every question of a wait is about the resource that it began with. -/
theorem Course.id_handle {source : Source S R E} {goal : Goal} {pace : Pace} {start : Instant}
    {fuel : Nat} {handle : R} {clock : Clock} {s : S} {run : WaitRun S R E}
    (course : Course source goal pace start fuel handle clock s run) (keeps : source.KeepsIds) :
    ∀ question ∈ questions run.events, Resource.id question.handle = Resource.id handle := by
  induction course with
  | unfollowed => simp
  | timedOut => simp
  | settled => simp [Source.question]
  | cancelled => simp [Source.question]
  | @again _ handle newer clock s _ _ _ verdict _ _ ih =>
    have hshown := keeps handle clock.now s newer (Goal.pending_of_verdict verdict).1
    rw [questions_behind]
    rintro question (_ | ⟨_, hmem⟩)
    · rfl
    · exact (ih question hmem).trans hshown

/-! ### Attempts -/

/-- **One deletion of a cleanup** that was waited for to an end. -/
structure Attempt (source : Source S R E) (pace : Pace) (fuel : Nat) where
  /-- The resource, as the caller gave it. -/
  resource : R
  /-- The clock when the wait began. -/
  clock : Clock
  /-- The state that the wait found the source in. -/
  state : S
  /-- What the wait ended with. -/
  result : Except (WaitError R E) R
  /-- The clock when it ended. -/
  later : Clock
  /-- The wait is one that ends so. -/
  ended : ((Routine.waitForDelete source pace fuel resource).execute clock state).result
    = some (result, later)

namespace Attempt

variable {source : Source S R E} {pace : Pace} {fuel : Nat}

/-- The wait itself. -/
def run (attempt : Attempt source pace fuel) : WaitRun S R E :=
  (Routine.waitForDelete source pace fuel attempt.resource).execute attempt.clock attempt.state

/-- Whether the resource is gone. -/
def succeeded (attempt : Attempt source pace fuel) : Bool := attempt.result.isOk

/-- The course of the wait. -/
theorem course (attempt : Attempt source pace fuel) :
    Course source .deletion pace attempt.clock.now fuel attempt.resource attempt.clock attempt.state
      attempt.run :=
  course_waitForDelete source pace fuel attempt.resource attempt.clock attempt.state

variable [ToString E]

/-- The entry of a resource that is not confirmed to be gone: its id and the reason. -/
def failure? (attempt : Attempt source pace fuel) : Option (String × String) :=
  match attempt.result with
  | .ok _ => none
  | .error error => some (Resource.id attempt.resource, error.message)

/-- The report of this deletion alone. -/
def report (attempt : Attempt source pace fuel) : CleanupReport :=
  match attempt.result with
  | .ok _ => .ofDeleted (Resource.id attempt.resource)
  | .error error => .ofFailed (Resource.id attempt.resource) error.message

/-- What the cleanup says about this deletion when it is over. -/
def closing (attempt : Attempt source pace fuel) : Notice :=
  match attempt.result with
  | .ok _ => .deletionConfirmed
  | .error error => .deletionGivenUp error.message

/-- The events of this deletion: those of the wait, and the closing line. -/
def events (attempt : Attempt source pace fuel) : List (Event R E) :=
  attempt.run.events ++ [.log (attempt.closing.about attempt.resource)]

/-- An attempt is what the cleanup does about its resource. -/
theorem execute_eq (attempt : Attempt source pace fuel) :
    (Routine.waitForDeletion source pace fuel attempt.resource).execute attempt.clock attempt.state
      = ⟨attempt.events, some (attempt.report, attempt.later), attempt.run.source⟩ := by
  obtain ⟨resource, clock, state, result, later, ended⟩ := attempt
  rw [Routine.waitForDeletion, Routine.execute_bind, ended]
  cases result with
  | ok last => simp [events, closing, report, run]
  | error error => simp [events, closing, report, run]

/-- The closing line asks nothing. -/
@[simp] theorem questions_events (attempt : Attempt source pace fuel) :
    questions attempt.events = questions attempt.run.events := by
  simp [events]

/-- Nor does it sleep. -/
@[simp] theorem pauses_events (attempt : Attempt source pace fuel) :
    pauses attempt.events = pauses attempt.run.events := by
  simp [events]

omit [ToString E] in
/-- **Attempts in a chain**, each from the clock and the state that the one before has left. -/
inductive Linked : Clock → S → List (Attempt source pace fuel) → Clock → S → Prop
  /-- Without an attempt nothing moves. -/
  | nil (clock : Clock) (s : S) : Linked clock s [] clock s
  /-- One attempt, and then the others from what it leaves. -/
  | cons (first : Attempt source pace fuel) {rest : List (Attempt source pace fuel)} {later : Clock}
      {last : S} (others : Linked first.later first.run.source rest later last) :
      Linked first.clock first.state (first :: rest) later last

/-- The report of a chain of attempts. -/
def reportOf (attempts : List (Attempt source pace fuel)) : CleanupReport :=
  attempts.foldr (fun attempt others => attempt.report.merge others) {}

/-- **A chain of attempts is a cleanup** of their resources. -/
theorem Linked.execute_eq {clock later : Clock} {s last : S}
    {attempts : List (Attempt source pace fuel)} (linked : Linked clock s attempts later last) :
    (Routine.waitForDeletions source pace fuel (attempts.map (·.resource))).execute clock s
      = ⟨attempts.flatMap events, some (reportOf attempts, later), last⟩ := by
  induction linked with
  | nil => rfl
  | cons first others ih =>
    rw [List.map_cons, Routine.waitForDeletions, Routine.execute_bind, first.execute_eq]
    dsimp only
    rw [Routine.execute_bind, ih]
    simp [reportOf]

/-- **A cleanup is a chain of attempts**, one for each resource – or, if it is not followed to its end,
one for each of the first, and then a wait that does not end. -/
theorem exists_linked_or_unended (source : Source S R E) (pace : Pace) (fuel : Nat)
    (resources : List R) (clock : Clock) (s : S) :
    (∃ (attempts : List (Attempt source pace fuel)) (later : Clock) (last : S),
        attempts.map (·.resource) = resources ∧ Linked clock s attempts later last)
      ∨ ∃ (attempts : List (Attempt source pace fuel)) (resource : R) (rest : List R)
          (between : Clock) (mid : S),
        attempts.map (·.resource) ++ resource :: rest = resources
          ∧ Linked clock s attempts between mid
          ∧ ((Routine.waitForDelete source pace fuel resource).execute between mid).result = none
          ∧ (Routine.waitForDeletions source pace fuel resources).execute clock s
            = ⟨attempts.flatMap events
                ++ ((Routine.waitForDelete source pace fuel resource).execute between mid).events,
              none, ((Routine.waitForDelete source pace fuel resource).execute between mid).source⟩ := by
  induction resources generalizing clock s with
  | nil => exact .inl ⟨[], _, _, rfl, .nil _ _⟩
  | cons resource rest ih =>
    cases hwait : ((Routine.waitForDelete source pace fuel resource).execute clock s).result with
    | none =>
      -- a wait that does not end leaves the cleanup without a report
      refine .inr ⟨[], resource, rest, clock, s, rfl, .nil clock s, hwait, ?_⟩
      rw [Routine.waitForDeletions, Routine.execute_bind, Routine.waitForDeletion,
        Routine.execute_bind, hwait]
      rfl
    | some ended =>
      let first : Attempt source pace fuel := ⟨resource, clock, s, ended.1, ended.2, hwait⟩
      obtain ⟨attempts, later, last, hresources, linked⟩
        | ⟨attempts, other, others, between, mid, hresources, linked, hother, hrun⟩ :=
          ih first.later first.run.source
      · exact .inl ⟨first :: attempts, later, last, congrArg (List.cons resource) hresources,
          .cons first linked⟩
      · refine .inr ⟨first :: attempts, other, others, between, mid,
          congrArg (List.cons resource) hresources, .cons first linked, hother, ?_⟩
        rw [Routine.waitForDeletions, Routine.execute_bind,
          show (Routine.waitForDeletion source pace fuel resource).execute clock s = _ from
            first.execute_eq]
        dsimp only
        rw [Routine.execute_bind, hrun]
        simp

/-- **A cleanup that returns is a chain of attempts**, one for each resource. -/
theorem exists_linked {resources : List R} {clock later : Clock} {s : S} {report : CleanupReport}
    (hresult : ((Routine.waitForDeletions source pace fuel resources).execute clock s).result
      = some (report, later)) :
    ∃ (attempts : List (Attempt source pace fuel)) (last : S),
      attempts.map (·.resource) = resources ∧ Linked clock s attempts later last := by
  obtain ⟨attempts, finish, last, rfl, linked⟩ | ⟨_, _, _, _, _, -, -, -, hrun⟩ :=
    exists_linked_or_unended source pace fuel resources clock s
  · rw [linked.execute_eq] at hresult
    obtain ⟨-, rfl⟩ : _ ∧ finish = later := by simpa using hresult
    exact ⟨attempts, last, rfl, linked⟩
  · rw [hrun] at hresult
    cases hresult

/-! ### Reading the report -/

/-- The ids of the report of a chain are those of the attempts that succeeded. -/
theorem deleted_reportOf (attempts : List (Attempt source pace fuel)) :
    (reportOf attempts).deleted
      = (attempts.filter (·.succeeded)).map fun attempt => Resource.id attempt.resource := by
  induction attempts with
  | nil => rfl
  | cons first rest ih =>
    show first.report.deleted ++ (reportOf rest).deleted = _
    rw [ih]
    obtain ⟨resource, clock, state, _ | _, later, ended⟩ := first <;> rfl

/-- The failures of the report of a chain are those of the other attempts. -/
theorem failed_reportOf (attempts : List (Attempt source pace fuel)) :
    (reportOf attempts).failed = attempts.filterMap failure? := by
  induction attempts with
  | nil => rfl
  | cons first rest ih =>
    show first.report.failed ++ (reportOf rest).failed = _
    rw [ih]
    obtain ⟨resource, clock, state, _ | _, later, ended⟩ := first <;> rfl

/-- Every attempt has one entry. -/
theorem length_reportOf (attempts : List (Attempt source pace fuel)) :
    (reportOf attempts).deleted.length + (reportOf attempts).failed.length = attempts.length := by
  induction attempts with
  | nil => rfl
  | cons first rest ih =>
    have hfirst : first.report.deleted.length + first.report.failed.length = 1 := by
      obtain ⟨resource, clock, state, _ | _, later, ended⟩ := first <;> rfl
    show (first.report.deleted ++ (reportOf rest).deleted).length
      + (first.report.failed ++ (reportOf rest).failed).length = _
    rw [List.length_append, List.length_append, List.length_cons]
    omega

/-- A cleanup is complete where every attempt succeeded, and then its report lists all ids. -/
theorem isComplete_reportOf_iff (attempts : List (Attempt source pace fuel)) :
    (reportOf attempts).isComplete = true
      ↔ (reportOf attempts).deleted = attempts.map fun attempt => Resource.id attempt.resource := by
  have hlength := length_reportOf attempts
  rw [CleanupReport.isComplete, List.isEmpty_iff]
  constructor
  · intro hnone
    rw [hnone, List.length_nil, Nat.add_zero, deleted_reportOf, List.length_map] at hlength
    rw [deleted_reportOf, List.filter_eq_self.mpr (List.length_filter_eq_length_iff.mp hlength)]
  · intro hall
    rw [hall, List.length_map] at hlength
    exact List.eq_nil_of_length_eq_zero (by omega)

omit [ToString E] in
/-- The last question of an attempt is about its resource, and concludes it. -/
theorem concluded (attempt : Attempt source pace fuel) (keeps : source.KeepsIds) :
    ∃ last, (questions attempt.run.events).getLast? = some last
      ∧ Resource.id last.handle = Resource.id attempt.resource
      ∧ Goal.DeletionConcludes pace last attempt.result attempt.later := by
  obtain ⟨last, hlast, hconcludes⟩ := concludes_waitForDelete attempt.ended
  have hid := attempt.course.id_handle keeps last (List.mem_of_getLast? hlast)
  exact ⟨last, hlast, hid, hconcludes⟩

omit [ToString E] in
/-- **A deletion is confirmed by an absence**: an attempt succeeds exactly if its last question was
about its resource and showed nothing there. -/
theorem succeeded_iff (attempt : Attempt source pace fuel) (keeps : source.KeepsIds) :
    attempt.succeeded = true ↔ ∃ last, (questions attempt.run.events).getLast? = some last
      ∧ Resource.id last.handle = Resource.id attempt.resource ∧ last.answer = .ok .notFound := by
  obtain ⟨last, hlast, hid, hconcludes⟩ := attempt.concluded keeps
  unfold Goal.DeletionConcludes at hconcludes
  constructor
  · intro hok
    refine ⟨last, hlast, hid, ?_⟩
    match hanswer : last.answer with
    | .ok .notFound => rfl
    | .error e =>
      rw [hanswer] at hconcludes
      rw [succeeded, hconcludes] at hok
      cases hok
    | .ok (.found newest) =>
      rw [hanswer] at hconcludes
      obtain ⟨error, herror, -⟩ := Goal.GivenUp.error hconcludes
      rw [succeeded, herror] at hok
      cases hok
  · rintro ⟨other, hother, -, hanswer⟩
    obtain rfl : last = other := Option.some.inj (hlast.symm.trans hother)
    rw [hanswer] at hconcludes
    rw [succeeded, hconcludes]
    rfl

/-- **Why a deletion is not confirmed**: the budget was spent, the token was cancelled, or the source
failed. The entry says which in the words of the error. -/
theorem failure?_of_not_succeeded (attempt : Attempt source pace fuel)
    (h : attempt.succeeded = false) :
    ∃ error, attempt.result = .error error
      ∧ (error.isTimeout = true ∨ (∃ newest, error = .ofCancelled newest) ∨ ∃ e, error = .fetch e)
      ∧ attempt.failure? = some (Resource.id attempt.resource, error.message) := by
  obtain ⟨last, -, hconcludes⟩ := concludes_waitForDelete attempt.ended
  have entry : ∀ error, attempt.result = .error error →
      attempt.failure? = some (Resource.id attempt.resource, error.message) := by
    intro error herror
    rw [failure?, herror]
  unfold Goal.DeletionConcludes at hconcludes
  match hanswer : last.answer with
  | .ok .notFound =>
    rw [hanswer] at hconcludes
    rw [succeeded, hconcludes] at h
    cases h
  | .error e =>
    rw [hanswer] at hconcludes
    exact ⟨_, hconcludes, .inr (.inr ⟨e, rfl⟩), entry _ hconcludes⟩
  | .ok (.found newest) =>
    rw [hanswer] at hconcludes
    obtain ⟨error, herror, htimeout | ⟨hcancelled, -⟩⟩ := Goal.GivenUp.error hconcludes
    · exact ⟨error, herror, .inl htimeout, entry error herror⟩
    · exact ⟨error, herror, .inr (.inl ⟨newest, hcancelled⟩), entry error herror⟩

end Attempt

/-! ### The account -/

/-- **A report accounts for attempts**: each has exactly one entry, in their order, and that entry is
right. -/
structure CleanupReport.AccountsFor [ToString E] {source : Source S R E} {pace : Pace} {fuel : Nat}
    (report : CleanupReport) (attempts : List (Attempt source pace fuel)) : Prop where
  /-- What is listed as gone are the attempts that succeeded, in order. -/
  deleted_eq : report.deleted
    = (attempts.filter (·.succeeded)).map fun attempt => Resource.id attempt.resource
  /-- What is listed as failed are the others, in order. -/
  failed_eq : report.failed = attempts.filterMap Attempt.failure?
  /-- There are as many entries as attempts. -/
  length_eq : report.deleted.length + report.failed.length = attempts.length
  /-- The report is complete exactly if it lists all ids as gone. -/
  isComplete_iff : report.isComplete = true
    ↔ report.deleted = attempts.map fun attempt => Resource.id attempt.resource
  /-- An attempt succeeded exactly if its last question, about this very id, was answered with an
  absence. -/
  succeeded_iff : ∀ attempt ∈ attempts, attempt.succeeded = true ↔
    ∃ last, (questions attempt.run.events).getLast? = some last
      ∧ Resource.id last.handle = Resource.id attempt.resource ∧ last.answer = .ok .notFound
  /-- Any other attempt has the message of its error for an entry: of a spent budget, a cancelled
  token or a failure of the source. -/
  reason : ∀ attempt ∈ attempts, attempt.succeeded = false →
    ∃ error, attempt.result = .error error
      ∧ (error.isTimeout = true ∨ (∃ newest, error = .ofCancelled newest) ∨ ∃ e, error = .fetch e)
      ∧ attempt.failure? = some (Resource.id attempt.resource, error.message)

/-- The report of a chain of attempts accounts for them. -/
theorem Attempt.accountsFor_reportOf [ToString E] {source : Source S R E} (keeps : source.KeepsIds)
    {pace : Pace} {fuel : Nat} (attempts : List (Attempt source pace fuel)) :
    (reportOf attempts).AccountsFor attempts where
  deleted_eq := deleted_reportOf attempts
  failed_eq := failed_reportOf attempts
  length_eq := length_reportOf attempts
  isComplete_iff := isComplete_reportOf_iff attempts
  succeeded_iff attempt _ := attempt.succeeded_iff keeps
  reason attempt _ := attempt.failure?_of_not_succeeded

open Routine in
/-- **The report of a cleanup accounts for it.** A cleanup that returns has waited for each resource
once, in order and whatever became of the ones before, and its report accounts for these waits. -/
theorem waitForDeletions_accounted [ToString E] (source : Source S R E) (keeps : source.KeepsIds)
    (pace : Pace) (fuel : Nat) (resources : List R) (clock : Clock) (s : S) {report : CleanupReport}
    {later : Clock} (hresult : ((waitForDeletions source pace fuel resources).execute clock s).result
      = some (report, later)) :
    ∃ attempts : List (Attempt source pace fuel),
      attempts.map (·.resource) = resources
      ∧ Attempt.Linked clock s attempts later
        ((waitForDeletions source pace fuel resources).execute clock s).source
      ∧ ((waitForDeletions source pace fuel resources).execute clock s).events
        = attempts.flatMap Attempt.events
      ∧ report.AccountsFor attempts := by
  obtain ⟨attempts, last, rfl, linked⟩ := Attempt.exists_linked hresult
  rw [linked.execute_eq] at hresult ⊢
  obtain rfl : Attempt.reportOf attempts = report := by simpa using hresult
  exact ⟨attempts, rfl, linked, rfl, Attempt.accountsFor_reportOf keeps attempts⟩

open Routine in
/-- A cleanup in which one id comes twice and the deletion in between is forbidden: the first wait
takes two questions, and the last is made all the same. -/
theorem waitForDeletions_accounted_repeated :
    let source : Source Nat Probe FetchError := ⟨fun handle _ asked => (match asked with
      | 0 => { answer := .ok (.found handle) }
      | 2 => { answer := .error ⟨"forbidden"⟩ }
      | _ => { answer := .ok .notFound }, asked + 1)⟩
    let resources : List Probe := [⟨"p", some "deleting"⟩, ⟨"q", none⟩, ⟨"p", none⟩]
    ∃ attempts : List (Attempt source {} 2), attempts.map (·.resource) = resources
      ∧ CleanupReport.AccountsFor ⟨["p", "p"], [("q", "forbidden")]⟩ attempts := by
  intro source resources
  have keeps : source.KeepsIds := by
    intro handle now asked shown hshown
    match asked with
    | 0 =>
      cases hshown
      rfl
    | 1 => cases hshown
    | 2 => cases hshown
    | _ + 3 => cases hshown
  have hresult : ((waitForDeletions source {} 2 resources).execute ⟨0, none⟩ 0).result
      = some (⟨["p", "p"], [("q", "forbidden")]⟩, ⟨2000000000, none⟩) := by decide
  obtain ⟨attempts, hresources, -, -, accounts⟩ :=
    waitForDeletions_accounted source keeps {} 2 resources ⟨0, none⟩ 0 hresult
  exact ⟨attempts, hresources, accounts⟩

end ResourceWait
