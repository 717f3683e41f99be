import Mathlib.Data.List.Basic
import ResourceWait.Proofs.Account
import ResourceWait.Proofs.PauseCount

/-!
# The log of a cleanup

A cleanup says of every resource what its wait says, and then one thing more: that the deletion is
confirmed, or that it is given up and why. So the log of a cleanup tells all that its report does.

`CleanupReport.ofLines` reads the report off the bare text of the log. It has to know the ids of the
resources, since a line that gives one up does not show where the id ends and the reason begins; what
became of them it takes from the lines. That no line of a wait is mistaken for one of the cleanup is a
matter of their words, whatever the kind and the ids are (`LogEntry.line_ne_confirmed`,
`LogEntry.isPrefixOf?_givenUp`).
-/

namespace ResourceWait

/-! ### The words of the lines -/

/-- **A notice of a wait for a deletion.** -/
def Notice.IsOfDeletion : Notice → Prop
  | .awaitingDeletion | .deleted | .deletionTimedOut => True
  | _ => False

/-- Texts with different ends of the same length differ. -/
theorem append_ne_append_of_length_eq {front front' ending ending' : String}
    (hlength : ending.toList.length = ending'.toList.length) (h : ending ≠ ending') :
    front ++ ending ≠ front' ++ ending' := by
  intro heq
  have hchars := congrArg String.toList heq
  rw [String.toList_append, String.toList_append] at hchars
  exact h (String.toList_inj.mp (List.append_inj_right' hchars hlength))

namespace LogEntry

/-- The id of a resource that is confirmed to be gone. -/
def confirmed? (entry : LogEntry) : Option String :=
  match entry.notice with
  | .deletionConfirmed => some entry.id
  | _ => none

/-- The id of a resource that is given up, and the reason. -/
def givenUp? (entry : LogEntry) : Option (String × String) :=
  match entry.notice with
  | .deletionGivenUp reason => some (entry.id, reason)
  | _ => none

/-- A line of a wait confirms nothing. -/
theorem confirmed?_eq_none {entry : LogEntry} (h : entry.notice.IsOfDeletion) :
    entry.confirmed? = none := by
  obtain ⟨_, _, notice⟩ := entry
  cases notice with
  | deletionConfirmed => exact h.elim
  | _ => rfl

/-- A line of a wait gives nothing up. -/
theorem givenUp?_eq_none {entry : LogEntry} (h : entry.notice.IsOfDeletion) :
    entry.givenUp? = none := by
  obtain ⟨_, _, notice⟩ := entry
  cases notice with
  | deletionGivenUp reason => exact h.elim
  | _ => rfl

/-- A line that gives a resource up ends with the reason. -/
theorem line_givenUp (kind id reason : String) :
    (⟨kind, id, .deletionGivenUp reason⟩ : LogEntry).line
      = (⟨kind, id, .deletionGivenUp ""⟩ : LogEntry).line ++ reason := by
  simp [line, text, level, Notice.level, String.append_assoc]

/-- The text of a line of a wait is not that of one that confirms a deletion. -/
theorem line_ne_confirmed {entry : LogEntry} (h : entry.notice.IsOfDeletion) (kind id : String) :
    entry.line ≠ (⟨kind, id, .deletionConfirmed⟩ : LogEntry).line := by
  obtain ⟨kind', id', notice⟩ := entry
  cases notice with
  | awaitingDeletion =>
    -- both are of level `debug`, and a kind may have any name, so only the ends tell them apart
    have hopening : (⟨kind', id', .awaitingDeletion⟩ : LogEntry).line
        = "DEBUG Still waiting for " ++ (kind' ++ " " ++ id') ++ " to be deleted" := by
      simp [line, text, level, Notice.level, Level.name, ← String.append_assoc]
    have hclosing : (⟨kind, id, .deletionConfirmed⟩ : LogEntry).line
        = "DEBUG " ++ (kind ++ " " ++ id) ++ " con" ++ "firmed deleted" := by
      simp [line, text, level, Notice.level, Level.name, String.append_assoc]
    rw [hopening, hclosing]
    exact append_ne_append_of_length_eq (by simp) (by simp)
  | deleted | deletionTimedOut =>
    intro heq
    have hchars := congrArg String.toList heq
    simp [line, text, level, Notice.level, Level.name, String.toList_append] at hchars
  | _ => exact h.elim

/-- Nor does it begin like one that gives a resource up. -/
theorem isPrefixOf?_givenUp {entry : LogEntry} (h : entry.notice.IsOfDeletion) (kind id : String) :
    (⟨kind, id, .deletionGivenUp ""⟩ : LogEntry).line.toList.isPrefixOf? entry.line.toList
      = none := by
  obtain ⟨kind', id', notice⟩ := entry
  cases notice with
  | awaitingDeletion | deleted | deletionTimedOut =>
    simp [line, text, level, Notice.level, Level.name, String.toList_append, List.isPrefixOf?]
  | _ => exact h.elim

/-- The line of a resource that is given up does not confirm that it is gone. -/
theorem line_givenUp_ne_confirmed (kind id kind' id' reason : String) :
    (⟨kind, id, .deletionGivenUp reason⟩ : LogEntry).line
      ≠ (⟨kind', id', .deletionConfirmed⟩ : LogEntry).line := by
  intro heq
  have hchars := congrArg String.toList heq
  simp [line, text, level, Notice.level, Level.name, String.toList_append] at hchars

end LogEntry

namespace CleanupReport

/-- **The report that lines tell of**, to someone who knows the kind of the resources and their ids.
Each id is looked for in the lines behind the one that settled the id before. -/
def ofLines (kind : String) : (ids lines : List String) → CleanupReport
  | id :: ids, line :: lines =>
    if line = (⟨kind, id, .deletionConfirmed⟩ : LogEntry).line then
      (ofDeleted id).merge (ofLines kind ids lines)
    else
      match (⟨kind, id, .deletionGivenUp ""⟩ : LogEntry).line.toList.isPrefixOf? line.toList with
      | some reason => (ofFailed id (String.ofList reason)).merge (ofLines kind ids lines)
      | none => ofLines kind (id :: ids) lines
  | _, _ => {}

/-- A line that confirms a deletion settles the id. -/
theorem ofLines_confirmed (kind id : String) (ids lines : List String) :
    ofLines kind (id :: ids) ((⟨kind, id, .deletionConfirmed⟩ : LogEntry).line :: lines)
      = (ofDeleted id).merge (ofLines kind ids lines) := by
  rw [ofLines, if_pos rfl]

/-- So does one that gives it up. -/
theorem ofLines_givenUp (kind id reason : String) (ids lines : List String) :
    ofLines kind (id :: ids) ((⟨kind, id, .deletionGivenUp reason⟩ : LogEntry).line :: lines)
      = (ofFailed id reason).merge (ofLines kind ids lines) := by
  have hreason : (⟨kind, id, .deletionGivenUp ""⟩ : LogEntry).line.toList.isPrefixOf?
      (⟨kind, id, .deletionGivenUp reason⟩ : LogEntry).line.toList = some reason.toList := by
    rw [List.isPrefixOf?_eq_some_iff_append_eq, ← String.toList_append, ← LogEntry.line_givenUp]
  rw [ofLines, if_neg (LogEntry.line_givenUp_ne_confirmed _ _ _ _ _), hreason]
  dsimp only
  rw [String.ofList_toList]

/-- The lines of a wait settle nothing. -/
theorem ofLines_wait (kind id : String) (ids lines : List String) {entries : List LogEntry}
    (h : ∀ entry ∈ entries, entry.notice.IsOfDeletion) :
    ofLines kind (id :: ids) (entries.map LogEntry.line ++ lines)
      = ofLines kind (id :: ids) lines := by
  induction entries with
  | nil => rfl
  | cons entry rest ih =>
    obtain ⟨hentry, hrest⟩ := List.forall_mem_cons.mp h
    rw [List.map_cons, List.cons_append, ofLines, if_neg (LogEntry.line_ne_confirmed hentry kind id),
      LogEntry.isPrefixOf?_givenUp hentry]
    exact ih hrest

end CleanupReport

variable {S R E : Type} [Resource R]

/-! ### The lines of an attempt -/

namespace Attempt

variable {source : Source S R E} {pace : Pace} {fuel : Nat}

/-- The lines of its wait tell of an attempt. -/
theorem isToldBy (attempt : Attempt source pace fuel) :
    Goal.deletion.IsToldBy (questions attempt.run.events) attempt.result
      (logged attempt.run.events) :=
  isToldBy_waitForDelete attempt.ended

/-- A wait for a deletion speaks of nothing else. -/
theorem isOfDeletion_of_mem (attempt : Attempt source pace fuel) :
    ∀ entry ∈ logged attempt.run.events, entry.notice.IsOfDeletion := by
  intro entry hmem
  have hended : attempt.run.result = some (attempt.result, attempt.later) := attempt.ended
  rw [attempt.course.logged_eq, hended, Option.bind_some] at hmem
  obtain hopening | hclosing := List.mem_append.mp hmem
  · obtain ⟨_, -, rfl⟩ := List.mem_map.mp hopening
    trivial
  · rw [Option.mem_toList] at hclosing
    obtain ⟨last, -, hconcludes⟩ := concludes_waitForDelete attempt.ended
    cases hresult : attempt.result with
    | ok reached =>
      rw [hresult] at hclosing
      cases hclosing
      trivial
    | error error =>
      rw [hresult] at hclosing hconcludes
      have notAboutStatus := hconcludes.notAboutStatus
      cases error with
      | timeout =>
        cases hclosing
        trivial
      | failure | misuse | notFound => exact notAboutStatus.elim
      | cancelled | fetch => cases hclosing

variable [ToString E]

/-- **The lines of an attempt**: those of its wait, and what the cleanup says when it is over. -/
def lines (attempt : Attempt source pace fuel) : List LogEntry :=
  logged attempt.run.events ++ [attempt.closing.about attempt.resource]

/-- The log of attempts in a row is their lines. -/
theorem logged_flatMap_events (attempts : List (Attempt source pace fuel)) :
    logged (attempts.flatMap events) = attempts.flatMap lines := by
  induction attempts with
  | nil => rfl
  | cons first rest ih =>
    rw [List.flatMap_cons, List.flatMap_cons, logged_append, ih]
    simp [events, lines]

/-- What is confirmed on the lines of an attempt is what its report has as gone. -/
theorem filterMap_confirmed?_lines (attempt : Attempt source pace fuel) :
    attempt.lines.filterMap LogEntry.confirmed? = attempt.report.deleted := by
  have hwait : (logged attempt.run.events).filterMap LogEntry.confirmed? = [] :=
    List.filterMap_eq_nil_iff.mpr fun entry hmem =>
      LogEntry.confirmed?_eq_none (attempt.isOfDeletion_of_mem entry hmem)
  rw [lines, List.filterMap_append, hwait, List.nil_append]
  unfold closing report
  cases attempt.result with
  | ok _ => rfl
  | error _ => rfl

/-- What is given up on the lines of an attempt is what its report has as failed. -/
theorem filterMap_givenUp?_lines (attempt : Attempt source pace fuel) :
    attempt.lines.filterMap LogEntry.givenUp? = attempt.report.failed := by
  have hwait : (logged attempt.run.events).filterMap LogEntry.givenUp? = [] :=
    List.filterMap_eq_nil_iff.mpr fun entry hmem =>
      LogEntry.givenUp?_eq_none (attempt.isOfDeletion_of_mem entry hmem)
  rw [lines, List.filterMap_append, hwait, List.nil_append]
  unfold closing report
  cases attempt.result with
  | ok _ => rfl
  | error _ => rfl

/-- The text of its lines settles the id of an attempt as its report does. -/
theorem ofLines_append (attempt : Attempt source pace fuel) (ids rest : List String) :
    CleanupReport.ofLines (Resource.kind R) (Resource.id attempt.resource :: ids)
        (attempt.lines.map LogEntry.line ++ rest)
      = attempt.report.merge (CleanupReport.ofLines (Resource.kind R) ids rest) := by
  rw [lines, List.map_append, List.append_assoc,
    CleanupReport.ofLines_wait _ _ _ _ attempt.isOfDeletion_of_mem]
  unfold closing report
  cases attempt.result with
  | ok _ => exact CleanupReport.ofLines_confirmed _ _ ids rest
  | error error => exact CleanupReport.ofLines_givenUp _ _ error.message ids rest

/-- The ids that are confirmed on the lines of attempts are those that their report has as gone. -/
theorem filterMap_confirmed?_flatMap (attempts : List (Attempt source pace fuel)) :
    (attempts.flatMap lines).filterMap LogEntry.confirmed? = (reportOf attempts).deleted := by
  induction attempts with
  | nil => rfl
  | cons first rest ih =>
    rw [List.flatMap_cons, List.filterMap_append, ih, first.filterMap_confirmed?_lines]
    rfl

/-- The ids that are given up on the lines of attempts are those that their report has as failed, with
the same reasons. -/
theorem filterMap_givenUp?_flatMap (attempts : List (Attempt source pace fuel)) :
    (attempts.flatMap lines).filterMap LogEntry.givenUp? = (reportOf attempts).failed := by
  induction attempts with
  | nil => rfl
  | cons first rest ih =>
    rw [List.flatMap_cons, List.filterMap_append, ih, first.filterMap_givenUp?_lines]
    rfl

/-- **The text of the lines of attempts tells of their report.** -/
theorem ofLines_flatMap (attempts : List (Attempt source pace fuel)) :
    CleanupReport.ofLines (Resource.kind R)
        (attempts.map fun attempt => Resource.id attempt.resource)
        ((attempts.flatMap lines).map LogEntry.line)
      = reportOf attempts := by
  induction attempts with
  | nil => rfl
  | cons first rest ih =>
    rw [List.map_cons, List.flatMap_cons, List.map_append, first.ofLines_append, ih]
    rfl

/-- A probe that is there once more before it is gone, and one whose deletion is forbidden. -/
example : CleanupReport.ofLines "probe" ["p", "q"]
    ["DEBUG Still waiting for probe p to be deleted", "INFO probe p deleted",
      "DEBUG probe p confirmed deleted", "WARN Giving up on deletion of probe q: forbidden"]
    = ⟨["p"], [("q", "forbidden")]⟩ := by decide

end Attempt

/-! ### What can be told from the log of a cleanup -/

/-- **A log tells of a cleanup**: what became of each resource, and why. -/
structure CleanupReport.IsToldBy [ToString E] {source : Source S R E} {pace : Pace} {fuel : Nat}
    (report : CleanupReport) (attempts : List (Attempt source pace fuel)) (log : List LogEntry) :
    Prop where
  /-- Each resource has the lines of its wait and then one line more. -/
  log_eq : log = attempts.flatMap fun attempt =>
    logged attempt.run.events ++ [attempt.closing.about attempt.resource]
  /-- The lines of each wait tell of it. -/
  waits : ∀ attempt ∈ attempts, Goal.deletion.IsToldBy (questions attempt.run.events) attempt.result
    (logged attempt.run.events)
  /-- A resource that is gone is listed as such, and confirmed under its id. -/
  confirmed : ∀ attempt ∈ attempts, ∀ last, attempt.result = .ok last →
    Resource.id attempt.resource ∈ report.deleted
      ∧ (attempt.closing.about attempt.resource).level = .debug
      ∧ (attempt.closing.about attempt.resource).text
        = Resource.kind R ++ " " ++ Resource.id attempt.resource ++ " confirmed deleted"
  /-- Any other is listed as failed, and warned of under its id and with the reason. -/
  givenUp : ∀ attempt ∈ attempts, ∀ error, attempt.result = .error error →
    (Resource.id attempt.resource, error.message) ∈ report.failed
      ∧ (attempt.closing.about attempt.resource).level = .warn
      ∧ (attempt.closing.about attempt.resource).text = "Giving up on deletion of "
        ++ (Resource.kind R ++ " " ++ Resource.id attempt.resource) ++ ": " ++ error.message
  /-- What is listed as gone is what the lines confirm, in order. -/
  deleted_eq : report.deleted = log.filterMap LogEntry.confirmed?
  /-- What is listed as failed is what the lines give up, in order. -/
  failed_eq : report.failed = log.filterMap LogEntry.givenUp?
  /-- The bare text of the lines is enough for that. -/
  eq_ofLines : report = CleanupReport.ofLines (Resource.kind R)
    (attempts.map fun attempt => Resource.id attempt.resource) (log.map LogEntry.line)

/-- The lines of attempts tell of their report. -/
theorem Attempt.reportOf_isToldBy [ToString E] {source : Source S R E} {pace : Pace} {fuel : Nat}
    (attempts : List (Attempt source pace fuel)) :
    (reportOf attempts).IsToldBy attempts (attempts.flatMap lines) where
  log_eq := rfl
  waits attempt _ := attempt.isToldBy
  confirmed attempt hmem last hresult := by
    have hclosing : attempt.closing = .deletionConfirmed := by rw [closing, hresult]
    refine ⟨?_, by rw [hclosing]; rfl, by rw [hclosing]; rfl⟩
    rw [deleted_reportOf]
    refine List.mem_map.mpr ⟨attempt, List.mem_filter.mpr ⟨hmem, ?_⟩, rfl⟩
    rw [succeeded, hresult]
    rfl
  givenUp attempt hmem error hresult := by
    have hclosing : attempt.closing = .deletionGivenUp error.message := by rw [closing, hresult]
    refine ⟨?_, by rw [hclosing]; rfl, by rw [hclosing]; rfl⟩
    rw [failed_reportOf]
    refine List.mem_filterMap.mpr ⟨attempt, hmem, ?_⟩
    rw [failure?, hresult]
  deleted_eq := (filterMap_confirmed?_flatMap attempts).symm
  failed_eq := (filterMap_givenUp?_flatMap attempts).symm
  eq_ofLines := (ofLines_flatMap attempts).symm

open Routine in
/-- **Logs are faithful.** A wait that returns has said one thing about every answer that left it open,
in the order of the answers, and has come to its pause as often as that; at most one line follows, good
news exactly if an answer brought success, and bad news exactly if the error is one that is warned of. A
resource that is in the status already is returned without a word. A cleanup that returns has said of
every resource what its wait said, and then one line more, so that its report can be read off its log. -/
theorem waits_logFaithfully [ToString E] (source : Source S R E) (pace : Pace) (fuel : Nat)
    (clock : Clock) (s : S) :
    (∀ target failures resource result later,
      let goal := Goal.status target failures
      let run := (waitForStatus source target failures pace fuel resource).execute clock s
      run.result = some (result, later) →
        source.Answers s (questions run.events) run.source
        ∧ goal.IsToldBy (questions run.events) result (logged run.events)
        ∧ ((∃ status, Resource.status resource = some status ∧ Status.agree status target = true) →
          logged run.events = [])
        ∧ waitForStatusWith (pause pace.interval : Routine S (Event R E) Bool) source target failures
            pace fuel resource = waitForStatus source target failures pace fuel resource
        ∧ ((waitForStatusWith (countedPause pace.interval) source target failures pace fuel
            resource).run 0).execute clock s
          = ⟨run.events, some ((result, (goal.leftOpen (questions run.events)).length), later),
              run.source⟩)
    ∧ (∀ resource result later,
      let run := (waitForDelete source pace fuel resource).execute clock s
      run.result = some (result, later) →
        source.Answers s (questions run.events) run.source
        ∧ Goal.deletion.IsToldBy (questions run.events) result (logged run.events)
        ∧ waitForDeleteWith (pause pace.interval : Routine S (Event R E) Bool) source pace fuel resource
          = waitForDelete source pace fuel resource
        ∧ ((waitForDeleteWith (countedPause pace.interval) source pace fuel resource).run 0).execute
            clock s
          = ⟨run.events, some ((result, (Goal.deletion.leftOpen (questions run.events)).length),
              later), run.source⟩)
    ∧ ∀ resources report later,
      let run := (waitForDeletions source pace fuel resources).execute clock s
      run.result = some (report, later) → ∃ attempts : List (Attempt source pace fuel),
        attempts.map (·.resource) = resources ∧ Attempt.Linked clock s attempts later run.source
        ∧ report.IsToldBy attempts (logged run.events) := by
  refine ⟨?_, ?_, ?_⟩
  · intro target failures resource result later goal run hresult
    have told : goal.IsToldBy (questions run.events) result (logged run.events) :=
      isToldBy_waitForStatus hresult
    refine ⟨answers_waitForStatus source target failures pace fuel resource clock s, told, ?_,
      rfl,
      (tallies_waitForStatus source pace target failures fuel resource).execute_eq hresult told⟩
    rintro ⟨status, hstatus, hagree⟩
    subst run
    rw [waitForStatus_eq_pure hstatus hagree, execute_pure, logged_nil]
  · intro resource result later run hresult
    have told : Goal.deletion.IsToldBy (questions run.events) result (logged run.events) :=
      isToldBy_waitForDelete hresult
    exact ⟨(course_waitForDelete source pace fuel resource clock s).answers, told, rfl,
      (tallies_waitForDelete source pace fuel resource).execute_eq hresult told⟩
  · intro resources report later run hresult
    obtain ⟨attempts, last, rfl, linked⟩ := Attempt.exists_linked hresult
    have hrun : run = ⟨attempts.flatMap Attempt.events, some (Attempt.reportOf attempts, later), last⟩ :=
      linked.execute_eq
    rw [hrun] at hresult ⊢
    obtain rfl : Attempt.reportOf attempts = report := by simpa using hresult
    rw [Attempt.logged_flatMap_events]
    exact ⟨attempts, rfl, linked, Attempt.reportOf_isToldBy attempts⟩

open Routine in
/-- A probe that is built and then deleted, and another whose deletion is forbidden. -/
theorem waits_logFaithfully_forbidden :
    let source : Source Nat Probe FetchError := ⟨fun handle _ asked => (match asked with
      | 0 => { answer := .ok (.found { handle with status := some "building" }) }
      | 1 => { answer := .ok (.found { handle with status := some "active" }) }
      | 2 => { answer := .ok .notFound }
      | _ => { answer := .error ⟨"forbidden"⟩ }, asked + 1)⟩
    let wait := (waitForStatus source "active" ["error"] {} 2 ⟨"p", some "queued"⟩).execute ⟨0, none⟩ 0
    let deletion := (waitForDelete source {} 2 ⟨"p", none⟩).execute ⟨0, none⟩ 1
    let cleanup := (waitForDeletions source {} 2 [⟨"p", none⟩, ⟨"q", none⟩]).execute ⟨0, none⟩ 1
    (Goal.status "active" ["error"]).IsToldBy (questions wait.events) (.ok ⟨"p", some "active"⟩)
        (logged wait.events)
      ∧ Goal.deletion.IsToldBy (questions deletion.events) (.ok ⟨"p", some "active"⟩)
        (logged deletion.events)
      ∧ ∃ attempts : List (Attempt source {} 2),
        CleanupReport.IsToldBy ⟨["p"], [("q", "forbidden")]⟩ attempts (logged cleanup.events) := by
  intro source wait deletion cleanup
  have hwait : wait.result = some (.ok ⟨"p", some "active"⟩, ⟨2000000000, none⟩) := by
    decide
  have hdeletion : deletion.result = some (.ok ⟨"p", some "active"⟩, ⟨2000000000, none⟩) := by
    decide
  have hcleanup : cleanup.result = some (⟨["p"], [("q", "forbidden")]⟩, ⟨2000000000, none⟩) := by
    decide
  obtain ⟨-, told, -⟩ := (waits_logFaithfully source {} 2 ⟨0, none⟩ 0).1 _ _ _ _ _ hwait
  obtain ⟨-, gone, -⟩ := (waits_logFaithfully source {} 2 ⟨0, none⟩ 1).2.1 _ _ _ hdeletion
  obtain ⟨attempts, -, -, accounted⟩ :=
    (waits_logFaithfully source {} 2 ⟨0, none⟩ 1).2.2 _ _ _ hcleanup
  exact ⟨told, gone, attempts, accounted⟩

end ResourceWait
