import ResourceWait.Proofs.DeletionOutcome
import ResourceWait.Resource.Compute
import ResourceWait.Service.BlockStorage

/-!
# Errors that tell the truth

An error of a wait says a good deal about itself: which kind of resource it is about, which resource
and in which status, what was waited for and for how long. All of that is put together by hand where
the error is made, from a representation that changes with every pass. `WaitError.Truthful` says that
the parts fit: whatever is said about the resource, the one that the error carries bears it out, and
the budget and the target are those of the caller.

Two places have something to fall back on. A timeout without a budget would name a budget of nothing,
and one of a resource without a status would call that unknown. Neither is ever reached by a wait for a
status. A budget that is spent is finite; and a representation with which a pass begins has a status,
since it is either the one that the caller gave, which has one, or an answer that left the wait open.
-/

namespace ResourceWait

variable {S R E : Type}

/-- **A kind settles whether its resources have a status**: all of them do, or none does. -/
def Resource.IsUniform (R : Type) [Resource R] : Prop :=
  ∀ resource other : R, (Resource.status resource).isSome = (Resource.status other).isSome

variable [Resource R]

/-- **An error tells the truth about itself**: it names its kind, the target and a budget that the wait
was given, and what it says about a resource is so of the one that can be taken out of it. -/
def WaitError.Truthful (target : String) (timeout : Option Duration) (error : WaitError R E) : Prop :=
  match error with
  | .timeout kind id called status budget resource =>
    kind = Resource.kind R ∧ id = Resource.id resource ∧ called = target
      ∧ status = Resource.status resource ∧ timeout = some budget ∧ error.resource? = some resource
  | .failure kind id status resource =>
    kind = Resource.kind R ∧ id = Resource.id resource ∧ some status = Resource.status resource
      ∧ error.resource? = some resource
  | .misuse kind => kind = Resource.kind R ∧ error.resource? = none
  | .notFound kind id called resource =>
    kind = Resource.kind R ∧ id = Resource.id resource ∧ called = target
      ∧ error.resource? = some resource
  | .cancelled kind id resource =>
    kind = Resource.kind R ∧ id = Resource.id resource ∧ error.resource? = some resource
  | .fetch _ => error.resource? = none

/-- **A run reports truthfully** what it did not achieve. -/
structure ReportsTruthfully (target : String) (timeout : Option Duration) (run : WaitRun S R E) :
    Prop where
  /-- Its error tells the truth about itself. -/
  truthful : ∀ error later, run.result = some (.error error, later) → error.Truthful target timeout
  /-- Where the kind settles whether there is a status, a misuse takes no question to find out. -/
  misuse : Resource.IsUniform R → ∀ kind later, run.result = some (.error (.misuse kind), later) →
    questions run.events = []

/-- **A run knows the status** of what it times out on, and never has to call it unknown. -/
structure KnowsStatus (run : WaitRun S R E) : Prop where
  /-- A timeout has the last status. -/
  timedOut : ∀ kind id called status budget resource later,
    run.result = some (.error (.timeout kind id called status budget resource), later) →
      ∃ known, status = some known
  /-- So has the line that is logged about it. -/
  logged : ∀ entry ∈ logged run.events, ∀ called status, entry.notice = .timedOut called status →
    ∃ known, status = some known

/-! ### The end of a single wait -/

namespace Goal

variable {goal : Goal} {pace : Pace} {last : Question R E} {error : WaitError R E} {later : Clock}

/-- A wait that is given up says so truthfully. -/
theorem GivenUp.truthful {newest : R} (h : goal.GivenUp pace newest (.error error) later) :
    error.Truthful goal.target pace.timeout := by
  obtain ⟨budget, hbudget, herror⟩ | ⟨-, herror⟩ := h
  · rw [Except.error.inj herror]
    exact ⟨rfl, rfl, rfl, rfl, hbudget, rfl⟩
  · rw [Except.error.inj herror]
    exact ⟨rfl, rfl, rfl⟩

/-- **The errors of a wait for a status**, by its last answer: the source failed, or nothing was there,
or what was there has no status, or it has one, which is a failure or leaves the wait to be given up. -/
theorem StatusConcludes.error_cases {target : String} {failures : List String}
    (h : StatusConcludes target failures pace last (.error error) later) :
    (∃ e, error = .fetch e)
      ∨ error = .notFound (Resource.kind R) (Resource.id last.handle) target last.handle
      ∨ ∃ newest : R, (Resource.status newest = none ∧ error = .misuse (Resource.kind R))
        ∨ ∃ known, Resource.status newest = some known
          ∧ (error = .failure (Resource.kind R) (Resource.id newest) known newest
            ∨ (Goal.status target failures).GivenUp pace newest (.error error) later) := by
  unfold StatusConcludes at h
  split at h
  · exact .inl ⟨_, Except.error.inj h⟩
  · exact .inr (.inl (Except.error.inj h))
  · rename_i newest _
    refine .inr (.inr ⟨newest, ?_⟩)
    split at h
    · rename_i hstatus
      exact .inl ⟨hstatus, Except.error.inj h⟩
    · rename_i known hstatus
      refine .inr ⟨known, hstatus, ?_⟩
      split at h
      · cases h
      · split at h
        · exact .inl (Except.error.inj h)
        · exact .inr h

/-- A wait for a status that ends in an error says so truthfully. -/
theorem StatusConcludes.truthful {target : String} {failures : List String}
    (h : StatusConcludes target failures pace last (.error error) later) :
    error.Truthful target pace.timeout := by
  obtain ⟨e, rfl⟩ | rfl | ⟨newest, ⟨-, rfl⟩ | ⟨known, hstatus, rfl | hgivenUp⟩⟩ := h.error_cases
  · rfl
  · exact ⟨rfl, rfl, rfl, rfl⟩
  · exact ⟨rfl, rfl⟩
  · exact ⟨rfl, rfl, hstatus.symm, rfl⟩
  · exact hgivenUp.truthful

/-- A wait for a deletion that ends in an error says so truthfully. -/
theorem DeletionConcludes.truthful (h : DeletionConcludes pace last (.error error) later) :
    error.Truthful "deleted" pace.timeout := by
  unfold DeletionConcludes at h
  split at h
  · rw [Except.error.inj h]
    rfl
  · cases h
  · exact h.truthful

/-- A wait for a status is found to be misused only by a representation without one. -/
theorem StatusConcludes.status_eq_none {target : String} {failures : List String} {kind : String}
    (h : StatusConcludes target failures pace last (.error (.misuse kind)) later) :
    ∃ newest : R, Resource.status newest = none := by
  obtain ⟨e, he⟩ | hgone | ⟨newest, ⟨hnone, -⟩ | ⟨known, -, hfailed | hgivenUp⟩⟩ := h.error_cases
  · cases he
  · cases hgone
  · exact ⟨newest, hnone⟩
  · cases hfailed
  · obtain ⟨budget, -, herror⟩ | ⟨-, herror⟩ := hgivenUp <;> cases herror

/-- A wait for a status times out only on a representation that has one. -/
theorem StatusConcludes.status_eq_some {target : String} {failures : List String}
    {kind id called : String} {status : Option String} {budget : Duration} {resource : R}
    (h : StatusConcludes target failures pace last
      (.error (.timeout kind id called status budget resource)) later) :
    ∃ known, status = some known := by
  obtain ⟨e, he⟩ | hgone | ⟨newest, ⟨-, hmisuse⟩ | ⟨known, hstatus, hfailed | hgivenUp⟩⟩ :=
    h.error_cases
  · cases he
  · cases hgone
  · cases hmisuse
  · cases hfailed
  · obtain ⟨spent, -, herror⟩ | ⟨-, herror⟩ := hgivenUp
    · cases herror
      exact ⟨known, hstatus⟩
    · cases herror

end Goal

/-- **A wait for a status logs only timeouts of a status that it knows**, if it begins with one. Every
pass after the first begins with an answer that left the wait open, and such an answer has a status. -/
theorem Course.status_eq_some_of_logged {source : Source S R E} {target : String}
    {failures : List String} {pace : Pace} {start : Instant} {fuel : Nat} {handle : R} {clock : Clock}
    {s : S} {run : WaitRun S R E}
    (course : Course source (.status target failures) pace start fuel handle clock s run)
    (hhandle : ∃ known, Resource.status handle = some known) :
    ∀ entry ∈ logged run.events, ∀ called status, entry.notice = .timedOut called status →
      ∃ known, status = some known := by
  have hverdict : ∀ {handle : R} {answer : Except E (Observation R)} {verdict : Verdict R E},
      (Goal.status target failures).verdict handle answer = verdict →
      ∀ entry ∈ verdict.entries, ∀ called status, entry.notice ≠ .timedOut called status := by
    rintro handle answer _ rfl
    exact Goal.notice_ne_timedOut _ handle answer
  induction course with
  | unfollowed => simp
  | @timedOut _ handle =>
    intro entry hmem called status hnotice
    rw [logged_log, logged_nil, List.mem_singleton] at hmem
    rw [hmem] at hnotice
    obtain ⟨-, hstatus⟩ := Notice.timedOut.inj hnotice
    exact hstatus ▸ hhandle
  | settled _ verdict =>
    intro entry hmem called status hnotice
    rw [logged_event, logged_map_log] at hmem
    exact absurd hnotice (hverdict verdict entry hmem called status)
  | cancelled _ verdict =>
    intro entry hmem called status hnotice
    rw [logged_event, logged_append, logged_map_log, logged_slept, List.append_nil] at hmem
    exact absurd hnotice (hverdict verdict entry hmem called status)
  | again _ verdict _ _ ih =>
    intro entry hmem called status hnotice
    rw [logged_behind, List.mem_append] at hmem
    obtain hmem | hmem := hmem
    · exact absurd hnotice (hverdict verdict entry hmem called status)
    · obtain ⟨known, hknown, -⟩ := (Goal.pending_of_verdict verdict).2
      exact ih ⟨known, hknown⟩ entry hmem called status hnotice

/-! ### The waits -/

open Routine

/-- A wait that is over at once reports truthfully if its error does so, and that is no timeout. -/
theorem reportsTruthfully_atOnce {target : String} {timeout : Option Duration}
    (result : Except (WaitError R E) R) (clock : Clock) (s : S)
    (h : ∀ error, result = .error error →
      error.Truthful target timeout ∧ error.isTimeout = false) :
    ReportsTruthfully target timeout (⟨[], some (result, clock), s⟩ : WaitRun S R E)
      ∧ KnowsStatus (⟨[], some (result, clock), s⟩ : WaitRun S R E) := by
  refine ⟨⟨?_, fun _ _ _ _ => rfl⟩, ?_, by simp⟩
  · rintro error _ ⟨⟩
    exact (h error rfl).1
  · rintro _ _ _ _ _ _ _ ⟨⟩
    exact absurd (h _ rfl).2.symm Bool.false_ne_true

/-- A wait for a status reports truthfully and knows the status of what it times out on. -/
theorem reportsTruthfully_waitForStatus (source : Source S R E) (target : String)
    (failures : List String) (pace : Pace) (fuel : Nat) (resource : R) (clock : Clock) (s : S) :
    ReportsTruthfully target pace.timeout
        ((waitForStatus source target failures pace fuel resource).execute clock s)
      ∧ KnowsStatus ((waitForStatus source target failures pace fuel resource).execute clock s) := by
  cases hstatus : Resource.status resource with
  | none =>
    rw [waitForStatus_eq_misuse hstatus, execute_pure]
    refine reportsTruthfully_atOnce _ clock s ?_
    rintro _ ⟨⟩
    exact ⟨⟨rfl, rfl⟩, rfl⟩
  | some status =>
    by_cases hagree : Status.agree status target = true
    · rw [waitForStatus_eq_pure hstatus hagree, execute_pure]
      refine reportsTruthfully_atOnce _ clock s ?_
      rintro _ ⟨⟩
    · rw [waitForStatus_eq_pollFromNow hstatus (Bool.eq_false_iff.mpr hagree)]
      have course := course_pollFromNow source (.status target failures) pace fuel resource clock s
      refine ⟨⟨fun error later hresult => ?_, fun huniform kind later hresult => ?_⟩,
        fun kind id called status budget newest later hresult => ?_,
        course.status_eq_some_of_logged ⟨status, hstatus⟩⟩
      all_goals
        obtain ⟨earlier, last, -, -, hlast⟩ := concludes_pollFromNow hresult
        have hconcludes := Goal.statusConcludes_of_concludes hlast
      · exact hconcludes.truthful
      · -- the resource has a status, so every representation has one
        obtain ⟨newest, hnone⟩ := hconcludes.status_eq_none
        have hsome := huniform newest resource
        rw [hnone, hstatus] at hsome
        exact absurd hsome Bool.false_ne_true
      · exact hconcludes.status_eq_some

/-- A wait for a deletion reports truthfully. -/
theorem reportsTruthfully_waitForDelete (source : Source S R E) (pace : Pace) (fuel : Nat)
    (resource : R) (clock : Clock) (s : S) :
    ReportsTruthfully "deleted" pace.timeout
      ((waitForDelete source pace fuel resource).execute clock s) := by
  refine ⟨fun error later hresult => ?_, fun _ kind later hresult => ?_⟩
  all_goals
    obtain ⟨last, -, hconcludes⟩ := concludes_waitForDelete hresult
  · exact hconcludes.truthful
  · exact absurd hconcludes.notAboutStatus id

/-- **A wait for a fresh resource** is over at once, because that is in a status of failure, or does
what the wait for the status does and at most adds to the log that the resource was created. -/
theorem BlockStorage.execute_waitForCreated_cases (service : BlockStorage) (source : Source S R E)
    (timeout : Option Duration) (fuel : Nat) (resource : R) (clock : Clock) (s : S) :
    let wait := (Routine.waitForStatus source service.defaults.status service.defaults.failures
      (service.paceWithin timeout) fuel resource).execute clock s
    (∃ status, Resource.status resource = some status
        ∧ (service.waitForCreated source timeout fuel resource).execute clock s
          = ⟨[], some (.error (.failure (Resource.kind R) (Resource.id resource) status resource),
            clock), s⟩)
      ∨ ∃ closing : List LogEntry, (∀ entry ∈ closing, entry.notice = .created)
        ∧ (service.waitForCreated source timeout fuel resource).execute clock s
          = { wait with events := wait.events ++ closing.map .log } := by
  intro wait
  unfold waitForCreated
  cases hfailed : service.failedStatus? resource with
  | some status =>
    exact .inl ⟨status, (Option.filter_eq_some_iff.mp hfailed).1, rfl⟩
  | none =>
    refine .inr ?_
    rw [execute_bind]
    cases hresult : wait.result with
    | none => exact ⟨[], by simp, by simp [wait]⟩
    | some ended =>
      obtain ⟨error | created, later⟩ := ended
      · exact ⟨[], by simp, by simp [wait]⟩
      · exact ⟨[Notice.about .created created], by simp [Notice.about],
          by simp [wait]⟩

/-- A wait for a fresh resource reports truthfully and knows the status of what it times out on. -/
theorem BlockStorage.reportsTruthfully_waitForCreated (service : BlockStorage)
    (source : Source S R E) (timeout : Option Duration) (fuel : Nat) (resource : R) (clock : Clock)
    (s : S) :
    ReportsTruthfully service.defaults.status timeout
        ((service.waitForCreated source timeout fuel resource).execute clock s)
      ∧ KnowsStatus ((service.waitForCreated source timeout fuel resource).execute clock s) := by
  obtain ⟨status, hstatus, hrun⟩ | ⟨closing, hclosing, hrun⟩ :=
    service.execute_waitForCreated_cases source timeout fuel resource clock s
  · rw [hrun]
    refine reportsTruthfully_atOnce _ clock s ?_
    rintro _ ⟨⟩
    exact ⟨⟨rfl, rfl, hstatus.symm, rfl⟩, rfl⟩
  · obtain ⟨reports, knows⟩ := reportsTruthfully_waitForStatus source service.defaults.status
      service.defaults.failures (service.paceWithin timeout) fuel resource clock s
    rw [hrun]
    refine ⟨⟨reports.truthful, fun huniform kind later hresult => ?_⟩, knows.timedOut, ?_⟩
    · rw [questions_append, questions_map_log, List.append_nil]
      exact reports.misuse huniform kind later hresult
    · intro entry hmem called status hnotice
      rw [logged_append, logged_map_log, List.mem_append] at hmem
      obtain hmem | hmem := hmem
      · exact knows.logged entry hmem called status hnotice
      · cases (hclosing entry hmem).symm.trans hnotice

/-- **Every error of a wait tells the truth about itself.** That is so of waits for a status, for a
deletion and for a fresh resource, on any source. Those that are for a status never time out on a
resource of which they do not know it; and in each of the kinds there are, a resource without a status
is refused before it is asked about. -/
theorem waits_reportTruthfully (source : Source S R E) (fuel : Nat) (resource : R) (clock : Clock)
    (s : S) :
    (∀ (target : String) (failures : List String) (pace : Pace),
      ReportsTruthfully target pace.timeout
          ((waitForStatus source target failures pace fuel resource).execute clock s)
        ∧ KnowsStatus ((waitForStatus source target failures pace fuel resource).execute clock s))
    ∧ (∀ pace : Pace, ReportsTruthfully "deleted" pace.timeout
        ((waitForDelete source pace fuel resource).execute clock s))
    ∧ (∀ (service : BlockStorage) (timeout : Option Duration),
      ReportsTruthfully service.defaults.status timeout
          ((service.waitForCreated source timeout fuel resource).execute clock s)
        ∧ KnowsStatus ((service.waitForCreated source timeout fuel resource).execute clock s))
    ∧ Resource.IsUniform Volume ∧ Resource.IsUniform Snapshot ∧ Resource.IsUniform Backup
    ∧ Resource.IsUniform Server ∧ Resource.IsUniform VolumeAttachment ∧ Resource.IsUniform Flavor
    ∧ Resource.IsUniform Aggregate := by
  refine ⟨fun target failures pace => ?_, fun pace => ?_, fun service timeout => ?_, ?_⟩
  · exact reportsTruthfully_waitForStatus source target failures pace fuel resource clock s
  · exact reportsTruthfully_waitForDelete source pace fuel resource clock s
  · exact service.reportsTruthfully_waitForCreated source timeout fuel resource clock s
  · refine ⟨?_, ?_, ?_, ?_, ?_, ?_, ?_⟩ <;> exact fun _ _ => rfl

open Routine in
/-- A wait that times out on a probe of which it has just heard that it has got another name. -/
theorem waits_reportTruthfully_renamed :
    let source : Source Unit Probe FetchError := ⟨fun handle _ s =>
      ({ answer := .ok (.found { handle with id := "q", status := some "Verify" }) }, s)⟩
    let pace : Pace := { timeout := some (.ofSeconds 1) }
    let run := (waitForStatus source "Active" [] pace 2 ⟨"p", some "Build"⟩).execute ⟨0, none⟩ ()
    let error : WaitError Probe FetchError := .timeout "probe" "q" "Active" (some "Verify")
      (.ofSeconds 1) ⟨"q", some "Verify"⟩
    run.result = some (.error error, ⟨2000000000, none⟩)
      ∧ error.Truthful "Active" (some (.ofSeconds 1)) := by
  intro source pace run error
  have hresult : run.result = some (.error error, ⟨2000000000, none⟩) := by
    subst run error source pace
    rfl
  have reports := waits_reportTruthfully source 2 ⟨"p", some "Build"⟩ ⟨0, none⟩ ()
  exact ⟨hresult, (reports.1 "Active" [] pace).1.truthful error _ hresult⟩

end ResourceWait
