import Mathlib.Data.List.Basic
import ResourceWait.Proofs.Course
import ResourceWait.Resource.Probe

/-!
# How a wait ends

A wait that ends has asked at least once, unless it had no need to ask at all, and what it ends with
is fixed by the last answer. The answers before showed the resource and left the wait open; the last
one either settled it, or left it open too, and then the budget was spent or the token cancelled
before the next question.

The order in which a wait for a status looks at an answer is part of the law. A status that is both
the target and among the failures is a success, and an answer that settles the wait does so however
late it comes.
-/

namespace ResourceWait

variable {S R E : Type} [Resource R]

/-- **A wait is given up** with a representation that left it open: a finite budget is spent, or the
token is cancelled. -/
def Goal.GivenUp (goal : Goal) (pace : Pace) (newest : R) (result : Except (WaitError R E) R)
    (later : Clock) : Prop :=
  (∃ budget, pace.timeout = some budget
    ∧ result = .error (.timeout (Resource.kind R) (Resource.id newest) goal.target
        (Resource.status newest) budget newest))
  ∨ ((∃ token, later.token = some token ∧ token.isCancelled later.now = true)
    ∧ result = .error (.cancelled (Resource.kind R) (Resource.id newest) newest))

/-- **What a wait ends with** after its last question. -/
def Goal.Concludes (goal : Goal) (pace : Pace) (last : Question R E)
    (result : Except (WaitError R E) R) (later : Clock) : Prop :=
  match goal.verdict last.handle last.answer with
  | .settled _ outcome => result = outcome
  | .unsettled _ newest => goal.GivenUp pace newest result later

/-- A question whose answer settles the wait concludes it. -/
theorem Goal.concludes_of_settled {goal : Goal} {pace : Pace} {last : Question R E}
    {entries : List LogEntry} {outcome : Except (WaitError R E) R}
    (verdict : goal.verdict last.handle last.answer = .settled entries outcome) (later : Clock) :
    goal.Concludes pace last outcome later := by
  unfold Concludes
  rw [verdict]

/-- A question whose answer leaves the wait open concludes it where it is given up. -/
theorem Goal.concludes_of_givenUp {goal : Goal} {pace : Pace} {last : Question R E}
    {entries : List LogEntry} {newest : R} {result : Except (WaitError R E) R} {later : Clock}
    (verdict : goal.verdict last.handle last.answer = .unsettled entries newest)
    (h : goal.GivenUp pace newest result later) : goal.Concludes pace last result later := by
  unfold Concludes
  rw [verdict]
  exact h

namespace Course

variable {source : Source S R E} {goal : Goal} {pace : Pace} {start : Instant} {fuel : Nat}
variable {handle : R} {clock : Clock} {s : S} {run : WaitRun S R E}

/-- **The last answer fixes the end of a wait**, unless the budget was spent before any question. -/
theorem concludes (course : Course source goal pace start fuel handle clock s run)
    {result : Except (WaitError R E) R} {later : Clock}
    (hresult : run.result = some (result, later)) :
    (questions run.events = [] ∧ goal.GivenUp pace handle result later
        ∧ pace.isSpent (clock.now - start) = true)
      ∨ ∃ earlier last, questions run.events = earlier ++ [last]
        ∧ (∀ question ∈ earlier, ∃ shown, question.answer = .ok (.found shown)
          ∧ goal.Pending shown)
        ∧ goal.Concludes pace last result later := by
  induction course with
  | unfollowed => cases hresult
  | timedOut spent =>
    cases hresult
    obtain ⟨budget, hbudget, -⟩ := Pace.timeout_of_isSpent spent
    refine .inl ⟨rfl, .inl ⟨budget, hbudget, ?_⟩, spent⟩
    rw [Goal.timeoutError, hbudget, Option.getD_some]
  | @settled _ handle clock s _ _ _ verdict =>
    cases hresult
    exact .inr ⟨[], source.question handle clock.now s, by simp, by simp,
      Goal.concludes_of_settled verdict _⟩
  | @cancelled _ handle newer clock s _ moment _ verdict cut =>
    cases hresult
    have hcancelled := Clock.isCancelled_of_interruption? cut
    exact .inr ⟨[], source.question handle clock.now s, by simp, by simp,
      Goal.concludes_of_givenUp verdict (.inr ⟨hcancelled, rfl⟩)⟩
  | @again _ handle newer clock s _ _ _ verdict _ _ ih =>
    rw [questions_behind]
    obtain ⟨hnone, hgivenUp, -⟩ | ⟨earlier, last, hquestions, hearlier, hlast⟩ := ih hresult
    · -- the budget was spent in the pause, so this question was the last
      exact .inr ⟨[], source.question handle clock.now s, by rw [hnone]; rfl, by simp,
        Goal.concludes_of_givenUp verdict hgivenUp⟩
    · refine .inr ⟨source.question handle clock.now s :: earlier, last, by rw [hquestions]; rfl,
        ?_, hlast⟩
      rintro question (_ | ⟨_, hmem⟩)
      · exact ⟨newer, Goal.pending_of_verdict verdict⟩
      · exact hearlier question hmem

end Course

/-- **A wait that begins now and ends has asked**, and its last answer fixes the end. The answers
before showed representations that left it open. -/
theorem concludes_pollFromNow {source : Source S R E} {goal : Goal} {pace : Pace} {fuel : Nat}
    {resource : R} {clock : Clock} {s : S} {result : Except (WaitError R E) R} {later : Clock}
    (hresult : ((Routine.pollFromNow source goal pace fuel resource).execute clock s).result
      = some (result, later)) :
    ∃ earlier last, questions ((Routine.pollFromNow source goal pace fuel resource).execute clock
        s).events = earlier ++ [last]
      ∧ (∀ question ∈ earlier, ∃ shown, question.answer = .ok (.found shown)
        ∧ goal.Pending shown)
      ∧ goal.Concludes pace last result later := by
  have course := course_pollFromNow source goal pace fuel resource clock s
  obtain ⟨-, -, hspent⟩ | hasked := course.concludes hresult
  · rw [Nat.sub_self, pace.isSpent_zero] at hspent
    exact absurd hspent Bool.false_ne_true
  · exact hasked

/-- **How a wait for a status ends** after its last question, answer by answer. The target counts
before the failures, and only an answer that settles nothing leaves the end to the budget and the
token. -/
def Goal.StatusConcludes (target : String) (failures : List String) (pace : Pace)
    (last : Question R E) (result : Except (WaitError R E) R) (later : Clock) : Prop :=
  match last.answer with
  | .error e => result = .error (.fetch e)
  | .ok .notFound =>
    result = .error (.notFound (Resource.kind R) (Resource.id last.handle) target last.handle)
  | .ok (.found newest) =>
    match Resource.status newest with
    | none => result = .error (.misuse (Resource.kind R))
    | some current =>
      if Status.agree current target then result = .ok newest
      else if Status.isAnyOf current failures then
        result = .error (.failure (Resource.kind R) (Resource.id newest) current newest)
      else (Goal.status target failures).GivenUp pace newest result later

/-- The verdict on the last answer, spelled out for a status. -/
theorem Goal.statusConcludes_of_concludes {target : String} {failures : List String} {pace : Pace}
    {last : Question R E} {result : Except (WaitError R E) R} {later : Clock}
    (h : (Goal.status target failures).Concludes pace last result later) :
    Goal.StatusConcludes target failures pace last result later := by
  unfold Concludes verdict at h
  unfold StatusConcludes
  obtain ⟨handle, start, stop, e | shown | _⟩ := last
  · exact h
  · simp only [judge] at h ⊢
    cases hstatus : Resource.status shown with
    | none => simpa [hstatus] using h
    | some status =>
      simp only [hstatus] at h ⊢
      split
      · rename_i hagree
        simpa [hagree] using h
      · rename_i hagree
        split
        · rename_i hfailed
          simpa [hagree, hfailed] using h
        · rename_i hfailed
          simpa [hagree, hfailed] using h
  · exact h

/-- A wait for a status that concludes well was shown the resource in this status. -/
theorem Goal.StatusConcludes.reached {target : String} {failures : List String} {pace : Pace}
    {last : Question R E} {reached : R} {later : Clock}
    (h : StatusConcludes target failures pace last (.ok reached) later) :
    last.answer = .ok (.found reached)
      ∧ ∃ status, Resource.status reached = some status ∧ Status.agree status target = true := by
  unfold StatusConcludes at h
  split at h
  · cases h
  · cases h
  · rename_i newest hanswer
    split at h
    · cases h
    · rename_i status hstatus
      split at h
      · rename_i hagree
        cases h
        exact ⟨hanswer, status, hstatus, hagree⟩
      · split at h
        · cases h
        · -- a wait that is given up does not succeed
          obtain ⟨_, -, herror⟩ | ⟨-, herror⟩ := h
          · cases herror
          · cases herror

open Routine in
/-- **The outcome of a wait for a status.** A resource without a status is misused, one that is in
it already is returned, and neither takes a question. Any other wait that ends has asked its source:
first with the resource and then with what the answer before had shown. Every answer but the last
showed the resource in a status that is neither the target nor a failure, and the last one fixes the
result. -/
theorem waitForStatus_outcome (source : Source S R E) (pace : Pace) (target : String)
    (failures : List String) (fuel : Nat) (resource : R) (clock : Clock) (s : S) :
    let run := (waitForStatus source target failures pace fuel resource).execute clock s
    (Resource.status resource = none →
      run = ⟨[], some (.error (.misuse (Resource.kind R)), clock), s⟩)
    ∧ (∀ status, Resource.status resource = some status → Status.agree status target = true →
      run = ⟨[], some (.ok resource, clock), s⟩)
    ∧ ∀ status, Resource.status resource = some status → Status.agree status target = false →
      ∀ result later, run.result = some (result, later) →
        ∃ earlier last, questions run.events = earlier ++ [last]
          ∧ source.Answers s (earlier ++ [last]) run.source
          ∧ Question.Chained resource (earlier ++ [last])
          ∧ (∀ question ∈ earlier, ∃ shown status, question.answer = .ok (.found shown)
            ∧ Resource.status shown = some status ∧ Status.agree status target = false
            ∧ Status.isAnyOf status failures = false)
          ∧ Goal.StatusConcludes target failures pace last result later := by
  dsimp only
  refine ⟨fun hnone => ?_, fun status hstatus hagree => ?_, fun status hstatus hagree => ?_⟩
  · rw [waitForStatus_eq_misuse hnone, execute_pure]
  · rw [waitForStatus_eq_pure hstatus hagree, execute_pure]
  · intro result later hresult
    rw [waitForStatus_eq_pollFromNow hstatus hagree] at hresult ⊢
    have course := course_pollFromNow source (.status target failures) pace fuel resource clock s
    obtain ⟨-, -, hspent⟩ | ⟨earlier, last, hquestions, hearlier, hlast⟩ := course.concludes hresult
    · rw [Nat.sub_self, pace.isSpent_zero] at hspent
      exact absurd hspent Bool.false_ne_true
    · rw [hquestions]
      refine ⟨earlier, last, rfl, hquestions ▸ course.answers, hquestions ▸ course.chained, ?_,
        Goal.statusConcludes_of_concludes hlast⟩
      intro question hmem
      obtain ⟨shown, hanswer, status', hstatus', hpending⟩ := hearlier question hmem
      exact ⟨shown, status', hanswer, hstatus', hpending⟩

open Routine in
/-- A wait for a probe that is built, then resized, and then gone: it asks each time with what the
answer before had shown, and reports the last that was seen. -/
theorem waitForStatus_outcome_gone :
    let queued : Probe := ⟨"p", some "QUEUED"⟩
    let building : Probe := ⟨"p", some "BUILD"⟩
    let resizing : Probe := ⟨"p", some "RESIZE"⟩
    let source : Source Nat Probe FetchError := ⟨fun _ _ asked => (match asked with
      | 0 => { answer := .ok (.found building) }
      | 1 => { answer := .ok (.found resizing), delay := .ofSeconds 1 }
      | _ => { answer := .ok .notFound }, asked + 1)⟩
    let run := (waitForStatus source "ACTIVE" ["ERROR"] {} 3 queued).execute ⟨0, none⟩ 0
    ∃ earlier last, questions run.events = earlier ++ [last]
      ∧ Question.Chained queued (earlier ++ [last])
      ∧ earlier.map (·.handle) = [queued, building] ∧ last.handle = resizing
      ∧ Goal.StatusConcludes "ACTIVE" ["ERROR"] {} last
        (.error (.notFound "probe" "p" "ACTIVE" resizing)) ⟨5000000000, none⟩ := by
  intro queued building resizing source run
  have hresult : run.result = some (.error (.notFound "probe" "p" "ACTIVE" resizing),
      ⟨5000000000, none⟩) := by
    decide
  have hhandles : (questions run.events).map (·.handle) = [queued, building] ++ [resizing] := by
    decide
  obtain ⟨earlier, last, hquestions, -, chained, -, hlast⟩ := (waitForStatus_outcome source {} "ACTIVE"
    ["ERROR"] 3 queued ⟨0, none⟩ 0).2.2 "QUEUED" rfl (by decide) _ _ hresult
  rw [hquestions, List.map_append] at hhandles
  obtain ⟨hearlier, hnewest⟩ := List.append_inj' hhandles rfl
  exact ⟨earlier, last, hquestions, chained, hearlier, List.singleton_inj.mp hnewest, hlast⟩

end ResourceWait
