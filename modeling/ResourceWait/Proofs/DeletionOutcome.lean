import ResourceWait.Proofs.Budget
import ResourceWait.Proofs.Outcome

/-!
# How a wait for a deletion ends

For a deletion only an absence is a success, so the last answer alone says how the wait ends: well if
nothing was there, with the failure of the source if that failed, and else, as long as the resource is
there, only by giving up. What it is called and which status it is in, if it is in any, never counts.

A wait that ends well hands back the latest representation that it has seen. That is the handle of its
last question, because every question is asked with what the one before it has shown.
-/

namespace ResourceWait

variable {S R E : Type}

/-! ### The latest representation -/

/-- **The latest representation** that questions have shown; before they have shown any, the one at
hand. -/
def Question.latest (handle : R) (asked : List (Question R E)) : R :=
  (asked.filterMap shown?).getLastD handle

/-- A question that is chained to others is asked with the latest representation of these. -/
theorem Question.Chained.handle_eq_latest {handle : R} {earlier : List (Question R E)}
    {last : Question R E} (chained : Chained handle (earlier ++ [last])) :
    last.handle = latest handle earlier := by
  induction earlier generalizing handle with
  | nil => exact chained.1
  | cons question rest ih =>
    have hrest := chained.2
    unfold latest
    cases hshown : question.shown? with
    | none =>
      -- a question that shows nothing is the last, and this one is not
      rw [hshown] at hrest
      exact absurd hrest (List.append_ne_nil_of_right_ne_nil _ (List.cons_ne_nil _ _))
    | some resource =>
      rw [hshown] at hrest
      rw [List.filterMap_cons_some hshown, List.getLastD_cons]
      exact ih hrest

variable [Resource R]

/-! ### The end of a wait -/

/-- **How a wait for a deletion ends** after its last question: well if that showed nothing there,
and else with the failure of the source, a spent budget or a cancelled token. -/
def Goal.DeletionConcludes (pace : Pace) (last : Question R E) (result : Except (WaitError R E) R)
    (later : Clock) : Prop :=
  match last.answer with
  | .error e => result = .error (.fetch e)
  | .ok .notFound => result = .ok last.handle
  | .ok (.found newest) => Goal.deletion.GivenUp pace newest result later

/-- The verdict on the last answer, spelled out for a deletion. -/
theorem Goal.deletionConcludes_of_concludes {pace : Pace} {last : Question R E}
    {result : Except (WaitError R E) R} {later : Clock}
    (h : Goal.deletion.Concludes pace last result later) :
    Goal.DeletionConcludes pace last result later := by
  obtain ⟨handle, start, stop, e | shown | _⟩ := last <;> exact h

/-- A wait for a deletion that ends has asked, and its last question concludes it. -/
theorem concludes_waitForDelete {source : Source S R E} {pace : Pace} {fuel : Nat} {resource : R}
    {clock : Clock} {s : S} {result : Except (WaitError R E) R} {later : Clock}
    (hresult : ((Routine.waitForDelete source pace fuel resource).execute clock s).result
      = some (result, later)) :
    ∃ last, (questions ((Routine.waitForDelete source pace fuel resource).execute clock
        s).events).getLast? = some last
      ∧ Goal.DeletionConcludes pace last result later := by
  rw [Routine.waitForDelete_eq_pollFromNow] at hresult ⊢
  obtain ⟨earlier, last, hquestions, -, hlast⟩ := concludes_pollFromNow hresult
  exact ⟨last, by rw [hquestions, List.getLast?_concat], Goal.deletionConcludes_of_concludes hlast⟩

/-- A wait that was given up with what it was shown last did not succeed. -/
theorem Goal.GivenUp.error {goal : Goal} {pace : Pace} {newest : R}
    {result : Except (WaitError R E) R} {later : Clock}
    (h : goal.GivenUp pace newest result later) :
    ∃ error, result = .error error
      ∧ (error.isTimeout = true
        ∨ error = .ofCancelled newest ∧ ∃ token, later.token = some token) := by
  obtain ⟨budget, -, rfl⟩ | ⟨⟨token, htoken, -⟩, rfl⟩ := h
  · exact ⟨_, rfl, .inl rfl⟩
  · exact ⟨_, rfl, .inr ⟨rfl, token, htoken⟩⟩

/-- **An error is not about a status**: it says neither that the resource failed, nor that it has no
status, nor that it is gone before it was in the one waited for. -/
def WaitError.NotAboutStatus : WaitError R E → Prop
  | .failure .. | .misuse _ | .notFound .. => False
  | .timeout .. | .cancelled .. | .fetch _ => True

/-- The error of a wait for a deletion is not about a status. -/
theorem Goal.DeletionConcludes.notAboutStatus {pace : Pace} {last : Question R E}
    {error : WaitError R E} {later : Clock}
    (h : Goal.DeletionConcludes pace last (.error error) later) : error.NotAboutStatus := by
  unfold Goal.DeletionConcludes at h
  split at h
  · rw [Except.error.inj h]
    trivial
  · cases h
  · obtain ⟨budget, -, h⟩ | ⟨-, h⟩ := h
    · rw [Except.error.inj h]
      trivial
    · rw [Except.error.inj h]
      trivial

open Routine in
/-- **The outcome of a wait for a deletion.** A wait that ends has asked its source: first with the
resource and then with what the answer before had shown. Every answer but the last showed the
resource, in whatever status, and the last one fixes the result. An absence gives the latest
representation, a failure of the source is passed on, and a wait that has been shown the resource once
more is given up: because its token is cancelled, or because more time has passed than its budget
holds. -/
theorem waitForDelete_outcome (source : Source S R E) (pace : Pace) (fuel : Nat) (resource : R)
    (clock : Clock) (s : S) {result : Except (WaitError R E) R} {later : Clock}
    (hresult : ((waitForDelete source pace fuel resource).execute clock s).result
      = some (result, later)) :
    let run := (waitForDelete source pace fuel resource).execute clock s
    ∃ earlier last, questions run.events = earlier ++ [last]
      ∧ source.Answers s (earlier ++ [last]) run.source
      ∧ Question.Chained resource (earlier ++ [last])
      ∧ (∀ question ∈ earlier, ∃ shown, question.answer = .ok (.found shown))
      ∧ last.handle = Question.latest resource earlier
      ∧ Goal.DeletionConcludes pace last result later
      ∧ ∀ error, result = .error error → error.NotAboutStatus
        ∧ (error.isTimeout = true → ∃ budget, pace.timeout = some budget
          ∧ budget.nanoseconds < later.now - clock.now) := by
  rw [waitForDelete_eq_pollFromNow] at hresult ⊢
  intro run
  have course := course_pollFromNow source .deletion pace fuel resource clock s
  obtain ⟨earlier, last, hquestions, hearlier, hlast⟩ := concludes_pollFromNow hresult
  have hconcludes := Goal.deletionConcludes_of_concludes hlast
  have answers : source.Answers s (earlier ++ [last]) run.source := hquestions ▸ course.answers
  have chained : Question.Chained resource (earlier ++ [last]) := hquestions ▸ course.chained
  refine ⟨earlier, last, hquestions, answers, chained, fun question hmem => ?_,
    chained.handle_eq_latest, hconcludes, ?_⟩
  · obtain ⟨shown, hshown, -⟩ := hearlier question hmem
    exact ⟨shown, hshown⟩
  · rintro error rfl
    refine ⟨hconcludes.notAboutStatus, fun htimeout => ?_⟩
    have keeps := keepsBudget_pollFromNow source .deletion pace fuel resource clock s
    obtain ⟨budget, -, hbudget, -, -, -, hspent, -⟩ := keeps.timesOut error later hresult htimeout
    exact ⟨budget, hbudget, hspent⟩

open Routine in
/-- A wait for the deletion of a probe that is in the status `deleted` at first, then in none, and
only then gone. -/
theorem waitForDelete_outcome_lingering :
    let source : Source Nat Probe FetchError := ⟨fun handle _ asked => (match asked with
      | 0 => { answer := .ok (.found { handle with status := some "deleted" }) }
      | 1 => { answer := .ok (.found { handle with status := none }) }
      | _ => { answer := .ok .notFound }, asked + 1)⟩
    let run := (waitForDelete source {} 3 ⟨"p", some "error"⟩).execute ⟨0, none⟩ 0
    ∃ earlier last, questions run.events = earlier ++ [last]
      ∧ last.handle = Question.latest ⟨"p", some "error"⟩ earlier
      ∧ Goal.DeletionConcludes {} last (.ok ⟨"p", none⟩) ⟨4000000000, none⟩ := by
  intro source run
  have hresult : run.result = some (.ok ⟨"p", none⟩, ⟨4000000000, none⟩) := by
    subst run source
    rfl
  obtain ⟨earlier, last, hquestions, -, -, -, hhandle, hlast, -⟩ :=
    waitForDelete_outcome source {} 3 ⟨"p", some "error"⟩ ⟨0, none⟩ 0 hresult
  exact ⟨earlier, last, hquestions, hhandle, hlast⟩

end ResourceWait
