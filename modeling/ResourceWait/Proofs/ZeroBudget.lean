import ResourceWait.Proofs.Course
import ResourceWait.Resource.Storage
import ResourceWait.Source.Script

/-!
# Waits with nothing to spend

A wait with a budget of nothing begins with its budget unspent, so it asks a first question. The next
pass finds the budget spent if any time has passed, and what passes is the time that the answer took
and the pause after it. So such a wait asks just once – unless the answer left it open and neither of
the two took any time. Then the next pass finds everything as the first did, and asks again, for as
long as time stands still.

With a pause between two questions there is no such corner, and then a budget of nothing does mean a
single question, on every source.
-/

namespace ResourceWait

variable {S R E : Type} [Resource R]

/-- **What a wait ends with that asks a single question** on a budget of nothing: what the answer
settles, or else a timeout on what it showed. -/
def Goal.outcomeOf (goal : Goal) (question : Question R E) : Except (WaitError R E) R :=
  match goal.verdict question.handle question.answer with
  | .settled _ outcome => outcome
  | .unsettled _ newest => .error (goal.timeoutError (some .zero) newest)

/-- An answer that settles the wait decides what a single question ends with. -/
theorem Goal.outcomeOf_of_settled {goal : Goal} {question : Question R E} {entries : List LogEntry}
    {outcome : Except (WaitError R E) R}
    (h : goal.verdict question.handle question.answer = .settled entries outcome) :
    goal.outcomeOf question = outcome := by
  unfold outcomeOf
  rw [h]

/-- After an answer that leaves the wait open there is nothing but the timeout. -/
theorem Goal.outcomeOf_of_unsettled {goal : Goal} {question : Question R E}
    {entries : List LogEntry} {newest : R}
    (h : goal.verdict question.handle question.answer = .unsettled entries newest) :
    goal.outcomeOf question = .error (goal.timeoutError (some .zero) newest) := by
  unfold outcomeOf
  rw [h]

/-- **A wait asks just once** and returns what becomes of that on a budget of nothing. -/
structure AsksOnce (goal : Goal) (question : Question R E) (run : WaitRun S R E) : Prop where
  /-- It asks this question and no other. -/
  asks : questions run.events = [question]
  /-- It returns what the answer settles, or times out. -/
  returns : ∃ later, run.result = some (goal.outcomeOf question, later)

variable {source : Source S R E} {goal : Goal} {pace : Pace} {fuel : Nat}
variable {handle : R} {clock : Clock} {s : S} {run : WaitRun S R E}

omit [Resource R] in
/-- A budget of nothing is spent in the second pass if the answer or the pause took any time. -/
theorem isSpent_second_iff (hbudget : pace.timeout = some .zero) :
    pace.isSpent ((source.later handle clock s).wake pace.interval - clock.now) = true
      ↔ 0 < pace.lap
        ∨ (source.question handle clock.now s).start < (source.question handle clock.now s).stop := by
  have hwake : (source.later handle clock s).wake pace.interval
      = (source.question handle clock.now s).stop + pace.lap := by
    rw [← source.later_now]
    rfl
  have hpassed (start stop lap : Nat) (hle : start ≤ stop) :
      0 < stop + lap - start ↔ 0 < lap ∨ start < stop := by
    omega
  rw [Pace.isSpent_iff hbudget, hwake]
  exact hpassed clock.now _ pace.lap (source.start_le_stop handle clock.now s)

namespace Course

/-- A pass that begins with the budget spent is the last. -/
theorem eq_of_isSpent {start : Instant}
    (course : Course source goal pace start (fuel + 1) handle clock s run)
    (spent : pace.isSpent (clock.now - start) = true) :
    run = ⟨[.log ((goal.timeoutNotice handle).about handle)],
      some (.error (goal.timeoutError pace.timeout handle), clock), s⟩ :=
  course.execute_eq.symm.trans (Course.timedOut spent).execute_eq

/-- **On a budget of nothing a wait asks just once** exactly if an answer that leaves it open takes
time, or the pause after it does. -/
theorem asksOnce_iff (course : Course source goal pace clock.now (fuel + 2) handle clock s run)
    (hbudget : pace.timeout = some .zero) (hclock : clock.token = none) :
    AsksOnce goal (source.question handle clock.now s) run
      ↔ ∀ newest, (source.question handle clock.now s).answer = .ok (.found newest) →
        goal.Pending newest → 0 < pace.lap
          ∨ (source.question handle clock.now s).start
            < (source.question handle clock.now s).stop := by
  cases course with
  | timedOut spent =>
    rw [Nat.sub_self, pace.isSpent_zero] at spent
    exact absurd spent Bool.false_ne_true
  | settled _ verdict =>
    refine iff_of_true ⟨by simp, source.later handle clock s, ?_⟩ fun newest hanswer hpending => ?_
    · rw [Goal.outcomeOf_of_settled verdict]
    · obtain ⟨entries, hopen⟩ := Goal.verdict_of_pending (E := E) hpending handle
      rw [← hanswer, verdict] at hopen
      cases hopen
  | cancelled _ _ cut =>
    rw [Clock.interruption?_of_token_eq_none (Source.later_token_eq_none hclock handle s)] at cut
    cases cut
  | @again _ _ newer _ _ _ _ _ verdict _ rest =>
    obtain ⟨hanswer, hpending⟩ := Goal.pending_of_verdict verdict
    cases hspent : pace.isSpent ((source.later handle clock s).wake pace.interval - clock.now) with
    | true =>
      refine iff_of_true ?_ fun _ _ _ => (isSpent_second_iff hbudget).mp hspent
      obtain rfl := rest.eq_of_isSpent hspent
      refine ⟨by rw [questions_behind]; rfl, { source.later handle clock s with
        now := (source.later handle clock s).wake pace.interval }, ?_⟩
      rw [Goal.outcomeOf_of_unsettled verdict, ← hbudget]
      rfl
    | false =>
      -- no time has passed, so the second pass asks as the first did
      have hhead := rest.head?_questions hspent
      refine iff_of_false (fun once => ?_) fun htime => ?_
      · have hasks := once.asks
        rw [questions_behind] at hasks
        rw [(List.cons.inj hasks).2] at hhead
        cases hhead
      · rw [(isSpent_second_iff hbudget).mpr (htime newer hanswer hpending)] at hspent
        cases hspent

end Course

/-- A wait that begins now on a budget of nothing asks just once, unless time stands still. -/
theorem asksOnce_pollFromNow_iff (source : Source S R E) (goal : Goal)
    (hbudget : pace.timeout = some .zero) (hfuel : 2 ≤ fuel) (resource : R)
    (hclock : clock.token = none) (s : S) :
    AsksOnce goal (source.question resource clock.now s)
        ((Routine.pollFromNow source goal pace fuel resource).execute clock s)
      ↔ ∀ newest, (source.question resource clock.now s).answer = .ok (.found newest) →
        goal.Pending newest → 0 < pace.lap
          ∨ (source.question resource clock.now s).start
            < (source.question resource clock.now s).stop := by
  obtain ⟨passes, rfl⟩ := Nat.exists_eq_add_of_le' hfuel
  exact (course_pollFromNow source goal pace (passes + 2) resource clock s).asksOnce_iff hbudget hclock

open Routine in
/-- **A budget of nothing means a single question** exactly where time passes: if the answer leaves the
wait open, it has taken some time, or the pause after it does. So it is of waits for a status that the
resource is not in yet, and of waits for a deletion; only a resource without a status is refused, with
no question at all. -/
theorem zeroBudget_asksOnce_iff (source : Source S R E) (hbudget : pace.timeout = some .zero)
    (hfuel : 2 ≤ fuel) (resource : R) (hclock : clock.token = none) (s : S) :
    let question := source.question resource clock.now s
    (∀ (target : String) (failures : List String),
      let run := (waitForStatus source target failures pace fuel resource).execute clock s
      (Resource.status resource = none →
        run = ⟨[], some (.error (.misuse (Resource.kind R)), clock), s⟩)
      ∧ ∀ status, Resource.status resource = some status → Status.agree status target = false →
        (AsksOnce (.status target failures) question run
          ↔ ∀ newest, question.answer = .ok (.found newest) →
            (Goal.status target failures).Pending newest →
              0 < pace.lap ∨ question.start < question.stop))
    ∧ (AsksOnce .deletion question ((waitForDelete source pace fuel resource).execute clock s)
        ↔ ∀ newest, question.answer = .ok (.found newest) →
          0 < pace.lap ∨ question.start < question.stop) := by
  intro question
  refine ⟨fun target failures => ⟨fun hnone => ?_, fun status hstatus hagree => ?_⟩, ?_⟩
  · rw [waitForStatus_eq_misuse hnone, execute_pure]
  · rw [waitForStatus_eq_pollFromNow hstatus hagree]
    exact asksOnce_pollFromNow_iff source _ hbudget hfuel resource hclock s
  · -- while a deletion is waited for, whatever is shown leaves the wait open
    rw [waitForDelete_eq_pollFromNow]
    refine (asksOnce_pollFromNow_iff source .deletion hbudget hfuel resource hclock s).trans ?_
    exact forall₂_congr fun _ _ => true_imp_iff

open Routine in
/-- With the usual pause a wait on a budget of nothing for a volume that stays as it is asks once. -/
theorem zeroBudget_asksOnce_iff_paused :
    let creating : Volume := { id := "vol-1", status := "creating" }
    let script := Script.empty.thenFound creating
    let pace : Pace := { timeout := some .zero }
    let run := (waitForStatus Script.source "available" ["error"] pace 2 creating).execute ⟨0, none⟩
      script
    pace.timeout = some .zero ∧ 2 ≤ 2 ∧ (⟨0, none⟩ : Clock).token = none
      ∧ Status.agree "creating" "available" = false
      ∧ AsksOnce (.status "available" ["error"]) (Script.source.question creating 0 script) run := by
  intro creating script pace run
  have hbudget : pace.timeout = some .zero := rfl
  have hclock : (⟨0, none⟩ : Clock).token = none := rfl
  have hlap : 0 < pace.lap := by decide
  have hagree : Status.agree "creating" "available" = false := by decide
  refine ⟨hbudget, Nat.le_refl 2, hclock, hagree, ?_⟩
  have hwait := (zeroBudget_asksOnce_iff Script.source hbudget (Nat.le_refl 2) creating hclock
    script).1 "available" ["error"]
  exact (hwait.2 "creating" rfl hagree).mpr fun _ _ _ => .inl hlap

open Routine in
/-- **Without a pause a budget of nothing does not mean a single question**, since nothing is spent
where no time passes. A volume is asked about twice and found available, or gone, the second time. -/
theorem zeroBudget_asksTwice :
    let creating : Volume := { id := "vol-1", status := "creating" }
    let available : Volume := { id := "vol-1", status := "available" }
    let once := Script.empty.thenFound creating
    let pace : Pace := { interval := .zero, timeout := some .zero }
    let run := (waitForStatus Script.source "available" ["error"] pace 3 creating).execute ⟨0, none⟩
      (once.thenFound available)
    let run' := (waitForDelete Script.source pace 3 creating).execute ⟨0, none⟩ once.thenNotFound
    (run.result = some (.ok available, ⟨0, none⟩) ∧ (questions run.events).length = 2
        ∧ ∀ question, ¬ AsksOnce (.status "available" ["error"]) question run)
      ∧ run'.result = some (.ok creating, ⟨0, none⟩) ∧ (questions run'.events).length = 2
        ∧ ∀ question, ¬ AsksOnce .deletion question run' := by
  intro creating available once pace run run'
  have hreached : run.result = some (.ok available, ⟨0, none⟩)
      ∧ (questions run.events).length = 2 := by
    subst run once pace creating available
    exact ⟨rfl, rfl⟩
  have hgone : run'.result = some (.ok creating, ⟨0, none⟩)
      ∧ (questions run'.events).length = 2 := by
    subst run' once pace creating
    exact ⟨rfl, rfl⟩
  refine ⟨⟨hreached.1, hreached.2, fun question h => ?_⟩, hgone.1, hgone.2, fun question h => ?_⟩
  · have hasked := hreached.2
    rw [h.asks] at hasked
    cases hasked
  · have hasked := hgone.2
    rw [h.asks] at hasked
    cases hasked

end ResourceWait
