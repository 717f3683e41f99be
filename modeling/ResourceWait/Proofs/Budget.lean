import ResourceWait.Proofs.Course
import ResourceWait.Resource.Probe

/-!
# The budget of a wait

The budget is looked at only at the top of a pass, while time passes in questions and in pauses. So
a question can be answered, and a pause be over, long after the budget is spent, and the two have to
be kept apart: no question is *asked* once it is spent, and an answer that settles the wait counts
whenever it comes. By how much a wait overruns its budget is therefore what its last question and
the pause after it took.

The invariant is one sentence, carried along the course: whenever a question is asked, the budget is
not spent. The overrun follows from it, since a wait that times out has asked at the top of the pass
before.
-/

namespace ResourceWait

variable {S R E : Type}

variable [Resource R]

namespace Course

variable {source : Source S R E} {goal : Goal} {pace : Pace} {start : Instant} {fuel : Nat}
variable {handle : R} {clock : Clock} {s : S} {run : WaitRun S R E}

/-- **An answer that settles a wait ends it**, at the moment at which it comes. -/
theorem ends_of_settled (course : Course source goal pace start fuel handle clock s run) :
    ∀ question ∈ questions run.events, ∀ entries outcome,
      goal.verdict question.handle question.answer = .settled entries outcome →
        (questions run.events).getLast? = some question
        ∧ ∃ later, later.now = question.stop ∧ run.result = some (outcome, later) := by
  induction course with
  | unfollowed => simp
  | timedOut => simp
  | @settled _ handle clock s _ result _ verdict =>
    intro question hmem entries outcome hsettled
    obtain rfl : question = source.question handle clock.now s := by simpa using hmem
    obtain ⟨-, rfl⟩ := Verdict.settled.inj (verdict.symm.trans hsettled)
    exact ⟨by simp, _, source.later_now handle clock s, rfl⟩
  | @cancelled _ handle newer clock s _ _ _ verdict _ =>
    intro question hmem entries outcome hsettled
    obtain rfl : question = source.question handle clock.now s := by simpa using hmem
    cases verdict.symm.trans hsettled
  | @again _ handle newer clock s _ _ _ verdict _ _ ih =>
    rw [questions_behind]
    rintro question (_ | ⟨_, hmem⟩) entries outcome hsettled
    · cases verdict.symm.trans hsettled
    · obtain ⟨hlast, hend⟩ := ih question hmem entries outcome hsettled
      exact ⟨by rw [List.getLast?_cons, hlast]; rfl, hend⟩

/-- **After a pause that leaves some of the budget** a wait asks again, unless the token has ended
it. -/
theorem asks_again (course : Course source goal pace start fuel handle clock s run)
    {result : Except (WaitError R E) R} {later : Clock}
    (hresult : run.result = some (result, later)) :
    ∀ pause ∈ pauses run.events, pace.isSpent (pause.2 - start) = false →
      (∃ question ∈ questions run.events, question.start = pause.2)
        ∨ (∃ newest, result = .error (.ofCancelled newest)) ∧ later.now = pause.2 := by
  induction course with
  | unfollowed => cases hresult
  | timedOut => simp
  | settled => simp
  | @cancelled _ handle newer clock s _ moment _ _ _ =>
    cases hresult
    rw [pauses_event, pauses_append, pauses_map_log, pauses_slept, List.nil_append]
    split
    · rintro pause (_ | ⟨_, hmem⟩) _
      · exact .inr ⟨⟨newer, rfl⟩, rfl⟩
      · cases hmem
    · simp
  | @again fuel _ newer _ _ _ _ _ _ _ rest ih =>
    rw [questions_behind, pauses_behind]
    rintro pause (_ | ⟨_, hmem⟩) hunspent
    · -- the next pass begins where this pause ends
      cases fuel with
      | zero =>
        cases rest
        cases hresult
      | succ fuel =>
        have hnext := List.mem_of_head? (rest.head?_questions hunspent)
        exact .inl ⟨_, List.mem_cons_of_mem _ hnext, rfl⟩
    · obtain ⟨question, hquestion, hstart⟩ | hcancelled := ih hresult pause hmem hunspent
      · exact .inl ⟨question, List.mem_cons_of_mem _ hquestion, hstart⟩
      · exact .inr hcancelled

/-- **A wait times out** at the top of a pass, once a question and a pause have gone by since the
budget was last looked at – unless the course begins with it spent. -/
theorem last_of_isTimeout (course : Course source goal pace start fuel handle clock s run)
    {error : WaitError R E} {later : Clock} (hresult : run.result = some (.error error, later))
    (htimeout : error.isTimeout = true) :
    pace.isSpent (later.now - start) = true
      ∧ ((questions run.events = [] ∧ pauses run.events = [] ∧ later = clock)
        ∨ ∃ question, (questions run.events).getLast? = some question
          ∧ pace.isSpent (question.start - start) = false
          ∧ (pauses run.events).getLast? = some (question.stop, later.now)
          ∧ later.now = question.stop + pace.interval.slept.nanoseconds) := by
  induction course with
  | unfollowed => cases hresult
  | timedOut spent =>
    cases hresult
    exact ⟨spent, .inl ⟨rfl, rfl, rfl⟩⟩
  | settled _ verdict =>
    cases hresult
    rw [Goal.isTimeout_of_settled verdict] at htimeout
    exact absurd htimeout Bool.false_ne_true
  | cancelled _ _ _ =>
    cases hresult
    exact absurd htimeout Bool.false_ne_true
  | @again _ handle newer clock s _ _ unspent _ _ _ ih =>
    obtain ⟨hspent, h⟩ := ih hresult
    refine ⟨hspent, .inr ?_⟩
    rw [questions_behind, pauses_behind]
    obtain ⟨hquestions, hpauses, rfl⟩ | ⟨question, hquestion, hunspent, hpause, hlater⟩ := h
    · -- the pause of this pass is the one in which the budget ran out
      rw [hquestions, hpauses, Source.later_now]
      exact ⟨source.question handle clock.now s, rfl, unspent, rfl,
        congrArg (· + _) (source.later_now handle clock s)⟩
    · exact ⟨question, by rw [List.getLast?_cons, hquestion]; rfl, hunspent,
        by rw [List.getLast?_cons, hpause]; rfl, hlater⟩

end Course

/-- **A run keeps to its budget.** Elapsed time is counted from the clock that the wait
began with. -/
structure KeepsBudget (goal : Goal) (pace : Pace) (fuel : Nat) (resource : R) (clock : Clock)
    (run : WaitRun S R E) : Prop where
  /-- The first question is asked at once, whatever the budget. -/
  asksAtOnce : 0 < fuel → ∃ question, (questions run.events).head? = some question
    ∧ question.handle = resource ∧ question.start = clock.now
  /-- No question is asked once more time has passed than the budget holds. -/
  asksWithin : ∀ budget, pace.timeout = some budget → ∀ question ∈ questions run.events,
    clock.now ≤ question.start ∧ question.start - clock.now ≤ budget.nanoseconds
  /-- After a pause that does not exceed the budget, be it by nothing, a wait that ends has asked
  again, unless that pause was the one that the token ended. -/
  asksAgain : ∀ result later, run.result = some (result, later) → ∀ pause ∈ pauses run.events,
    (∀ budget, pace.timeout = some budget → pause.2 - clock.now ≤ budget.nanoseconds) →
      (∃ question ∈ questions run.events, question.start = pause.2)
        ∨ (∃ newest, result = .error (.cancelled (Resource.kind R) (Resource.id newest) newest))
          ∧ later.now = pause.2
  /-- An answer that settles the wait ends it when it comes, however late that is. -/
  settles : ∀ question ∈ questions run.events, ∀ entries outcome,
    goal.verdict question.handle question.answer = .settled entries outcome →
      (questions run.events).getLast? = some question
      ∧ ∃ later, later.now = question.stop ∧ run.result = some (outcome, later)
  /-- A timeout comes only under a finite budget, after a question and the whole pause behind it,
  and overruns the budget by no more than these two took. -/
  timesOut : ∀ error later, run.result = some (.error error, later) → error.isTimeout = true →
    ∃ budget question, pace.timeout = some budget
      ∧ (questions run.events).getLast? = some question
      ∧ (pauses run.events).getLast? = some (question.stop, later.now)
      ∧ later.now = question.stop + pace.interval.slept.nanoseconds
      ∧ budget.nanoseconds < later.now - clock.now
      ∧ later.now - clock.now
        ≤ budget.nanoseconds + (question.stop - question.start) + (later.now - question.stop)

/-- What began within the budget ends beyond it by no more than it took. -/
theorem overrun_le {begun asked answered woken budget : Nat} (hwithin : asked - begun ≤ budget)
    (hanswered : asked ≤ answered) (hslept : answered ≤ woken) :
    woken - begun ≤ budget + (answered - asked) + (woken - answered) := by
  omega

/-- A wait that begins now keeps to its budget. -/
theorem keepsBudget_pollFromNow (source : Source S R E) (goal : Goal) (pace : Pace) (fuel : Nat)
    (resource : R) (clock : Clock) (s : S) :
    KeepsBudget goal pace fuel resource clock
      ((Routine.pollFromNow source goal pace fuel resource).execute clock s) := by
  have course := course_pollFromNow source goal pace fuel resource clock s
  refine ⟨fun hfuel => ?_, fun budget hbudget question hmem => ?_,
    fun result later hresult pause hmem hwithin => ?_, course.ends_of_settled,
    fun error later hresult htimeout => ?_⟩
  · obtain ⟨fuel, rfl⟩ := Nat.exists_eq_add_of_lt hfuel
    exact ⟨_, course.head?_questions (by simp), rfl, rfl⟩
  · obtain ⟨hle, hunspent⟩ := course.isSpent_eq_false question hmem
    exact ⟨hle, Pace.le_of_isSpent_eq_false hbudget hunspent⟩
  · exact course.asks_again hresult pause hmem (Pace.isSpent_eq_false hwithin)
  · obtain ⟨hspent, h⟩ := course.last_of_isTimeout hresult htimeout
    obtain ⟨budget, hbudget, hlt⟩ := Pace.timeout_of_isSpent hspent
    obtain ⟨-, -, rfl⟩ | ⟨question, hquestion, hunspent, hpause, hlater⟩ := h
    · rw [Nat.sub_self] at hlt
      exact absurd hlt (Nat.not_lt_zero _)
    · have hmem := List.mem_of_getLast? hquestion
      have hwithin := Pace.le_of_isSpent_eq_false hbudget hunspent
      have hanswered := course.answers.start_le_stop question hmem
      have hslept : question.stop ≤ later.now := hlater ▸ Nat.le_add_right _ _
      exact ⟨budget, question, hbudget, hquestion, hpause, hlater, hlt,
        overrun_le hwithin hanswered hslept⟩

/-- A wait for a deletion keeps to its budget. -/
theorem keepsBudget_waitForDelete (source : Source S R E) (pace : Pace) (fuel : Nat) (resource : R)
    (clock : Clock) (s : S) :
    KeepsBudget .deletion pace fuel resource clock
      ((Routine.waitForDelete source pace fuel resource).execute clock s) := by
  rw [Routine.waitForDelete_eq_pollFromNow]
  exact keepsBudget_pollFromNow ..

open Routine in
/-- **Waits keep to their budget**: those for a status that the resource is not in yet, and those
for a deletion. -/
theorem waits_keepBudget (source : Source S R E) (target : String) (failures : List String)
    (pace : Pace) (fuel : Nat) (resource : R) (clock : Clock) (s : S) :
    (∀ status, Resource.status resource = some status → Status.agree status target = false →
      KeepsBudget (.status target failures) pace fuel resource clock
        ((waitForStatus source target failures pace fuel resource).execute clock s))
    ∧ KeepsBudget .deletion pace fuel resource clock
        ((waitForDelete source pace fuel resource).execute clock s) := by
  refine ⟨fun status hstatus hagree => ?_, keepsBudget_waitForDelete ..⟩
  rw [waitForStatus_eq_pollFromNow hstatus hagree]
  exact keepsBudget_pollFromNow ..

open Routine in
/-- A wait on a source whose first answer takes longer than the whole budget times out after the
pause that follows it. -/
theorem waits_keepBudget_slow :
    let source : Source Unit Probe FetchError :=
      ⟨fun handle _ s => ({ answer := .ok (.found handle), delay := .ofSeconds 3 }, s)⟩
    let pace : Pace := ⟨.ofSeconds 2, some (.ofSeconds 1)⟩
    let run := (waitForDelete source pace 2 ⟨"p", none⟩).execute ⟨0, none⟩ ()
    KeepsBudget .deletion pace 2 ⟨"p", none⟩ ⟨0, none⟩ run
      ∧ run.result = some (.error (.timeout "probe" "p" "deleted" none (.ofSeconds 1) ⟨"p", none⟩),
        ⟨5000000000, none⟩) := by
  refine ⟨?_, ?_⟩
  · exact (waits_keepBudget _ "ACTIVE" [] _ 2 _ ⟨0, none⟩ ()).2
  · rfl

end ResourceWait
