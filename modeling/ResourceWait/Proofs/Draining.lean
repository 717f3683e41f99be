import Mathlib.Algebra.Ring.Nat
import ResourceWait.Proofs.Account
import ResourceWait.Proofs.Cancellation
import ResourceWait.Proofs.Termination
import ResourceWait.Proofs.Timekeeping
import ResourceWait.Resource.Probe

/-!
# Cancelled cleanups

A cleanup whose token is cancelled does not stop where it is. It goes through all the resources that
are left, asks once about each and does not wait for any of them, so its report is as long as ever.

For a single wait this is `Course.drainedFrom`. Nothing is slept and nothing is asked from the
cancellation on, except for the question that the wait begins with; and a wait that begins once the
token is cancelled ends with the answer to that. A cleanup passes its token on from wait to wait, so the
moment at which a wait sees it cancelled hangs on what was answered before and, as far as the whole run
is concerned, on what is answered later. That is why the law of a single wait speaks of the questions
that others ask behind it, and it is what `Attempt.Linked.drains` carries along the chain of attempts.

One moment has to be left out. A token that is cancelled where a sleep is over comes too late for that
sleep, and the wait asks once more.
-/

namespace ResourceWait

variable {S R E : Type}

/-! ### Waits around a cancellation -/

/-- How much of the time that some questions take falls after a moment. -/
def timeAfter (c : Instant) (asked : List (Question R E)) : Nat :=
  (asked.map fun question => question.stop - max question.start c).sum

@[simp] theorem timeAfter_nil (c : Instant) : timeAfter c ([] : List (Question R E)) = 0 := rfl

@[simp] theorem timeAfter_cons (c : Instant) (question : Question R E)
    (rest : List (Question R E)) :
    timeAfter c (question :: rest)
      = question.stop - max question.start c + timeAfter c rest := by
  rw [timeAfter, List.map_cons, List.sum_cons, timeAfter]

@[simp] theorem timeAfter_append (c : Instant) (before after : List (Question R E)) :
    timeAfter c (before ++ after) = timeAfter c before + timeAfter c after := by
  rw [timeAfter, List.map_append, List.sum_append, timeAfter, timeAfter]

/-- **Nobody wakes at a moment**: no pause that is slept to its end is over then. -/
def NoneWakesAt (pace : Pace) (c : Instant) (events : List (Event R E)) : Prop :=
  ∀ pause ∈ pauses events, pause.2 = pause.1 + pace.lap → pause.2 ≠ c

/-- What holds of events in a row holds of those before and of those after. -/
theorem noneWakesAt_append {pace : Pace} {c : Instant} {before after : List (Event R E)} :
    NoneWakesAt pace c (before ++ after)
      ↔ NoneWakesAt pace c before ∧ NoneWakesAt pace c after := by
  unfold NoneWakesAt
  rw [pauses_append]
  exact List.forall_mem_append

/-- **A run is drained** from a moment `c` on, where it began at `now`. -/
structure DrainedFrom (c now : Instant) (run : WaitRun S R E) : Prop where
  /-- No pause begins from then on, and none goes on after it. -/
  sleeps : ∀ pause ∈ pauses run.events, pause.1 < c ∧ pause.2 ≤ c
  /-- No question is asked from then on, except for one with which the run begins. -/
  asks : ∀ question ∈ questions run.events, question.start = now ∨ question.start < c
  /-- No question but the last is answered from then on. -/
  answered : ∀ question ∈ (questions run.events).dropLast, question.stop < c
  /-- As long as the run has not ended, all its questions are answered before. -/
  unended : run.result = none → ∀ question ∈ questions run.events, question.stop < c
  /-- It ends as soon as its questions are answered. -/
  ends : ∀ result later, run.result = some (result, later) →
    later.now ≤ max now c + timeAfter c (questions run.events)

variable [Resource R] {source : Source S R E} {pace : Pace} {fuel : Nat}

namespace Course

variable {goal : Goal} {start : Instant} {handle : R} {clock : Clock} {s : S} {run : WaitRun S R E}

/-- What is answered once a wait has ended is answered after it began, like its own questions. -/
theorem now_le_stop_append (course : Course source goal pace start fuel handle clock s run)
    {others : List (Question R E)}
    (hlate : ∀ question ∈ others, ∃ result later, run.result = some (result, later)
      ∧ later.now ≤ question.stop) :
    ∀ question ∈ questions run.events ++ others, clock.now ≤ question.stop := by
  intro question hmem
  obtain hown | hother := List.mem_append.mp hmem
  · exact course.now_le_stop question hown
  · obtain ⟨result, later, hresult, hle⟩ := hlate question hother
    exact Nat.le_trans (course.keepsTime.ends_after result later hresult).1 hle

/-- **A wait is drained from the cancellation on**, which may come with an answer to others once it has
ended, but not where one of its own pauses is over. -/
theorem drainedFrom (course : Course source goal pace start fuel handle clock s run) {token : Token}
    (htoken : clock.token = some token) {others : List (Question R E)}
    (hlate : ∀ question ∈ others, ∃ result later, run.result = some (result, later)
      ∧ later.now ≤ question.stop)
    {c : Instant}
    (hc : (source.tokenAfter token s (questions run.events ++ others)).since = some c)
    (hwakes : token.isCancelled clock.now = true ∨ NoneWakesAt pace c run.events) :
    DrainedFrom c clock.now run := by
  induction course generalizing token with
  | unfollowed =>
    refine ⟨by simp, by simp, by simp, by simp, ?_⟩
    rintro _ _ ⟨⟩
  | timedOut =>
    refine ⟨by simp, by simp, by simp, by simp, ?_⟩
    rintro _ _ ⟨⟩
    exact Nat.le_trans (Nat.le_max_left _ c) (Nat.le_add_right _ _)
  | @settled fuel handle clock s entries result unspent verdict =>
    refine ⟨by simp, by simp [Source.question], by simp, by simp, ?_⟩
    rintro _ _ ⟨⟩
    rw [Source.later_now, questions_event, questions_map_log, timeAfter_cons, timeAfter_nil,
      Nat.add_zero]
    exact Nat.sub_le_iff_le_add'.mp (Nat.le_refl _)
  | @cancelled fuel handle newer clock s entries moment unspent verdict cut =>
    obtain ⟨now, _⟩ := clock
    cases htoken
    have hlater := source.later_some handle now token s
    simp only [hlater] at cut hlate hc ⊢
    rw [questions_event, questions_append, questions_map_log, questions_slept] at hc
    have hothers : ∀ question ∈ others, moment ≤ question.stop := by
      intro question hmem
      obtain ⟨_, _, ⟨⟩, hle⟩ := hlate question hmem
      exact hle
    have hmoment := source.eq_or_le_of_interruption? hothers cut hc
    refine ⟨?_, by simp [Source.question], by simp, by simp, ?_⟩
    · rw [pauses_event, pauses_append, pauses_map_log, pauses_slept, List.nil_append]
      split
      · rename_i hslept
        have hle := hmoment.resolve_left (Nat.ne_of_gt hslept)
        exact List.forall_mem_singleton.mpr ⟨Nat.lt_of_lt_of_le hslept hle, hle⟩
      · simp
    · rintro _ _ ⟨⟩
      rw [questions_event, questions_append, questions_map_log, questions_slept, List.append_nil,
        timeAfter_cons, timeAfter_nil, Nat.add_zero]
      obtain hstop | hle := hmoment
      · exact hstop ▸ Nat.sub_le_iff_le_add'.mp (Nat.le_refl _)
      · exact Nat.le_trans hle (Nat.le_trans (Nat.le_max_right now c) (Nat.le_add_right _ _))
  | @again fuel handle newer clock s entries run unspent verdict uncut rest ih =>
    obtain ⟨now, _⟩ := clock
    cases htoken
    have hlater := source.later_some handle now token s
    simp only [hlater] at uncut rest ih ⊢
    -- the pause that was slept to its end was over before the cancellation
    have hwakes : NoneWakesAt pace c _ := hwakes.resolve_left fun hcancelled => by
      have hpast := source.isCancelled_tokenPast handle s hcancelled
      cases uncut.symm.trans (Clock.interruption?_of_isCancelled hpast _)
    simp only [NoneWakesAt, hlater, questions_behind, pauses_behind] at hc hwakes
    generalize hwake : (⟨(source.question handle now s).stop, some (source.tokenPast token s
      (source.question handle now s))⟩ : Clock).wake pace.interval = wake at *
    have hlap : wake = (source.question handle now s).stop + pace.lap := hwake.symm
    have hne : wake ≠ c := hwakes _ List.mem_cons_self hlap
    obtain ⟨hstop, hle⟩ := source.lt_since_tokenAfter (hlap ▸ Nat.le_add_right _ _)
      (rest.now_le_stop_append hlate) uncut hc
      (.inr fun heq => hne (Prod.mk.inj heq).2.symm)
    have hbefore : wake < c := Nat.lt_of_le_of_ne hle hne
    have drained := ih rfl hlate hc
      (.inr fun pause hmem => hwakes pause (List.mem_cons_of_mem _ hmem))
    refine ⟨?_, ?_, ?_, ?_, ?_⟩
    · rw [pauses_behind]
      exact List.forall_mem_cons.mpr ⟨⟨hstop, hle⟩, drained.sleeps⟩
    · rw [questions_behind]
      refine List.forall_mem_cons.mpr ⟨.inl rfl, fun question hmem => .inr ?_⟩
      obtain hstart | hstart := drained.asks question hmem
      · exact hstart ▸ hbefore
      · exact hstart
    · rw [questions_behind]
      intro question hmem
      cases hrest : questions run.events with
      | nil =>
        rw [hrest] at hmem
        cases hmem
      | cons next others' =>
        rw [hrest, List.dropLast_cons_cons, ← hrest] at hmem
        obtain rfl | hmem := List.mem_cons.mp hmem
        · exact hstop
        · exact drained.answered question hmem
    · intro hnone
      rw [questions_behind]
      exact List.forall_mem_cons.mpr ⟨hstop, drained.unended hnone⟩
    · intro result later hresult
      rw [questions_behind, timeAfter_cons]
      calc later.now ≤ max wake c + timeAfter c (questions run.events) :=
            drained.ends result later hresult
        _ = c + timeAfter c (questions run.events) := by rw [Nat.max_eq_right hle]
        _ ≤ _ := Nat.add_le_add (Nat.le_max_right _ _) (Nat.le_add_left _ _)

/-- **A wait that does not end has not got to the cancellation**: it was followed for fewer passes than
pauses fit into the time up to there. -/
theorem lap_lt_of_unended {c : Instant}
    (course : Course source goal pace start fuel handle clock s run)
    (drained : DrainedFrom c clock.now run) (hfuel : 0 < fuel) (hnone : run.result = none) :
    clock.now + (fuel - 1) * pace.lap < c := by
  have hlength := course.length_questions_of_result_eq_none hnone
  have hlast : fuel - 1 < (questions run.events).length := by
    rw [hlength]
    exact Nat.sub_one_lt_of_lt hfuel
  have hmem := List.getElem_mem hlast
  calc clock.now + (fuel - 1) * pace.lap
      ≤ (questions run.events)[fuel - 1].start :=
        course.laps_le_start _ _ (List.getElem?_eq_getElem hlast)
    _ ≤ (questions run.events)[fuel - 1].stop := course.answers.start_le_stop _ hmem
    _ < c := drained.unended hnone _ hmem

end Course

/-! ### Waits whose token is cancelled already -/

namespace Question

/-- What a wait for a deletion ends with that asks just this one question. -/
def onlyVerdict (question : Question R E) : Except (WaitError R E) R :=
  match question.answer with
  | .ok .notFound => .ok question.handle
  | .ok (.found newest) => .error (.ofCancelled newest)
  | .error e => .error (.fetch e)

/-- It is the verdict on the answer, if there is one. -/
theorem onlyVerdict_of_settled {question : Question R E} {entries : List LogEntry}
    {result : Except (WaitError R E) R}
    (h : Goal.deletion.verdict question.handle question.answer = .settled entries result) :
    question.onlyVerdict = result := by
  obtain ⟨handle, start, stop, e | shown | _⟩ := question
  · cases h
    rfl
  · cases h
  · cases h
    rfl

/-- If there is none, the wait is cancelled. -/
theorem onlyVerdict_of_unsettled {question : Question R E} {entries : List LogEntry} {newer : R}
    (h : Goal.deletion.verdict question.handle question.answer = .unsettled entries newer) :
    question.onlyVerdict = .error (.ofCancelled newer) := by
  unfold onlyVerdict
  rw [(Goal.pending_of_verdict h).1]

/-- **The entry of a resource about which there was one question only**: whether it is gone, or else
why that is not known. -/
def entry [ToString E] (question : Question R E) (id : String) : CleanupReport :=
  match question.answer with
  | .ok .notFound => .ofDeleted id
  | .ok (.found newest) =>
    .ofFailed id ("Wait for " ++ Resource.kind R ++ " " ++ Resource.id newest ++ " was cancelled")
  | .error e => .ofFailed id (toString e)

/-- It is what a cleanup reports of a wait that asks just this one question. -/
theorem entry_eq [ToString E] (question : Question R E) (id : String) :
    question.entry id = match question.onlyVerdict with
      | .ok _ => .ofDeleted id
      | .error error => .ofFailed id error.message := by
  obtain ⟨handle, start, stop, e | shown | _⟩ := question
  · rfl
  · rfl
  · rfl

end Question

/-- **A wait whose token is cancelled already ends with the one answer that it gets.** -/
theorem Course.ends_of_isCancelled {resource : R} {now : Instant} {token : Token} {s : S}
    {run : WaitRun S R E}
    (course : Course source .deletion pace now (fuel + 1) resource ⟨now, some token⟩ s run)
    (h : token.isCancelled now = true) :
    ∃ later, run.result = some ((source.question resource now s).onlyVerdict, later)
      ∧ later.now = (source.question resource now s).stop := by
  have unspent : pace.isSpent (now - now) = false := by simp
  have hcut := Clock.interruption?_of_isCancelled (source.isCancelled_tokenPast resource s h)
    ((source.question resource now s).stop + pace.lap)
  cases course with
  | timedOut spent => cases unspent.symm.trans spent
  | settled _ verdict =>
    rw [Question.onlyVerdict_of_settled verdict]
    exact ⟨_, rfl, source.later_now _ _ _⟩
  | cancelled _ verdict cut =>
    rw [source.later_some] at cut ⊢
    cases cut.symm.trans hcut
    rw [Question.onlyVerdict_of_unsettled verdict]
    exact ⟨_, rfl, rfl⟩
  | again _ _ uncut =>
    rw [source.later_some] at uncut
    cases uncut.symm.trans hcut

/-! ### Attempts around a cancellation -/

namespace Attempt

/-- A wait begins once its token is cancelled. -/
def BeginsCancelled (attempt : Attempt source pace fuel) : Prop :=
  ∃ token, attempt.clock.token = some token ∧ token.isCancelled attempt.clock.now = true

/-- The question that a wait begins with. -/
def first (attempt : Attempt source pace fuel) : Question R E :=
  source.question attempt.resource attempt.clock.now attempt.state

variable [ToString E]

/-- **A deletion is asked about once**, and what is reported of it is what the answer says. -/
structure IsAskedOnce (attempt : Attempt source pace fuel) : Prop where
  /-- There is one question. -/
  questions_eq : questions attempt.run.events = [attempt.first]
  /-- There is no pause. -/
  pauses_eq : pauses attempt.run.events = []
  /-- The wait is over when it is answered. -/
  later_eq : attempt.later.now = attempt.first.stop
  /-- Its entry is that of the answer. -/
  report_eq : attempt.report = attempt.first.entry (Resource.id attempt.resource)

/-- **An attempt is drained** by a cancellation at `c`. -/
structure Drains (attempt : Attempt source pace fuel) (c : Instant) : Prop where
  /-- Nothing is slept and nothing is asked from then on, except for the first question. -/
  drained : DrainedFrom c attempt.clock.now attempt.run
  /-- A wait that begins once the token is cancelled begins then or later, and asks once. -/
  afterwards : attempt.BeginsCancelled → c ≤ attempt.clock.now ∧ attempt.IsAskedOnce
  /-- Any other wait begins no later. -/
  before : ¬ attempt.BeginsCancelled → attempt.clock.now ≤ c

/-- **A deletion whose wait begins once the token is cancelled is asked about once.** -/
theorem isAskedOnce_of_beginsCancelled (attempt : Attempt source pace fuel) (hfuel : 0 < fuel)
    (h : attempt.BeginsCancelled) : attempt.IsAskedOnce := by
  obtain ⟨fuel, rfl⟩ := Nat.exists_eq_add_of_lt hfuel
  obtain ⟨resource, ⟨now, _⟩, state, result, later, ended⟩ := attempt
  obtain ⟨token, rfl, hcancelled⟩ := h
  have course := course_waitForDelete source pace (0 + fuel + 1) resource ⟨now, some token⟩ state
  obtain ⟨hquestions, hpauses⟩ := course.questions_of_isCancelled (by simp) hcancelled
  obtain ⟨later', hresult, hlater⟩ := course.ends_of_isCancelled hcancelled
  obtain ⟨rfl, rfl⟩ := Prod.mk.inj (Option.some.inj (ended.symm.trans hresult))
  refine ⟨hquestions, hpauses, hlater, ?_⟩
  rw [Question.entry_eq]
  rfl

variable {attempts : List (Attempt source pace fuel)} {clock later : Clock} {s last : S}

namespace Linked

/-- A chain of attempts ends after it began. -/
theorem now_le (linked : Linked clock s attempts later last) : clock.now ≤ later.now := by
  have keeps := Routine.KeepsTime.waitForDeletions source pace fuel (attempts.map (·.resource)) clock s
  rw [linked.execute_eq] at keeps
  exact (keeps.ends_after _ _ rfl).1

/-- What is asked in a chain of attempts is answered before it ends. -/
theorem stop_le (linked : Linked clock s attempts later last) :
    ∀ question ∈ questions (attempts.flatMap events), question.stop ≤ later.now := by
  have keeps := Routine.KeepsTime.waitForDeletions source pace fuel (attempts.map (·.resource)) clock s
  rw [linked.execute_eq] at keeps
  exact (keeps.ends_after _ _ rfl).2

/-- What is answered in a chain of attempts, or when it is over, is answered after it began. -/
theorem now_le_stop (linked : Linked clock s attempts later last) {others : List (Question R E)}
    (hlate : ∀ question ∈ others, later.now ≤ question.stop) :
    ∀ question ∈ questions (attempts.flatMap events) ++ others, clock.now ≤ question.stop := by
  induction linked with
  | nil => simpa using hlate
  | cons first _ ih =>
    rw [List.flatMap_cons, questions_append, questions_events, List.append_assoc]
    exact first.course.now_le_stop_append fun question hmem =>
      ⟨_, _, first.ended, ih hlate question hmem⟩

/-- The questions of a chain of attempts are those its source is asked. -/
theorem answers (linked : Linked clock s attempts later last) :
    source.Answers s (questions (attempts.flatMap events)) last := by
  induction linked with
  | nil => exact .nil _
  | cons first _ ih =>
    rw [List.flatMap_cons, questions_append, questions_events]
    exact first.course.answers.append ih

/-- **A chain of attempts is drained from the cancellation on**, one attempt after the other. The
cancellation may come with an answer to others once the chain is over. -/
theorem drains (linked : Linked clock s attempts later last) (hfuel : 0 < fuel) {token : Token}
    (htoken : clock.token = some token) {others : List (Question R E)}
    (hlate : ∀ question ∈ others, later.now ≤ question.stop) {c : Instant}
    (hc : (source.tokenAfter token s (questions (attempts.flatMap events) ++ others)).since = some c)
    (hwakes : token.isCancelled clock.now = true ∨ NoneWakesAt pace c (attempts.flatMap events)) :
    (∀ attempt ∈ attempts, attempt.Drains c)
      ∧ later.token = some (source.tokenAfter token s (questions (attempts.flatMap events)))
      ∧ later.now ≤ max clock.now c + timeAfter c (questions (attempts.flatMap events)) := by
  induction linked generalizing token with
  | nil =>
    refine ⟨by simp, htoken, ?_⟩
    exact Nat.le_trans (Nat.le_max_left _ c) (Nat.le_add_right _ _)
  | @cons first rest later last linked ih =>
    rw [List.flatMap_cons, noneWakesAt_append] at hwakes
    rw [List.flatMap_cons, questions_append, questions_events] at hc ⊢
    rw [List.append_assoc] at hc
    -- for the first attempt, the questions of all that follow come when it is over
    have hbehind : ∀ question ∈ questions (rest.flatMap events) ++ others,
        ∃ result later, first.run.result = some (result, later) ∧ later.now ≤ question.stop :=
      fun question hmem => ⟨_, _, first.ended, linked.now_le_stop hlate question hmem⟩
    have drained := first.course.drainedFrom htoken hbehind hc
      (hwakes.imp_right fun h => by rw [NoneWakesAt, ← first.pauses_events]; exact h.1)
    have hcancelled := source.cancelled_cases (first.course.now_le_stop_append hbehind) hc
    have htoken' := first.course.token_eq_some htoken first.ended
    have hlater := (first.course.keepsTime.ends_after _ _ first.ended).1
    rw [first.course.answers.tokenAfter_append] at hc
    obtain ⟨hrest, htoken'', hends⟩ := ih htoken' hlate hc
      (hwakes.imp (fun h => source.isCancelled_tokenAfter h hlater _ _) (·.2))
    refine ⟨List.forall_mem_cons.mpr ⟨⟨drained, fun hbegins => ⟨?_, ?_⟩, fun hbegins => ?_⟩, hrest⟩,
      ?_, ?_⟩
    · obtain ⟨held, hheld, hyes⟩ := hbegins
      cases htoken.symm.trans hheld
      exact hcancelled.1 hyes
    · exact first.isAskedOnce_of_beginsCancelled hfuel hbegins
    · exact hcancelled.2 (eq_false_of_ne_true fun hyes => hbegins ⟨token, htoken, hyes⟩)
    · rw [htoken'', first.course.answers.tokenAfter_append]
    · rw [timeAfter_append, ← Nat.add_assoc]
      refine Nat.le_trans hends (Nat.add_le_add_right (Nat.max_le.mpr ⟨?_, ?_⟩) _)
      · exact drained.ends _ _ first.ended
      · exact Nat.le_trans (Nat.le_max_right _ c) (Nat.le_add_right _ _)

end Linked

/-- Nothing is slept in drained attempts from the cancellation on. -/
theorem sleeps_of_drains {c : Instant} (h : ∀ attempt ∈ attempts, attempt.Drains c) :
    ∀ pause ∈ pauses (attempts.flatMap events), pause.1 < c ∧ pause.2 ≤ c := by
  intro pause hmem
  rw [pauses, List.filterMap_flatMap] at hmem
  obtain ⟨attempt, hattempt, hpause⟩ := List.mem_flatMap.mp hmem
  exact (h attempt hattempt).drained.sleeps pause (attempt.pauses_events ▸ hpause)

end Attempt

/-! ### The whole cleanup -/

/-- **A cleanup is drained** by a cancellation at `c`: `run` is the cleanup of the resources that begins
with a clock and a state of the source. -/
structure CleanupDrains [ToString E] (source : Source S R E) (pace : Pace) (fuel : Nat)
    (resources : List R) (clock : Clock) (s : S) (c : Instant)
    (run : Run S (Event R E) (CleanupReport × Clock)) : Prop where
  /-- No pause begins from then on, and none goes on after it. -/
  sleeps : ∀ pause ∈ pauses run.events, pause.1 < c ∧ pause.2 ≤ c
  /-- It returns once it gets there: if an answer comes then or later, or if it is followed for as many
  passes as pauses fit into the time up to there, and one more. -/
  returns : (∃ question ∈ questions run.events, c ≤ question.stop)
      ∨ c ≤ clock.now + (fuel - 1) * pace.lap →
    ∃ report later, run.result = some (report, later)
  /-- Once there, it takes no more time than the answers that are still to come. -/
  ends : ∀ report later, run.result = some (report, later) →
    later.now ≤ max clock.now c + timeAfter c (questions run.events)
  /-- Every resource is waited for and has its one entry, and each of these waits is drained. -/
  accounts : ∀ report later, run.result = some (report, later) →
    report.deleted.length + report.failed.length = resources.length
      ∧ ∃ attempts : List (Attempt source pace fuel), attempts.map (·.resource) = resources
        ∧ Attempt.Linked clock s attempts later run.source
        ∧ run.events = attempts.flatMap Attempt.events
        ∧ report = Attempt.reportOf attempts
        ∧ ∀ attempt ∈ attempts, attempt.Drains c

namespace CleanupDrains

variable [ToString E] {clock : Clock} {s : S} {token : Token} {c : Instant}

/-- A cleanup that returns is drained. -/
theorem of_linked {attempts : List (Attempt source pace fuel)} {later : Clock} {last : S}
    (linked : Attempt.Linked clock s attempts later last) (hfuel : 0 < fuel)
    (htoken : clock.token = some token)
    (hc : source.cancellation? token s (attempts.flatMap Attempt.events) = some c)
    (hwakes : token.isCancelled clock.now = true
      ∨ NoneWakesAt pace c (attempts.flatMap Attempt.events)) :
    CleanupDrains source pace fuel (attempts.map (·.resource)) clock s c
      ⟨attempts.flatMap Attempt.events, some (Attempt.reportOf attempts, later), last⟩ := by
  have hlate : ∀ question ∈ ([] : List (Question R E)), later.now ≤ question.stop := by simp
  obtain ⟨hdrains, -, hends⟩ := linked.drains hfuel htoken hlate (by rwa [List.append_nil]) hwakes
  refine ⟨Attempt.sleeps_of_drains hdrains, fun _ => ⟨_, _, rfl⟩, ?_, ?_⟩
  · rintro _ _ ⟨⟩
    exact hends
  · rintro _ _ ⟨⟩
    refine ⟨?_, attempts, rfl, linked, rfl, rfl, hdrains⟩
    rw [Attempt.length_reportOf, List.length_map]

/-- A cleanup in which a wait does not end has not got to the cancellation, and is drained as far as it
is followed. -/
theorem of_unended {attempts : List (Attempt source pace fuel)} {between : Clock} {mid : S}
    (linked : Attempt.Linked clock s attempts between mid) (hfuel : 0 < fuel)
    (htoken : clock.token = some token) {resource : R} {wait : WaitRun S R E}
    (course : Course source .deletion pace between.now fuel resource between mid wait)
    (hwait : wait.result = none)
    (hc : source.cancellation? token s (attempts.flatMap Attempt.events ++ wait.events) = some c)
    (hwakes : token.isCancelled clock.now = true
      ∨ NoneWakesAt pace c (attempts.flatMap Attempt.events ++ wait.events)) (resources : List R) :
    CleanupDrains source pace fuel resources clock s c
      ⟨attempts.flatMap Attempt.events ++ wait.events, none, wait.source⟩ := by
  rw [Source.cancellation?, questions_append] at hc
  rw [noneWakesAt_append] at hwakes
  obtain ⟨hdrains, htoken', -⟩ := linked.drains hfuel htoken course.now_le_stop hc
    (hwakes.imp_right (·.1))
  rw [linked.answers.tokenAfter_append] at hc
  have hlate : ∀ question ∈ ([] : List (Question R E)), ∃ result later,
      wait.result = some (result, later) ∧ later.now ≤ question.stop := by simp
  have drained := course.drainedFrom htoken' hlate (by rwa [List.append_nil])
    (hwakes.imp (fun h => source.isCancelled_tokenAfter h linked.now_le _ _) (·.2))
  have hlap := course.lap_lt_of_unended drained hfuel hwait
  have hanswered : ∀ question ∈ questions (attempts.flatMap Attempt.events ++ wait.events),
      question.stop < c := by
    rw [questions_append]
    refine List.forall_mem_append.mpr ⟨fun question hmem => ?_, drained.unended hwait⟩
    calc question.stop ≤ between.now := linked.stop_le question hmem
      _ ≤ between.now + (fuel - 1) * pace.lap := Nat.le_add_right _ _
      _ < c := hlap
  refine ⟨?_, ?_, by simp, by simp⟩
  · rw [pauses_append]
    exact List.forall_mem_append.mpr ⟨Attempt.sleeps_of_drains hdrains, drained.sleeps⟩
  · rintro (⟨question, hmem, hle⟩ | hle)
    · exact absurd (hanswered question hmem) (Nat.not_lt_of_le hle)
    · exact absurd (Nat.lt_of_le_of_lt (Nat.add_le_add_right linked.now_le _) hlap)
        (Nat.not_lt_of_le hle)

end CleanupDrains

open Routine in
/-- **Cancelling a cleanup drains it.** From the cancellation on it does not sleep. The wait that is
going on then asks nothing more, each of those that follow asks once, and the report has an entry for
every resource, of which the one answer decides what it says. So the cleanup ends within the time that
these answers take. The token may be cancelled already when the cleanup begins, or at any later moment
but one at which a sleep is over. -/
theorem waitForDeletions_drains [ToString E] (source : Source S R E) (pace : Pace) {fuel : Nat}
    (hfuel : 0 < fuel) (resources : List R) (now : Instant) (token : Token) (s : S) {c : Instant}
    (hc : source.cancellation? token s
      ((waitForDeletions source pace fuel resources).execute ⟨now, some token⟩ s).events = some c)
    (hwakes : token.isCancelled now = true ∨ NoneWakesAt pace c
      ((waitForDeletions source pace fuel resources).execute ⟨now, some token⟩ s).events) :
    CleanupDrains source pace fuel resources ⟨now, some token⟩ s c
      ((waitForDeletions source pace fuel resources).execute ⟨now, some token⟩ s) := by
  obtain ⟨attempts, later, last, rfl, linked⟩
    | ⟨attempts, resource, rest, between, mid, -, linked, hwait, hrun⟩ :=
      Attempt.exists_linked_or_unended source pace fuel resources ⟨now, some token⟩ s
  · rw [linked.execute_eq] at hc hwakes ⊢
    exact .of_linked linked hfuel rfl hc hwakes
  · rw [hrun] at hc hwakes ⊢
    have course := course_waitForDelete source pace fuel resource between mid
    exact .of_unended linked hfuel rfl course hwait hc hwakes resources

open Routine in
/-- A token that is cancelled while the second question about the first of three probes is answered:
there is one more about each of the others, of which one is gone. -/
theorem waitForDeletions_drains_midway :
    let source : Source Nat Probe FetchError := ⟨fun handle _ asked => (match asked with
      | 1 => { answer := .ok (.found handle), delay := .ofSeconds 1, cancels := true }
      | 2 => { answer := .ok .notFound, delay := .ofSeconds 1 }
      | _ => { answer := .ok (.found handle), delay := .ofSeconds 1 }, asked + 1)⟩
    let resources : List Probe := [⟨"p", none⟩, ⟨"q", none⟩, ⟨"r", none⟩]
    let run := (waitForDeletions source {} 3 resources).execute ⟨0, some .fresh⟩ 0
    (source.cancellation? .fresh 0 run.events = some 4000000000
        ∧ NoneWakesAt {} 4000000000 run.events)
      ∧ CleanupDrains source {} 3 resources ⟨0, some .fresh⟩ 0 4000000000 run
      ∧ run.result = some (⟨["q"], [("p", "Wait for probe p was cancelled"),
        ("r", "Wait for probe r was cancelled")]⟩, ⟨6000000000, some ⟨some 4000000000⟩⟩) := by
  intro source resources run
  have hc : source.cancellation? .fresh 0 run.events = some 4000000000 := by
    subst run resources source
    rfl
  have hwakes : NoneWakesAt {} 4000000000 run.events := by
    subst run resources source
    unfold NoneWakesAt
    decide
  refine ⟨⟨hc, hwakes⟩, ?_, ?_⟩
  · exact waitForDeletions_drains source {} (Nat.succ_pos 2) resources 0 .fresh 0 hc (.inr hwakes)
  · subst run resources source
    rfl

end ResourceWait
