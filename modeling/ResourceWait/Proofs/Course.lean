import ResourceWait.Proofs.Transcript
import ResourceWait.Proofs.Verdict
import ResourceWait.Wait.Poll

/-!
# The course of a wait

What a wait can do in one pass, said once. At the top of a pass the budget may be spent. Else the
source is asked; its answer may settle the wait, or the token may cut the pause short that follows,
or the pause is slept to its end and the next pass begins where this one left off.

`Course` is the relation that says so, with one constructor for each way and the number of passes
that are followed as its index. `Course.execute_eq` and `course_execute` say that it holds of
exactly one run, the one that `Routine.poll` makes, and a wait for a deletion runs such a course with
that goal (`course_waitForDelete`). A law of all waits is therefore proved by induction on the course,
one case for each way a pass can go, and nothing below this module executes a loop again.
-/

namespace ResourceWait

variable {S R E : Type}

/-- A run with events before its own. -/
def Run.behind {Ev α : Type} (events : List Ev) (run : Run S Ev α) : Run S Ev α :=
  { run with events := events ++ run.events }

/-- Events before events before a run. -/
theorem Run.behind_behind {Ev α : Type} (before after : List Ev) (run : Run S Ev α) :
    (run.behind after).behind before = run.behind (before ++ after) := by
  simp [behind]

/-- What comes of running a wait. -/
abbrev WaitRun (S R E : Type) : Type :=
  Run S (Event R E) (Except (WaitError R E) R × Clock)

/-- The part of a pause that is slept when it is cut short at a moment. -/
def slept (now moment : Instant) : List (Event R E) :=
  if now < moment then [.pause now moment] else []

@[simp] theorem questions_slept (now moment : Instant) :
    questions (slept now moment : List (Event R E)) = [] := by
  unfold slept
  split <;> rfl

@[simp] theorem pauses_slept (now moment : Instant) :
    pauses (slept now moment : List (Event R E))
      = if now < moment then [(now, moment)] else [] := by
  unfold slept
  split <;> rfl

@[simp] theorem logged_slept (now moment : Instant) :
    logged (slept now moment : List (Event R E)) = [] := by
  unfold slept
  split <;> rfl

/-- A pass that leaves the wait open asks one question. -/
@[simp] theorem questions_behind (question : Question R E) (entries : List LogEntry)
    (start stop : Instant) (run : WaitRun S R E) :
    questions (run.behind (question.event :: (entries.map .log ++ [.pause start stop]))).events
      = question :: questions run.events := by
  simp [Run.behind]

/-- A pass that leaves the wait open sleeps through one pause. -/
@[simp] theorem pauses_behind (question : Question R E) (entries : List LogEntry)
    (start stop : Instant) (run : WaitRun S R E) :
    pauses (run.behind (question.event :: (entries.map .log ++ [.pause start stop]))).events
      = (start, stop) :: pauses run.events := by
  simp [Run.behind]

/-- A pass that leaves the wait open logs what its verdict says. -/
@[simp] theorem logged_behind (question : Question R E) (entries : List LogEntry)
    (start stop : Instant) (run : WaitRun S R E) :
    logged (run.behind (question.event :: (entries.map .log ++ [.pause start stop]))).events
      = entries ++ logged run.events := by
  simp [Run.behind]

/-- The clock when a source has answered. -/
def Source.later (source : Source S R E) (handle : R) (clock : Clock) (s : S) : Clock :=
  Routine.clockAfter clock (source.reply handle clock.now s)

/-- The clock shows when the question was answered. -/
@[simp] theorem Source.later_now (source : Source S R E) (handle : R) (clock : Clock) (s : S) :
    (source.later handle clock s).now = (source.question handle clock.now s).stop :=
  Routine.clockAfter_now _ _

/-- No answer brings a token. -/
theorem Source.later_token_eq_none {source : Source S R E} {clock : Clock}
    (h : clock.token = none) (handle : R) (s : S) : (source.later handle clock s).token = none := by
  unfold later Routine.clockAfter
  dsimp only
  split
  · show Option.map _ clock.token = none
    rw [h]
    rfl
  · exact h

variable [Resource R]

/-- **The course of a wait** that began at `start`, from the top of a pass on: the representation at
hand, the clock, the state of the source, and the run that follows. -/
inductive Course (source : Source S R E) (goal : Goal) (pace : Pace) (start : Instant) :
    (fuel : Nat) → R → Clock → S → WaitRun S R E → Prop
  /-- The wait is not followed any further. -/
  | unfollowed {handle : R} {clock : Clock} {s : S} :
    Course source goal pace start 0 handle clock s ⟨[], none, s⟩
  /-- The budget is spent. -/
  | timedOut {fuel : Nat} {handle : R} {clock : Clock} {s : S}
      (spent : pace.isSpent (clock.now - start) = true) :
    Course source goal pace start (fuel + 1) handle clock s
      ⟨[.log ((goal.timeoutNotice handle).about handle)],
        some (.error (goal.timeoutError pace.timeout handle), clock), s⟩
  /-- The answer settles the wait. -/
  | settled {fuel : Nat} {handle : R} {clock : Clock} {s : S} {entries : List LogEntry}
      {result : Except (WaitError R E) R} (unspent : pace.isSpent (clock.now - start) = false)
      (verdict : goal.verdict handle (source.question handle clock.now s).answer
        = .settled entries result) :
    Course source goal pace start (fuel + 1) handle clock s
      ⟨(source.question handle clock.now s).event :: entries.map .log,
        some (result, source.later handle clock s), source.touch handle clock.now s⟩
  /-- The answer leaves the wait open, and the token cuts the pause short. -/
  | cancelled {fuel : Nat} {handle newer : R} {clock : Clock} {s : S} {entries : List LogEntry}
      {moment : Instant} (unspent : pace.isSpent (clock.now - start) = false)
      (verdict : goal.verdict handle (source.question handle clock.now s).answer
        = .unsettled entries newer)
      (cut : (source.later handle clock s).interruption?
        ((source.later handle clock s).wake pace.interval) = some moment) :
    Course source goal pace start (fuel + 1) handle clock s
      ⟨(source.question handle clock.now s).event
          :: (entries.map .log ++ slept (source.later handle clock s).now moment),
        some (.error (.ofCancelled newer), { source.later handle clock s with now := moment }),
        source.touch handle clock.now s⟩
  /-- The answer leaves the wait open, and after the pause comes the next pass. -/
  | again {fuel : Nat} {handle newer : R} {clock : Clock} {s : S} {entries : List LogEntry}
      {run : WaitRun S R E} (unspent : pace.isSpent (clock.now - start) = false)
      (verdict : goal.verdict handle (source.question handle clock.now s).answer
        = .unsettled entries newer)
      (uncut : (source.later handle clock s).interruption?
        ((source.later handle clock s).wake pace.interval) = none)
      (rest : Course source goal pace start fuel newer
        { source.later handle clock s with
          now := (source.later handle clock s).wake pace.interval }
        (source.touch handle clock.now s) run) :
    Course source goal pace start (fuel + 1) handle clock s
      (run.behind ((source.question handle clock.now s).event
        :: (entries.map .log ++ [.pause (source.later handle clock s).now
          ((source.later handle clock s).wake pace.interval)])))

variable {source : Source S R E} {goal : Goal} {pace : Pace} {start : Instant}

omit [Resource R] in
/-- A pause that is cut short leaves behind what was slept of it. -/
theorem Routine.execute_pause_of_interruption?_eq_some {interval : Duration} {clock : Clock}
    {moment : Instant} (h : clock.interruption? (clock.wake interval) = some moment) (s : S) :
    (Routine.pause interval : Routine S (Event R E) Bool).execute clock s
      = ⟨slept clock.now moment, some (false, { clock with now := moment }), s⟩ := by
  unfold Routine.execute Routine.pause slept
  simp only [h]
  split <;> rfl

namespace Routine

/-- What a wait does once it has a verdict on an answer. -/
def proceed (source : Source S R E) (goal : Goal) (pace : Pace) (start : Instant) (fuel : Nat) :
    Verdict R E → Routine S (Event R E) (Except (WaitError R E) R)
  | .settled entries result => do
    log entries
    return result
  | .unsettled entries newer => do
    log entries
    if ← pause pace.interval then poll source goal pace start fuel newer
    else return .error (.ofCancelled newer)

/-- **A pass within the budget** asks the source and proceeds by its verdict on the answer. -/
theorem execute_poll_of_isSpent_eq_false {fuel : Nat} {handle : R} {clock : Clock}
    (unspent : pace.isSpent (clock.now - start) = false) (s : S) :
    (poll source goal pace start (fuel + 1) handle).execute clock s
      = ((proceed source goal pace start fuel
          (goal.verdict handle (source.question handle clock.now s).answer)).execute
            (source.later handle clock s) (source.touch handle clock.now s)).behind
          [(source.question handle clock.now s).event] := by
  have hevent : Event.fetch handle clock.now (source.later handle clock s).now
      (source.reply handle clock.now s).answer = (source.question handle clock.now s).event := by
    rw [Source.later, clockAfter_now]
    rfl
  rw [poll_succ, execute_bind]
  simp only [execute_now, unspent, Bool.false_eq_true, if_false, List.nil_append]
  rw [execute_bind, execute_fetch, ← hevent]
  change Run.behind _ _ = Run.behind _ _
  -- the loop tells a failure of the source apart before it judges, and the verdict does not
  refine congrArg (Run.behind _) ?_
  show Routine.execute _ (source.later handle clock s) (source.touch handle clock.now s) = _
  refine congrArg (fun routine => Routine.execute routine _ _) ?_
  show _ = proceed source goal pace start fuel
    (goal.verdict handle (source.fetch handle clock.now s).1.answer)
  cases (source.fetch handle clock.now s).1.answer with
  | error e => rfl
  | ok observation =>
    unfold Goal.verdict
    dsimp only
    cases goal.judge handle observation with
    | settled entries result => rfl
    | unsettled entries newer => rfl

end Routine

namespace Course

open Routine

/-- **A wait runs its course**: there is no other run than the one the course gives. -/
theorem execute_eq {fuel : Nat} {handle : R} {clock : Clock} {s : S} {run : WaitRun S R E}
    (course : Course source goal pace start fuel handle clock s run) :
    (poll source goal pace start fuel handle).execute clock s = run := by
  induction course with
  | unfollowed => rfl
  | timedOut spent =>
    rw [poll_succ, execute_bind]
    simp [spent]
  | settled unspent verdict =>
    rw [execute_poll_of_isSpent_eq_false unspent, verdict, proceed, execute_bind]
    simp [Run.behind]
  | cancelled unspent verdict cut =>
    rw [execute_poll_of_isSpent_eq_false unspent, verdict, proceed, execute_bind]
    simp [execute_bind, execute_pause_of_interruption?_eq_some cut, Run.behind]
  | again unspent verdict uncut _ ih =>
    rw [execute_poll_of_isSpent_eq_false unspent, verdict, proceed, execute_bind]
    simp [execute_bind, execute_pause_of_interruption?_eq_none uncut, ih, Run.behind]

end Course

/-- **Every wait has a course.** -/
theorem course_execute (source : Source S R E) (goal : Goal) (pace : Pace) (start : Instant)
    (fuel : Nat) (handle : R) (clock : Clock) (s : S) :
    Course source goal pace start fuel handle clock s
      ((Routine.poll source goal pace start fuel handle).execute clock s) := by
  induction fuel generalizing handle clock s with
  | zero => exact .unfollowed
  | succ fuel ih =>
    cases hspent : pace.isSpent (clock.now - start) with
    | true =>
      rw [(Course.timedOut hspent : Course source goal pace start (fuel + 1) _ _ s _).execute_eq]
      exact .timedOut hspent
    | false =>
      cases hverdict : goal.verdict handle (source.question handle clock.now s).answer with
      | settled entries result =>
        rw [(Course.settled hspent hverdict :
          Course source goal pace start (fuel + 1) _ _ _ _).execute_eq]
        exact .settled hspent hverdict
      | unsettled entries newer =>
        cases hcut : (source.later handle clock s).interruption?
            ((source.later handle clock s).wake pace.interval) with
        | some moment =>
          rw [(Course.cancelled hspent hverdict hcut :
            Course source goal pace start (fuel + 1) _ _ _ _).execute_eq]
          exact .cancelled hspent hverdict hcut
        | none =>
          have hrest := Course.again hspent hverdict hcut (ih newer _ _)
          rw [hrest.execute_eq]
          exact hrest

/-! ### What the questions of a wait are -/

/-- The questions of a wait are those its source is asked, and the answers the source's own. -/
theorem Course.answers {fuel : Nat} {handle : R} {clock : Clock} {s : S} {run : WaitRun S R E}
    (course : Course source goal pace start fuel handle clock s run) :
    source.Answers s (questions run.events) run.source := by
  induction course with
  | unfollowed => exact .nil _
  | timedOut => exact .nil _
  | @settled _ handle clock s =>
    simpa using Source.Answers.cons handle clock.now (.nil _)
  | @cancelled _ handle _ clock s =>
    simpa using Source.Answers.cons handle clock.now (.nil _)
  | @again _ handle _ clock _ _ _ _ _ _ _ ih =>
    rw [questions_behind]
    exact .cons handle clock.now ih

/-- A wait asks with what it was shown last. -/
theorem Course.chained {fuel : Nat} {handle : R} {clock : Clock} {s : S} {run : WaitRun S R E}
    (course : Course source goal pace start fuel handle clock s run) :
    Question.Chained handle (questions run.events) := by
  induction course with
  | unfollowed => trivial
  | timedOut => trivial
  | @settled _ handle clock s =>
    rw [questions_event, questions_map_log]
    exact Question.chained_singleton (source.question handle clock.now s)
  | @cancelled _ handle _ clock s =>
    rw [questions_event, questions_append, questions_map_log, questions_slept, List.nil_append]
    exact Question.chained_singleton (source.question handle clock.now s)
  | @again _ handle newer clock s _ _ _ verdict _ _ ih =>
    have hshown : (source.question handle clock.now s).shown? = some newer :=
      Question.shown?_eq_some_iff.mpr (Goal.pending_of_verdict verdict).1
    rw [questions_behind]
    refine ⟨rfl, ?_⟩
    rw [hshown]
    exact ih

/-- The first question of a wait is put with the resource at hand, at the top of the first pass. -/
theorem Course.head?_questions {fuel : Nat} {handle : R} {clock : Clock} {s : S}
    {run : WaitRun S R E} (course : Course source goal pace start (fuel + 1) handle clock s run)
    (unspent : pace.isSpent (clock.now - start) = false) :
    (questions run.events).head? = some (source.question handle clock.now s) := by
  cases course with
  | timedOut spent =>
    rw [unspent] at spent
    cases spent
  | settled => rfl
  | cancelled => rfl
  | again =>
    rw [questions_behind]
    rfl

/-- **No question is asked once the budget is spent**, nor before the pass begins. -/
theorem Course.isSpent_eq_false {fuel : Nat} {handle : R} {clock : Clock} {s : S}
    {run : WaitRun S R E} (course : Course source goal pace start fuel handle clock s run) :
    ∀ question ∈ questions run.events,
      clock.now ≤ question.start ∧ pace.isSpent (question.start - start) = false := by
  induction course with
  | unfollowed => simp
  | timedOut => simp
  | settled unspent => simpa using ⟨Nat.le_refl _, unspent⟩
  | cancelled unspent => simpa using ⟨Nat.le_refl _, unspent⟩
  | @again _ handle newer clock s _ _ unspent _ _ _ ih =>
    rw [questions_behind]
    rintro question (_ | ⟨_, hmem⟩)
    · exact ⟨Nat.le_refl _, unspent⟩
    · obtain ⟨hle, hspent⟩ := ih question hmem
      refine ⟨?_, hspent⟩
      calc clock.now ≤ (source.later handle clock s).now := by
            rw [Source.later_now]
            exact source.start_le_stop handle clock.now s
        _ ≤ (source.later handle clock s).wake pace.interval := Nat.le_add_right _ _
        _ ≤ question.start := hle

/-- **A wait asks at the top of a pass**: where its course begins, or where a pause ends. -/
theorem Course.asked_at_top {fuel : Nat} {handle : R} {clock : Clock} {s : S}
    {run : WaitRun S R E} (course : Course source goal pace start fuel handle clock s run) :
    ∀ question ∈ questions run.events,
      question.start = clock.now ∨ ∃ pause ∈ pauses run.events, pause.2 = question.start := by
  induction course with
  | unfollowed => simp
  | timedOut => simp
  | settled => simp [Source.question]
  | cancelled => simp [Source.question]
  | again _ _ _ _ ih =>
    rw [questions_behind, pauses_behind]
    rintro question (_ | ⟨_, hmem⟩)
    · exact .inl rfl
    · refine .inr ?_
      obtain hstart | ⟨pause, hpause, hstop⟩ := ih question hmem
      · exact ⟨_, List.mem_cons_self, hstart.symm⟩
      · exact ⟨pause, List.mem_cons_of_mem _ hpause, hstop⟩

/-- Every question of a wait but the first is asked where a pause ends. -/
theorem Course.asked_after_pause {fuel : Nat} {handle : R} {clock : Clock} {s : S}
    {run : WaitRun S R E} (course : Course source goal pace start fuel handle clock s run) :
    ∀ question ∈ (questions run.events).tail,
      ∃ pause ∈ pauses run.events, pause.2 = question.start := by
  cases course with
  | unfollowed => simp
  | timedOut => simp
  | settled => simp
  | cancelled => simp
  | again _ _ _ rest =>
    rw [questions_behind, pauses_behind, List.tail_cons]
    intro question hmem
    obtain hstart | ⟨pause, hpause, hstop⟩ := rest.asked_at_top question hmem
    · exact ⟨_, List.mem_cons_self, hstart.symm⟩
    · exact ⟨pause, List.mem_cons_of_mem _ hpause, hstop⟩

/-- A wait that holds no token does not get one. -/
theorem Course.token_eq_none {fuel : Nat} {handle : R} {clock : Clock} {s : S} {run : WaitRun S R E}
    (course : Course source goal pace start fuel handle clock s run) (hclock : clock.token = none)
    {result : Except (WaitError R E) R} {later : Clock}
    (hresult : run.result = some (result, later)) : later.token = none := by
  induction course with
  | unfollowed => cases hresult
  | timedOut =>
    cases hresult
    exact hclock
  | settled =>
    cases hresult
    exact Source.later_token_eq_none hclock _ _
  | cancelled =>
    cases hresult
    exact Source.later_token_eq_none hclock _ _
  | again _ _ _ _ ih => exact ih (Source.later_token_eq_none hclock _ _) hresult

/-! ### Where the course of a wait begins -/

/-- A wait that begins now runs the course that begins at its clock. -/
theorem course_pollFromNow (source : Source S R E) (goal : Goal) (pace : Pace) (fuel : Nat)
    (resource : R) (clock : Clock) (s : S) :
    Course source goal pace clock.now fuel resource clock s
      ((Routine.pollFromNow source goal pace fuel resource).execute clock s) := by
  rw [Routine.pollFromNow_eq, Routine.execute_bind]
  exact course_execute source goal pace clock.now fuel resource clock s

/-- A wait for a deletion begins to ask at once. -/
theorem course_waitForDelete (source : Source S R E) (pace : Pace) (fuel : Nat) (resource : R)
    (clock : Clock) (s : S) :
    Course source .deletion pace clock.now fuel resource clock s
      ((Routine.waitForDelete source pace fuel resource).execute clock s) := by
  rw [Routine.waitForDelete_eq_pollFromNow]
  exact course_pollFromNow source .deletion pace fuel resource clock s

section

variable {resource : R} {status target : String} {failures : List String} {fuel : Nat}

/-- A wait for a status of a resource that has none is a misuse. -/
theorem waitForStatus_eq_misuse (hnone : Resource.status resource = none) :
    Routine.waitForStatus source target failures pace fuel resource
      = pure (.error (.misuse (Resource.kind R))) := by
  simp only [Routine.waitForStatus, Routine.waitForStatusWith, hnone]

/-- A wait for the status that the resource is in already is over. -/
theorem waitForStatus_eq_pure (hstatus : Resource.status resource = some status)
    (hagree : Status.agree status target = true) :
    Routine.waitForStatus source target failures pace fuel resource = pure (.ok resource) := by
  simp only [Routine.waitForStatus, Routine.waitForStatusWith, hstatus, hagree, if_true]

/-- A wait for a status that the resource is not in yet asks from now on. -/
theorem waitForStatus_eq_pollFromNow (hstatus : Resource.status resource = some status)
    (hagree : Status.agree status target = false) :
    Routine.waitForStatus source target failures pace fuel resource
      = Routine.pollFromNow source (.status target failures) pace fuel resource := by
  simp only [Routine.waitForStatus, Routine.waitForStatusWith, hstatus, hagree, Bool.false_eq_true,
    if_false]
  rfl

end

/-- **A wait for a status is over at once or begins to ask now**, and which of the two it does hangs
on neither the failures nor the pace. -/
theorem waitForStatus_cases (source : Source S R E) (target : String) (resource : R) :
    (∃ result, ∀ failures pace fuel,
        Routine.waitForStatus source target failures pace fuel resource = pure result)
      ∨ ∀ failures pace fuel, Routine.waitForStatus source target failures pace fuel resource
        = Routine.pollFromNow source (.status target failures) pace fuel resource := by
  cases hstatus : Resource.status resource with
  | none =>
    exact .inl ⟨.error (.misuse (Resource.kind R)), fun _ _ _ => waitForStatus_eq_misuse hstatus⟩
  | some status =>
    cases hagree : Status.agree status target with
    | true =>
      exact .inl ⟨.ok resource, fun _ _ _ => waitForStatus_eq_pure hstatus hagree⟩
    | false => exact .inr fun _ _ _ => waitForStatus_eq_pollFromNow hstatus hagree

end ResourceWait
