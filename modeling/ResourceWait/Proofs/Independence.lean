import Mathlib.Algebra.Ring.Nat
import ResourceWait.Proofs.Foretold
import ResourceWait.Resource.Probe

/-!
# Waits that do not disturb each other

A wait asks about one id only, since what it is shown has the id that it asked about. So on a source
that replies by the tally a wait is foretold by its own run, alone and from any state in which its id
has the same tally: `Course.foretold`, along the course of that run. Waits for different ids that
begin together on one source are then independent, in whatever order they take their steps.

The waits may be for resources of different kinds. Each is a `Call`, with its own view of the shared
source and with the readings in which its events and its result go into the joint ones.
-/

namespace ResourceWait

open Strand

variable {S R E : Type} [Resource R]
variable {source : Source S R E} {goal : Goal} {pace : Pace} {start : Instant} {fuel : Nat}

namespace Routine

/-! ### A pass as a strand -/

/-- A pass that begins with the budget spent says so and ends. -/
theorem poll_of_isSpent {handle : R} {clock : Clock}
    (spent : pace.isSpent (clock.now - start) = true) :
    poll source goal pace start (fuel + 1) handle clock
      = .note (.log ((goal.timeoutNotice handle).about handle))
        (.finish (.error (goal.timeoutError pace.timeout handle), clock)) := by
  rw [poll_succ]
  show (if pace.isSpent (clock.now - start) = true then _ else _ : Routine S (Event R E) _) clock = _
  rw [if_pos spent]
  rfl

/-- A pass within the budget asks the source and proceeds by its verdict on the answer. -/
theorem poll_of_isSpent_eq_false {handle : R} {clock : Clock}
    (unspent : pace.isSpent (clock.now - start) = false) :
    poll source goal pace start (fuel + 1) handle clock
      = (fetch source handle clock).bind fun (answer, later) =>
        proceed source goal pace start fuel (goal.verdict handle answer) later := by
  rw [poll_succ]
  show (if pace.isSpent (clock.now - start) = true then _ else _ : Routine S (Event R E) _) clock = _
  rw [if_neg (by rw [unspent]; exact Bool.false_ne_true)]
  show (fetch source handle clock).bind _ = _
  refine congrArg ((fetch source handle clock).bind) (funext fun replied => ?_)
  obtain ⟨answer, later⟩ := replied
  show _ = proceed source goal pace start fuel (goal.verdict handle answer) later
  unfold Goal.verdict
  cases answer with
  | error e => rfl
  | ok observation =>
    dsimp only
    cases goal.judge handle observation <;> rfl

end Routine

namespace Strand.Foretold

variable {Ev α : Type} {After : Tally → S → Prop} {id : String} {n : Nat}

/-- A strand that does not ask is foretold by its run. -/
theorem of_due?_eq_none {strand : Strand S Ev α} (h : strand.due? = none) (s : S) :
    Foretold After id n strand ⟨(strand.run s).events, (strand.run s).result, 0⟩ := by
  induction strand with
  | finish value => exact .stopped n (some value)
  | halt => exact .stopped n none
  | note event rest ih => exact .note event (ih h)
  | ask => cases h

end Strand.Foretold

/-! ### Waits are foretold -/

section

variable {After : Tally → S → Prop}

omit [Resource R] in
/-- A log is foretold. -/
theorem foretold_log (id : String) (n : Nat) (entries : List LogEntry) (clock : Clock) :
    Foretold After id n (Routine.log entries clock : Strand S (Event R E) (Unit × Clock))
      ⟨entries.map .log, some ((), clock), 0⟩ := by
  induction entries with
  | nil => exact .stopped n (some ((), clock))
  | cons entry rest ih => exact .note (.log entry) ih

omit [Resource R] in
/-- A pause that is cut short is foretold. -/
theorem foretold_pause_cut (id : String) (n : Nat) {clock : Clock} {interval : Duration}
    {moment : Instant} (cut : clock.interruption? (clock.wake interval) = some moment) :
    Foretold After id n (Routine.pause interval clock : Strand S (Event R E) (Bool × Clock))
      ⟨slept clock.now moment, some (false, { clock with now := moment }), 0⟩ := by
  unfold Routine.pause slept
  simp only [cut]
  split
  · exact .note _ (.stopped n (some _))
  · exact .stopped n (some _)

omit [Resource R] in
/-- A pause that is slept to its end is foretold. -/
theorem foretold_pause_uncut (id : String) (n : Nat) {clock : Clock} {interval : Duration}
    (uncut : clock.interruption? (clock.wake interval) = none) :
    Foretold After id n (Routine.pause interval clock : Strand S (Event R E) (Bool × Clock))
      ⟨[.pause clock.now (clock.wake interval)], some (true, { clock with now := clock.wake interval }),
        0⟩ := by
  unfold Routine.pause
  simp only [uncut]
  exact .note _ (.stopped n (some _))

variable {table : String → Nat → Reply R E} {tally : Tally} {s : S}

/-- A wait that is left open goes on with a resource of the same id. -/
theorem Source.AnswersByTally.id_newer (answers : source.AnswersByTally After table) (after : After tally s) {handle newer : R}
    {now : Instant} {entries : List LogEntry}
    (verdict : goal.verdict handle (source.question handle now s).answer
      = .unsettled entries newer) : Resource.id newer = Resource.id handle := by
  have hanswer : (source.reply handle now s).answer = .ok (.found newer) :=
    (Goal.pending_of_verdict verdict).1
  rw [answers.answer_eq after handle now] at hanswer
  exact answers.keepsId hanswer

/-- A question is foretold by the one that is put in any state with the same tally of its id. -/
theorem foretold_fetch (replies : source.RepliesByTally After table) (after : After tally s)
    (handle : R) (clock : Clock) :
    Foretold After (Resource.id handle) (tally (Resource.id handle))
      (Routine.fetch source handle clock)
      ⟨[(source.question handle clock.now s).event],
        some ((source.question handle clock.now s).answer, source.later handle clock s), 1⟩ := by
  have moves : ∀ tally' s', After tally' s' →
      tally' (Resource.id handle) = tally (Resource.id handle) →
        After (tally'.asked (Resource.id handle)) (source.touch handle clock.now s') :=
    fun _ _ after' _ => replies.after_touch after' handle clock.now
  show Foretold After _ _ (.ask clock.now (source.touch handle clock.now) _)
    (Plan.asking (Plan.noting (source.question handle clock.now s).event (.stopped (some
      ((source.question handle clock.now s).answer, source.later handle clock s)))))
  refine .ask moves fun tally' s' after' hn => ?_
  have hreply : (source.fetch handle clock.now s').1 = source.reply handle clock.now s := by
    show source.reply handle clock.now s' = _
    rw [replies.reply_eq after', replies.reply_eq after, hn]
  have hevent : (.fetch handle clock.now
      (Routine.clockAfter clock (source.reply handle clock.now s)).now
      (source.reply handle clock.now s).answer : Event R E)
      = (source.question handle clock.now s).event := by
    rw [Routine.clockAfter_now]
    rfl
  dsimp only
  rw [hreply, hevent]
  exact .note _ (.stopped _ (some _))

/-- **A pass is foretold** by the question it asks and by what the answer makes of it. -/
theorem foretold_pass (replies : source.RepliesByTally After table) (after : After tally s)
    {handle : R} {clock : Clock} (unspent : pace.isSpent (clock.now - start) = false)
    {plan : Plan (Event R E) (Except (WaitError R E) R × Clock)}
    (hproceed : Foretold After (Resource.id handle) (tally (Resource.id handle) + 1)
      (Routine.proceed source goal pace start fuel
        (goal.verdict handle (source.question handle clock.now s).answer)
        (source.later handle clock s)) plan) :
    Foretold After (Resource.id handle) (tally (Resource.id handle))
      (Routine.poll source goal pace start (fuel + 1) handle clock)
      ⟨(source.question handle clock.now s).event :: plan.events, plan.result, plan.asks + 1⟩ := by
  rw [Routine.poll_of_isSpent_eq_false unspent]
  exact ((foretold_fetch replies after handle clock).bind rfl hproceed).cast
    (by simp [Plan.andThen, Nat.add_comm])

/-- **A wait is foretold** by its own run, from any state in which its id has the same tally. -/
theorem Course.foretold {handle : R} {clock : Clock} {run : WaitRun S R E}
    (course : Course source goal pace start fuel handle clock s run)
    (replies : source.RepliesByTally After table) (after : After tally s) :
    Foretold After (Resource.id handle) (tally (Resource.id handle))
      (Routine.poll source goal pace start fuel handle clock)
      ⟨run.events, run.result, (questions run.events).length⟩ := by
  induction course generalizing tally with
  | unfollowed => exact .stopped _ none
  | timedOut spent =>
    rw [Routine.poll_of_isSpent spent]
    exact .note _ (.stopped _ (some _))
  | @settled fuel handle clock s entries result unspent verdict =>
    have hsettled : Foretold After (Resource.id handle) (tally (Resource.id handle) + 1)
        (Routine.proceed source goal pace start fuel (.settled entries result)
          (source.later handle clock s)) _ :=
      (foretold_log _ _ entries _).bind rfl (.stopped _ (some (result, source.later handle clock s)))
    rw [← verdict] at hsettled
    exact (foretold_pass replies after unspent hsettled).cast (by simp [Plan.andThen, Plan.stopped])
  | @cancelled fuel handle newer clock s entries moment unspent verdict cut =>
    have hcut : Foretold After (Resource.id handle) (tally (Resource.id handle) + 1)
        (Routine.proceed source goal pace start fuel (.unsettled entries newer)
          (source.later handle clock s)) _ :=
      (foretold_log _ _ entries _).bind rfl ((foretold_pause_cut _ _ cut).bind rfl
        (.stopped _ (some (Except.error (WaitError.ofCancelled newer),
          { source.later handle clock s with now := moment }))))
    rw [← verdict] at hcut
    exact (foretold_pass replies after unspent hcut).cast (by simp [Plan.andThen, Plan.stopped])
  | @again fuel handle newer clock s entries run unspent verdict uncut rest ih =>
    have hrest := ih (replies.after_touch after handle clock.now)
    rw [replies.answersByTally.id_newer after verdict, Tally.asked_self] at hrest
    have hagain : Foretold After (Resource.id handle) (tally (Resource.id handle) + 1)
        (Routine.proceed source goal pace start fuel (.unsettled entries newer)
          (source.later handle clock s)) _ :=
      (foretold_log _ _ entries _).bind rfl ((foretold_pause_uncut _ _ uncut).bind rfl hrest)
    rw [← verdict] at hagain
    refine (foretold_pass replies after unspent hagain).cast ?_
    rw [questions_behind]
    simp [Plan.andThen, Run.behind]

/-- **The questions of a wait take the replies to its id in their order**, from the tally that it finds
on. -/
theorem Course.replies {handle : R} {clock : Clock} {run : WaitRun S R E}
    (course : Course source goal pace start fuel handle clock s run)
    (replies : source.RepliesByTally After table) (after : After tally s) :
    ∀ (j : Nat) (question : Question R E), (questions run.events)[j]? = some question →
      Resource.id question.handle = Resource.id handle
        ∧ question.answer = (table (Resource.id handle) (tally (Resource.id handle) + j)).answer
        ∧ question.stop = question.start
          + (table (Resource.id handle) (tally (Resource.id handle) + j)).delay.nanoseconds := by
  have first : ∀ {handle : R} {clock : Clock} {s : S} {tally : Tally}, After tally s →
      ∀ question, some (source.question handle clock.now s) = some question →
        Resource.id question.handle = Resource.id handle
          ∧ question.answer = (table (Resource.id handle) (tally (Resource.id handle))).answer
          ∧ question.stop = question.start
            + (table (Resource.id handle) (tally (Resource.id handle))).delay.nanoseconds := by
    rintro handle clock s tally after _ ⟨⟩
    rw [← replies.reply_eq after handle clock.now]
    exact ⟨rfl, rfl, rfl⟩
  induction course generalizing tally with
  | unfollowed => simp
  | timedOut => simp
  | @settled _ handle clock s =>
    rintro (_ | j) question hj
    · exact first after question (by simpa using hj)
    · simp at hj
  | @cancelled _ handle newer clock s =>
    rintro (_ | j) question hj
    · exact first after question (by simpa using hj)
    · simp at hj
  | @again _ handle newer clock s _ _ _ verdict _ _ ih =>
    rw [questions_behind]
    rintro (_ | j) question hj
    · exact first after question hj
    · have hrest := ih (replies.after_touch after handle clock.now) j question hj
      rw [replies.answersByTally.id_newer after verdict, Tally.asked_self] at hrest
      rwa [Nat.succ_add_eq_add_succ] at hrest

/-- The wait for a goal. -/
def Routine.waitFor (source : Source S R E) (goal : Goal) (pace : Pace) (fuel : Nat) (resource : R) :
    Routine S (Event R E) (Except (WaitError R E) R) :=
  match goal with
  | .status target failures => waitForStatus source target failures pace fuel resource
  | .deletion => waitForDelete source pace fuel resource

/-- A wait that is not over at once begins to ask now. -/
theorem waitFor_cases (source : Source S R E) (goal : Goal) (pace : Pace) (fuel : Nat) (resource : R) :
    (∃ result, Routine.waitFor source goal pace fuel resource = pure result)
      ∨ Routine.waitFor source goal pace fuel resource
        = Routine.pollFromNow source goal pace fuel resource := by
  cases goal with
  | deletion => exact .inr (Routine.waitForDelete_eq_pollFromNow ..)
  | status target failures =>
    obtain ⟨result, hwait⟩ | hwait := waitForStatus_cases source target resource
    · exact .inl ⟨result, hwait failures pace fuel⟩
    · exact .inr (hwait failures pace fuel)

/-- Every wait is foretold by its run. -/
theorem foretold_waitFor (replies : source.RepliesByTally After table) (after : After tally s)
    (resource : R) (clock : Clock) :
    Foretold After (Resource.id resource) (tally (Resource.id resource))
      (Routine.waitFor source goal pace fuel resource clock)
      ⟨((Routine.waitFor source goal pace fuel resource).execute clock s).events,
        ((Routine.waitFor source goal pace fuel resource).execute clock s).result,
        (questions
          ((Routine.waitFor source goal pace fuel resource).execute clock s).events).length⟩ := by
  obtain ⟨result, hresult⟩ | hpoll := waitFor_cases source goal pace fuel resource
  · rw [hresult]
    exact .stopped _ (some (result, clock))
  · rw [hpoll]
    exact (course_pollFromNow source goal pace fuel resource clock s).foretold replies after

/-- The questions of every wait take the replies to its id in their order. -/
theorem replies_waitFor (replies : source.RepliesByTally After table) (after : After tally s)
    (resource : R) (clock : Clock) (j : Nat) (question : Question R E)
    (hj : (questions
      ((Routine.waitFor source goal pace fuel resource).execute clock s).events)[j]? = some question) :
    Resource.id question.handle = Resource.id resource
      ∧ question.answer = (table (Resource.id resource) (tally (Resource.id resource) + j)).answer
      ∧ question.stop = question.start
        + (table (Resource.id resource) (tally (Resource.id resource) + j)).delay.nanoseconds := by
  obtain ⟨result, hresult⟩ | hpoll := waitFor_cases source goal pace fuel resource
  · rw [hresult] at hj
    simp at hj
  · rw [hpoll] at hj
    exact (course_pollFromNow source goal pace fuel resource clock s).replies replies after j question
      hj

end

/-- The source that replies to each id from a table, and counts the questions. -/
def Source.ofTable (table : String → Nat → Reply R E) : Source Tally R E where
  fetch handle _ tally :=
    (table (Resource.id handle) (tally (Resource.id handle)), tally.asked (Resource.id handle))

/-- It replies by the tally, if the table keeps ids. -/
theorem Source.repliesByTally_ofTable {table : String → Nat → Reply R E}
    (keeps : ∀ id n shown, (table id n).answer = .ok (.found shown) → Resource.id shown = id) :
    (Source.ofTable table).RepliesByTally Eq table where
  reply_eq := by
    rintro tally _ rfl handle now
    rfl
  after_touch := by
    rintro tally _ rfl handle now
    rfl
  keepsId := keeps _ _ _

/-! ### Calls -/

/-- **A call** of a wait on a source that it shares with others, together with how its events and its
result read among theirs. -/
structure Call (S : Type) (After : Tally → S → Prop) (Ev α : Type) where
  /-- The representations of its resource. -/
  Kind : Type
  /-- The errors of its source. -/
  Failure : Type
  /-- What kind of resource it is. -/
  [resource : Resource Kind]
  /-- The source, as it shows resources of this kind. -/
  source : Source S Kind Failure
  /-- The replies to each id. -/
  table : String → Nat → Reply Kind Failure
  /-- They depend on nothing but the tally. -/
  replies : source.RepliesByTally After table
  /-- What is waited for. -/
  goal : Goal
  /-- The pace of the wait. -/
  pace : Pace
  /-- Its token, if it has one. -/
  token : Option Token
  /-- How many passes are followed. -/
  fuel : Nat
  /-- The resource that it begins with. -/
  handle : Kind
  /-- How its events read. -/
  shown : Event Kind Failure → Ev
  /-- How its result reads. -/
  outcome : Except (WaitError Kind Failure) Kind → α

namespace Call

attribute [instance] Call.resource

variable {After : Tally → S → Prop} {Ev α : Type}

/-- The id that it is about. -/
def id (call : Call S After Ev α) : String := Resource.id call.handle

/-- The wait. -/
def wait (call : Call S After Ev α) :
    Routine S (Event call.Kind call.Failure) (Except (WaitError call.Kind call.Failure) call.Kind) :=
  Routine.waitFor call.source call.goal call.pace call.fuel call.handle

/-- The run of the wait alone with the source. -/
def alone (call : Call S After Ev α) (now : Instant) (s : S) : WaitRun S call.Kind call.Failure :=
  call.wait.execute ⟨now, call.token⟩ s

/-- What the wait ends with alone, and when, as it reads. -/
def result (call : Call S After Ev α) (now : Instant) (s : S) : Option (α × Clock) :=
  (call.alone now s).result.map fun ended => (call.outcome ended.1, ended.2)

/-- How long the wait takes alone, if it ends. -/
def elapsed? (call : Call S After Ev α) (now : Instant) (s : S) : Option Nat :=
  (call.alone now s).result.map fun ended => ended.2.now - now

/-- The strand of a call that begins at a moment. -/
def strand (call : Call S After Ev α) (now : Instant) : Strand S Ev (α × Clock) :=
  (call.outcome <$> call.wait.mapEvents call.shown) ⟨now, call.token⟩

/-- What a call is going to do. -/
def plan (call : Call S After Ev α) (now : Instant) (s : S) : Plan Ev (α × Clock) :=
  ⟨(call.alone now s).events.map call.shown, call.result now s,
    (questions (call.alone now s).events).length⟩

/-- **A call is foretold** by its run alone, from any state in which its id has the same tally. -/
theorem foretold (call : Call S After Ev α) (now : Instant) {tally : Tally} {s : S}
    (after : After tally s) :
    Foretold After call.id (tally call.id) (call.strand now) (call.plan now s) := by
  have hwait : Foretold After call.id (tally call.id) (call.wait ⟨now, call.token⟩)
      ⟨(call.alone now s).events, (call.alone now s).result,
        (questions (call.alone now s).events).length⟩ :=
    foretold_waitFor call.replies after call.handle ⟨now, call.token⟩
  have hshown := hwait.mapNotes call.shown
  show Foretold After call.id (tally call.id) (((call.wait ⟨now, call.token⟩).mapNotes call.shown).bind
    fun ended => .finish (call.outcome ended.1, ended.2)) _
  cases hresult : (call.alone now s).result with
  | none =>
    refine (hshown.bind_of_result_eq_none _ hresult).cast ?_
    simp only [plan, result, hresult]
    rfl
  | some ended =>
    refine (hshown.bind hresult (.stopped _ (some (call.outcome ended.1, ended.2)))).cast ?_
    simp only [plan, result, hresult, Plan.andThen, Plan.stopped, List.append_nil]
    rfl

/-- States in which the id of a call has the same tally. -/
def FreshIn (call : Call S After Ev α) (tally : Tally) (s : S) : Prop :=
  ∃ other, After other s ∧ other call.id = tally call.id

/-- **A wait alone depends on nothing but the tally of its id.** -/
theorem alone_eq (call : Call S After Ev α) (now : Instant) {tally : Tally} {s s' : S}
    (fresh : call.FreshIn tally s) (fresh' : call.FreshIn tally s') :
    (call.alone now s).events = (call.alone now s').events
      ∧ (call.alone now s).result = (call.alone now s').result := by
  obtain ⟨other, after, hother⟩ := fresh
  obtain ⟨other', after', hother'⟩ := fresh'
  have hwait : Foretold After call.id (other' call.id) (call.wait ⟨now, call.token⟩) _ :=
    foretold_waitFor call.replies after' call.handle ⟨now, call.token⟩
  exact hwait.run_eq after (hother.trans hother'.symm)

/-- **The questions of a call take the replies to its id in their order.** -/
theorem replies_alone (call : Call S After Ev α) (now : Instant) {tally : Tally} {s : S}
    (fresh : call.FreshIn tally s) (j : Nat) (question : Question call.Kind call.Failure)
    (hj : (questions (call.alone now s).events)[j]? = some question) :
    question.answer = (call.table call.id (tally call.id + j)).answer
      ∧ question.stop = question.start
        + (call.table call.id (tally call.id + j)).delay.nanoseconds := by
  obtain ⟨other, after, hother⟩ := fresh
  rw [← hother]
  exact (replies_waitFor call.replies after call.handle ⟨now, call.token⟩ j question hj).2

/-- The plans of calls, each by its index. -/
def plans (calls : List (Call S After Ev α)) (now : Instant) (s : S) (i : Nat) :
    Plan Ev (α × Clock) :=
  match calls[i]? with
  | some call => call.plan now s
  | none => .stopped none

/-- Calls that begin together are foretold by their plans. -/
theorem allForetold (calls : List (Call S After Ev α)) (now : Instant) {tally : Tally} {s : S}
    (after : After tally s) :
    AllForetold After (calls.map id) tally (calls.map (·.strand now)) (plans calls now s) := by
  intro i strand other hstrand hother
  rw [List.getElem?_map, Option.map_eq_some_iff] at hstrand hother
  obtain ⟨call, hcall, rfl⟩ := hstrand
  obtain ⟨call', hcall', rfl⟩ := hother
  obtain rfl : call = call' := Option.some.inj (hcall.symm.trans hcall')
  rw [plans, hcall]
  exact call.foretold now after

/-- The questions of the calls are those that their plans have left. -/
theorem questionsLeft_plans (calls : List (Call S After Ev α)) (now : Instant) (s : S) {n : Nat}
    (h : n ≤ calls.length) : questionsLeft (plans calls now s) n
      = ((calls.take n).map fun call => (questions (call.alone now s).events).length).sum := by
  induction n with
  | zero => rfl
  | succ n ih =>
    rw [questionsLeft, ih (Nat.le_of_succ_le h), List.take_succ_eq_append_getElem h, List.map_append,
      List.sum_append, plans, List.getElem?_eq_getElem h]
    simp [plan]

/-- The moment at which all of some waits are done that began at `now`, if they have all ended. -/
def doneAt? (now : Instant) : List (Option (α × Clock)) → Option Instant
  | [] => some now
  | none :: _ => none
  | some ended :: rest => (doneAt? now rest).map (max ended.2.now)

/-- The later of two moments, counted from an earlier one. -/
theorem max_add_sub (now later rest : Nat) :
    max later (now + rest) = now + max (later - now) rest := by
  omega

/-- **All are done when the longest is.** -/
theorem doneAt?_results (calls : List (Call S After Ev α)) (now : Instant) (s : S)
    {elapsed : List Nat} (h : calls.map (·.elapsed? now s) = elapsed.map some) :
    doneAt? now (calls.map (·.result now s)) = some (now + elapsed.foldr max 0) := by
  induction calls generalizing elapsed with
  | nil =>
    obtain rfl : elapsed = [] := by simpa using h.symm
    rfl
  | cons call rest ih =>
    cases elapsed with
    | nil => cases h
    | cons first others =>
      obtain ⟨hfirst, hothers⟩ := List.cons.inj h
      obtain ⟨ended, hended, rfl⟩ := Option.map_eq_some_iff.mp hfirst
      have hresult : call.result now s = some (call.outcome ended.1, ended.2) := by
        rw [result, hended]
        rfl
      rw [List.map_cons, hresult, doneAt?, ih hothers]
      exact congrArg some (max_add_sub now ended.2.now _)

/-- Results that are each those of a call are all of them. -/
theorem results_eq_map {calls : List (Call S After Ev α)} {now : Instant} {s : S}
    {results : List (Option (α × Clock))} (hlength : results.length = calls.length)
    (heach : ∀ (i : Nat) call, calls[i]? = some call → results[i]? = some (call.result now s)) :
    results = calls.map (·.result now s) := by
  refine List.ext_getElem? fun i => ?_
  rw [List.getElem?_map]
  cases hcall : calls[i]? with
  | none =>
    rw [List.getElem?_eq_none_iff, ← hlength] at hcall
    exact List.getElem?_eq_none hcall
  | some call => exact heach i call hcall

/-- **Calls that run side by side are independent**: what each of them does, what it ends with and
when, and which replies it takes is as if it were alone, on any source that is as fresh for it. -/
structure Independent (calls : List (Call S After Ev α)) (now : Instant) (tally : Tally)
    (trace : List (Nat × Ev)) (results : List (Option (α × Clock))) (last : S) : Prop where
  /-- Each call has a result. -/
  length_eq : results.length = calls.length
  /-- The events of a call and its result, with the moment at which it ends, are those that it has
  alone. -/
  alone : ∀ i call, calls[i]? = some call → ∀ s, call.FreshIn tally s →
    eventsAt i trace = (call.alone now s).events.map call.shown
      ∧ results[i]? = some (call.result now s)
  /-- Its questions take the replies to its id one by one and leave none out. -/
  replies : ∀ call ∈ calls, ∀ s, call.FreshIn tally s → ∀ (j : Nat) question,
    (questions (call.alone now s).events)[j]? = some question →
      question.answer = (call.table call.id (tally call.id + j)).answer
        ∧ question.stop = question.start
          + (call.table call.id (tally call.id + j)).delay.nanoseconds
  /-- In the end each id was asked about as often as its call asks alone, and no other id was. -/
  counted : ∃ tally', After tally' last
    ∧ (∀ call ∈ calls, ∀ s, call.FreshIn tally s →
      tally' call.id = tally call.id + (questions (call.alone now s).events).length)
    ∧ ∀ id, (∀ call ∈ calls, call.id ≠ id) → tally' id = tally id
  /-- If they all end alone, all are done after the longest of the times that this takes them. -/
  done : ∀ s, (∀ call ∈ calls, call.FreshIn tally s) → ∀ elapsed : List Nat,
    calls.map (·.elapsed? now s) = elapsed.map some →
      doneAt? now results = some (now + elapsed.foldr max 0)

end Call

open Call in
/-- **Waits are independent.** Calls for different ids that begin together on one source that replies
by the tally are independent, in every order in which they take their steps. One of these orders is
that of `Strand.interleave`, given fuel for all their questions. -/
theorem waits_independent {S : Type} {After : Tally → S → Prop} {Ev α : Type}
    (calls : List (Call S After Ev α)) (distinct : (calls.map Call.id).Nodup) (now : Instant)
    {tally : Tally} {s : S} (after : After tally s) :
    (∀ trace results last,
      Interleaving (calls.map (·.strand now)) s trace results last →
        Independent calls now tally trace results last)
    ∧ ∀ fuel, (calls.map fun call => (questions (call.alone now s).events).length).sum < fuel →
      let joint := interleave fuel (calls.map (·.strand now)) s
      Interleaving (calls.map (·.strand now)) s joint.1 joint.2.1 joint.2.2 := by
  have hlength : (calls.map (·.strand now)).length = (calls.map Call.id).length := by
    rw [List.length_map, List.length_map]
  have hforetold := allForetold calls now after
  refine ⟨fun trace results last order => ?_, fun fuel hfuel => ?_⟩
  · obtain ⟨hresults, hdone, tally', after', htally, hothers⟩ :=
      order.foretold distinct hlength after hforetold
    rw [List.length_map] at hresults hdone
    have hfresh : ∀ call : Call S After Ev α, call.FreshIn tally s :=
      fun call => ⟨tally, after, rfl⟩
    have hids : ∀ (i : Nat) call, calls[i]? = some call → (calls.map Call.id)[i]? = some call.id :=
      fun i call hcall => by rw [List.getElem?_map, hcall]; rfl
    have hplans : ∀ (i : Nat) call, calls[i]? = some call → plans calls now s i = call.plan now s :=
      fun i call hcall => by rw [plans, hcall]
    have halone : ∀ (i : Nat) call, calls[i]? = some call → ∀ s', call.FreshIn tally s' →
        eventsAt i trace = (call.alone now s').events.map call.shown
          ∧ results[i]? = some (call.result now s') := by
      intro i call hcall s' fresh
      obtain ⟨htrace, hresult⟩ := hdone i (List.getElem?_eq_some_iff.mp hcall).1
      obtain ⟨hevents, hended⟩ := call.alone_eq now (hfresh call) fresh
      rw [hplans i call hcall] at htrace hresult
      rw [htrace, hresult, result, ← hended, ← hevents]
      exact ⟨rfl, rfl⟩
    refine ⟨hresults, halone, fun call _ s' fresh => call.replies_alone now fresh,
      ⟨tally', after', fun call hmem s' fresh => ?_, fun id hnot => ?_⟩, fun s' fresh elapsed h => ?_⟩
    · obtain ⟨i, hcall⟩ := List.getElem?_of_mem hmem
      rw [← (call.alone_eq now (hfresh call) fresh).1, htally i call.id (hids i call hcall),
        hplans i call hcall]
      rfl
    · refine hothers id fun hmem => ?_
      obtain ⟨call, hcall, hid⟩ := List.mem_map.mp hmem
      exact hnot call hcall hid
    · have heach : ∀ (i : Nat) call, calls[i]? = some call →
          results[i]? = some (call.result now s') :=
        fun i call hcall => (halone i call hcall s' (fresh call (List.mem_of_getElem? hcall))).2
      rw [results_eq_map hresults heach, doneAt?_results calls now s' h]
  · refine interleaving_interleave distinct hlength after hforetold ?_
    rwa [List.length_map, questionsLeft_plans calls now s (Nat.le_refl _), List.take_length]

/-- Replies of a service that takes a second to say that something is being built. Then `p` is active;
anything else is there for another second, and gone at last. -/
def buildReplies (id : String) (n : Nat) : Reply Probe FetchError :=
  if n < 1 then { answer := .ok (.found ⟨id, some "BUILD"⟩), delay := .ofSeconds 1 }
  else if id = "p" then { answer := .ok (.found ⟨id, some "ACTIVE"⟩) }
  else if n < 2 then { answer := .ok (.found ⟨id, none⟩), delay := .ofSeconds 1 }
  else { answer := .ok .notFound }

/-- These replies keep ids. -/
theorem keepsId_buildReplies (id : String) (n : Nat) (shown : Probe)
    (h : (buildReplies id n).answer = .ok (.found shown)) : Resource.id shown = id := by
  unfold buildReplies at h
  split at h
  · cases h
    rfl
  · split at h
    · cases h
      rfl
    · split at h <;> cases h
      rfl

/-- A wait on this service, with the usual pace. -/
def buildCall (goal : Goal) (id : String) :
    Call Tally Eq (Event Probe FetchError) (Except (WaitError Probe FetchError) Probe) where
  Kind := Probe
  Failure := FetchError
  source := .ofTable buildReplies
  table := buildReplies
  replies := Source.repliesByTally_ofTable keepsId_buildReplies
  goal := goal
  pace := {}
  token := none
  fuel := 5
  handle := ⟨id, some "BUILD"⟩
  shown event := event
  outcome result := result

open Call in
/-- A wait for a status that takes two questions, and next to it a wait for a deletion that takes three:
in every order both end as they do alone, and all is done when the deletion is. -/
theorem waits_independent_two :
    let strands := [buildCall (.status "ACTIVE" []) "p", buildCall .deletion "q"].map (·.strand 0)
    (∃ trace results last, Interleaving strands Tally.zero trace results last)
      ∧ ∀ trace results last, Interleaving strands Tally.zero trace results last →
        results[0]? = some (some (.ok ⟨"p", some "ACTIVE"⟩, ⟨3000000000, none⟩))
        ∧ results[1]? = some (some (.ok ⟨"q", none⟩, ⟨6000000000, none⟩))
        ∧ doneAt? 0 results = some 6000000000 := by
  intro strands
  obtain ⟨hindependent, hinterleave⟩ := waits_independent
    [buildCall (.status "ACTIVE" []) "p", buildCall .deletion "q"] (by decide) 0
    (rfl : Tally.zero = Tally.zero)
  refine ⟨⟨_, _, _, hinterleave 6 (by decide)⟩, fun trace results last order => ?_⟩
  have independent := hindependent trace results last order
  have fresh : ∀ call : Call Tally Eq (Event Probe FetchError)
      (Except (WaitError Probe FetchError) Probe), call.FreshIn Tally.zero Tally.zero :=
    fun _ => ⟨Tally.zero, rfl, rfl⟩
  refine ⟨?_, ?_, ?_⟩
  · rw [(independent.alone 0 _ rfl Tally.zero (fresh _)).2]
    rfl
  · rw [(independent.alone 1 _ rfl Tally.zero (fresh _)).2]
    rfl
  · exact independent.done Tally.zero (fun call _ => fresh call) [3000000000, 6000000000] (by decide)

end ResourceWait
