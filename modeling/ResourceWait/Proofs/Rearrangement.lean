import Mathlib.Data.List.Nodup
import ResourceWait.Proofs.Account
import ResourceWait.Proofs.Cancellation
import ResourceWait.Proofs.Independence

/-!
# Deletions in another order

A cleanup waits for one deletion after the other, so where a resource stands on the list decides when
its wait begins, and who has used the source before. On a source that answers to each id by the number
of questions about it, neither makes a difference.

A wait that begins later is the same wait, later: it looks at the time only to see how long it has
gone on, so all its moments are moved by the same amount (`Course.delayed`). And what others have asked
about other ids changes nothing for this one. So every deletion of a cleanup is the wait for this
resource alone, at the moment at which its turn comes (`Attempt.Linked.alone`). What the report says,
how often each id is asked about and how long everything takes are then sums over the resources, and
a sum does not depend on the order of its terms.
-/

namespace ResourceWait

variable {S R E : Type}

/-! ### Later -/

/-- An event that happens later. -/
def Event.delayed (d : Nat) : Event R E → Event R E
  | .fetch handle start stop answer => .fetch handle (start + d) (stop + d) answer
  | .pause start stop => .pause (start + d) (stop + d)
  | .log entry => .log entry

/-- A question that is asked later, and answered as much later. -/
def Question.delayed (d : Nat) (question : Question R E) : Question R E :=
  { question with start := question.start + d, stop := question.stop + d }

/-- The event of a question that is asked later. -/
@[simp] theorem Question.event_delayed (d : Nat) (question : Question R E) :
    question.event.delayed d = (question.delayed d).event := rfl

/-- The log bears no time. -/
@[simp] theorem map_delayed_log (d : Nat) (entries : List LogEntry) :
    (entries.map .log : List (Event R E)).map (Event.delayed d) = entries.map .log := by
  rw [List.map_map]
  rfl

/-- The questions of a transcript that happens later. -/
theorem questions_delayed (d : Nat) (events : List (Event R E)) :
    questions (events.map (Event.delayed d)) = (questions events).map (Question.delayed d) := by
  induction events with
  | nil => rfl
  | cons event rest ih =>
    cases event with
    | fetch => exact congrArg (List.cons _) ih
    | pause => exact ih
    | log => exact ih

/-- **A run is another one, later**: the same happens, every moment being so much later. -/
structure Delayed (d : Nat) (run later : WaitRun S R E) : Prop where
  /-- The same happens, later. -/
  events_eq : later.events = run.events.map (Event.delayed d)
  /-- It ends with the same, later. -/
  result_eq : later.result
    = run.result.map fun ended => (ended.1, { ended.2 with now := ended.2.now + d })

/-- Events that happen as much later go before a run that does. -/
theorem Delayed.behind {d : Nat} {run later : WaitRun S R E} (h : Delayed d run later)
    (events : List (Event R E)) :
    Delayed d (run.behind events) (later.behind (events.map (Event.delayed d))) := by
  refine ⟨?_, h.result_eq⟩
  show events.map (Event.delayed d) ++ later.events = (events ++ run.events).map (Event.delayed d)
  rw [h.events_eq, List.map_append]

/-- The tally after some more questions about an id. -/
def Tally.askedTimes (tally : Tally) (id : String) (n : Nat) : Tally := fun other =>
  if other = id then tally id + n else tally other

/-- Without a question the tally stays. -/
@[simp] theorem Tally.askedTimes_zero (tally : Tally) (id : String) :
    tally.askedTimes id 0 = tally := by
  funext other
  unfold askedTimes
  split
  · rename_i heq
    rw [heq, Nat.add_zero]
  · rfl

/-- One question and then some more are one more. -/
theorem Tally.askedTimes_asked (tally : Tally) (id : String) (n : Nat) :
    (tally.asked id).askedTimes id n = tally.askedTimes id (n + 1) := by
  funext other
  unfold askedTimes
  split
  · rw [asked_self, Nat.add_assoc, Nat.add_comm 1]
  · rename_i hne
    exact tally.asked_of_ne hne

/-- Questions about an id leave the tally of others as it is. -/
theorem Tally.askedTimes_of_ne (tally : Tally) {id other : String} (h : other ≠ id) (n : Nat) :
    tally.askedTimes id n other = tally other :=
  if_neg h

variable [Resource R]

section

variable {source : Source S R E} {After : Tally → S → Prop} {table : String → Nat → Reply R E}
variable {tally tally' : Tally} {s s' : S}

/-- A question is answered later as it is now, by a source with the same tally of the id. -/
theorem Source.AnswersByTally.question_delayed (answers : source.AnswersByTally After table) (after : After tally s)
    (after' : After tally' s') {handle : R}
    (hn : tally' (Resource.id handle) = tally (Resource.id handle)) (now : Instant) (d : Nat) :
    source.question handle (now + d) s' = (source.question handle now s).delayed d := by
  have hanswer : (source.reply handle (now + d) s').answer = (source.reply handle now s).answer := by
    rw [answers.answer_eq after', answers.answer_eq after, hn]
  have hdelay : (source.reply handle (now + d) s').delay = (source.reply handle now s).delay := by
    rw [answers.delay_eq after', answers.delay_eq after, hn]
  unfold Source.question Question.delayed
  rw [hanswer, hdelay]
  dsimp only
  rw [Nat.add_right_comm]

/-- **A wait that begins later is the same wait, later**, on a source that answers by the tally and has
the same tally of the id; and it leaves the tally of other ids as it is. -/
theorem Course.delayed {goal : Goal} {pace : Pace} {start : Instant} {fuel : Nat} {handle : R}
    {clock : Clock} {run : WaitRun S R E}
    (course : Course source goal pace start fuel handle clock s run) (hfree : clock.token = none)
    (answers : source.AnswersByTally After table) (after : After tally s) (d : Nat)
    (after' : After tally' s')
    (hn : tally' (Resource.id handle) = tally (Resource.id handle)) :
    let later := (Routine.poll source goal pace (start + d) fuel handle).execute
      ⟨clock.now + d, none⟩ s'
    Delayed d run later
      ∧ After (tally'.askedTimes (Resource.id handle) (questions run.events).length)
        later.source := by
  induction course generalizing tally tally' s' with
  | unfollowed =>
    refine ⟨⟨rfl, rfl⟩, ?_⟩
    rw [questions_nil, List.length_nil, Tally.askedTimes_zero]
    exact after'
  | @timedOut fuel handle clock s spent =>
    obtain ⟨now, _⟩ := clock
    cases hfree
    have later : Course source goal pace (start + d) (fuel + 1) handle ⟨now + d, none⟩ s' _ :=
      .timedOut (by rwa [Nat.add_sub_add_right])
    rw [later.execute_eq]
    refine ⟨⟨rfl, rfl⟩, ?_⟩
    rw [questions_log, questions_nil, List.length_nil, Tally.askedTimes_zero]
    exact after'
  | @settled fuel handle clock s entries result unspent verdict =>
    obtain ⟨now, _⟩ := clock
    cases hfree
    have hquestion := answers.question_delayed after after' hn now d
    have later : Course source goal pace (start + d) (fuel + 1) handle ⟨now + d, none⟩ s' _ :=
      .settled (by rwa [Nat.add_sub_add_right]) (by rw [hquestion]; exact verdict)
    rw [later.execute_eq, source.later_none, source.later_none, hquestion]
    refine ⟨⟨?_, rfl⟩, ?_⟩
    · rw [List.map_cons, Question.event_delayed, map_delayed_log]
    · rw [questions_event, questions_map_log, List.length_singleton]
      have moved := answers.after_touch after' handle (now + d)
      rw [← Tally.askedTimes_zero (tally'.asked _), Tally.askedTimes_asked] at moved
      exact moved
  | @cancelled fuel handle newer clock s entries moment unspent verdict cut =>
    -- a clock without a token cuts nothing short
    obtain ⟨now, _⟩ := clock
    cases hfree
    rw [source.later_none] at cut
    cases cut
  | @again fuel handle newer clock s entries run unspent verdict uncut rest ih =>
    obtain ⟨now, _⟩ := clock
    cases hfree
    have hquestion := answers.question_delayed after after' hn now d
    have hid := answers.id_newer after verdict
    have hlater := source.later_none handle now s
    have hlater' : source.later handle ⟨now + d, none⟩ s'
        = ⟨(source.question handle now s).stop + d, none⟩ := by
      rw [source.later_none, hquestion]
      rfl
    have hwake : (⟨(source.question handle now s).stop + d, none⟩ : Clock).wake pace.interval
        = (⟨(source.question handle now s).stop, none⟩ : Clock).wake pace.interval + d :=
      Nat.add_right_comm _ _ _
    have later : Course source goal pace (start + d) (fuel + 1) handle ⟨now + d, none⟩ s' _ :=
      .again (by rwa [Nat.add_sub_add_right]) (by rw [hquestion]; exact verdict)
        (by rw [hlater']; rfl) (course_execute source goal pace (start + d) fuel newer _ _)
    have hrest := ih (by rw [hlater]) (answers.after_touch after handle now)
      (answers.after_touch after' handle (now + d))
      (by rw [hid, Tally.asked_self, Tally.asked_self, hn])
    rw [hid, Tally.askedTimes_asked] at hrest
    rw [later.execute_eq, questions_behind]
    simp only [hlater', hlater, hquestion, hwake] at hrest ⊢
    refine ⟨?_, hrest.2⟩
    have hbehind := hrest.1.behind ((source.question handle now s).event :: (entries.map .log
      ++ [.pause (source.question handle now s).stop
        ((⟨(source.question handle now s).stop, none⟩ : Clock).wake pace.interval)]))
    rw [List.map_cons, List.map_append, map_delayed_log] at hbehind
    exact hbehind

/-! ### Deletions on their own -/

variable {pace : Pace} {fuel : Nat}

/-- **The wait for a deletion alone**, on a source in some state and from the beginning of time on. -/
def deletionAlone (source : Source S R E) (pace : Pace) (fuel : Nat) (s : S) (resource : R) :
    WaitRun S R E :=
  (Routine.waitForDelete source pace fuel resource).execute ⟨0, none⟩ s

/-- What a wait for a deletion ends with alone, if it ends. -/
def verdictAlone? (source : Source S R E) (pace : Pace) (fuel : Nat) (s : S) (resource : R) :
    Option (Except (WaitError R E) R) :=
  (deletionAlone source pace fuel s resource).result.map Prod.fst

/-- How long a wait for a deletion takes alone, if it ends. -/
def timeAlone (source : Source S R E) (pace : Pace) (fuel : Nat) (s : S) (resource : R) : Nat :=
  (deletionAlone source pace fuel s resource).result.elim 0 fun ended => ended.2.now

/-- **A wait for a deletion is the one alone, later**, whoever has asked about other ids before. -/
theorem delayed_deletionAlone (answers : source.AnswersByTally After table) (after : After tally s)
    (after' : After tally' s') {resource : R}
    (hn : tally' (Resource.id resource) = tally (Resource.id resource)) (pace : Pace) (fuel : Nat)
    (now : Instant) :
    let alone := deletionAlone source pace fuel s resource
    let later := (Routine.waitForDelete source pace fuel resource).execute ⟨now, none⟩ s'
    Delayed now alone later
      ∧ After (tally'.askedTimes (Resource.id resource) (questions alone.events).length)
        later.source := by
  have alone := course_waitForDelete source pace fuel resource ⟨0, none⟩ s
  have later := course_waitForDelete source pace fuel resource ⟨now, none⟩ s'
  have hdelayed := alone.delayed rfl answers after now after' hn
  simp only [Nat.zero_add] at hdelayed
  rw [later.execute_eq] at hdelayed
  exact hdelayed

namespace Attempt

variable {attempts : List (Attempt source pace fuel)} {clock later : Clock} {last : S}

/-- What an attempt ends with alone, where it is that wait, later. -/
theorem alone_result (attempt : Attempt source pace fuel) {d : Nat}
    (h : Delayed d (deletionAlone source pace fuel s attempt.resource) attempt.run) :
    verdictAlone? source pace fuel s attempt.resource = some attempt.result
      ∧ attempt.later.now = d + timeAlone source pace fuel s attempt.resource := by
  have hresult : attempt.run.result = some (attempt.result, attempt.later) := attempt.ended
  rw [h.result_eq] at hresult
  obtain ⟨⟨result, ended⟩, halone, heq⟩ := Option.map_eq_some_iff.mp hresult
  obtain ⟨hverdict, hlater⟩ := Prod.mk.inj heq
  rw [verdictAlone?, timeAlone, halone, ← hlater, ← hverdict]
  exact ⟨rfl, Nat.add_comm _ _⟩

/-- **The attempts of a cleanup are the waits alone, later**, each by as much as the ones before have
taken. Other ids have the same tally as before in the end. -/
theorem Linked.alone (linked : Linked clock s' attempts later last) (hfree : clock.token = none)
    (answers : source.AnswersByTally After table) (after : After tally s)
    (distinct : ((attempts.map (·.resource)).map Resource.id).Nodup) (after' : After tally' s')
    (agree : ∀ id ∈ (attempts.map (·.resource)).map Resource.id, tally' id = tally id) :
    (∀ attempt ∈ attempts, Delayed attempt.clock.now
        (deletionAlone source pace fuel s attempt.resource) attempt.run)
      ∧ later = ⟨clock.now + ((attempts.map (·.resource)).map (timeAlone source pace fuel s)).sum, none⟩
      ∧ ∃ tally'', After tally'' last
        ∧ ∀ id, id ∉ (attempts.map (·.resource)).map Resource.id → tally'' id = tally' id := by
  induction linked generalizing tally' with
  | nil clock s' =>
    refine ⟨by simp, ?_, tally', after', fun _ _ => rfl⟩
    rw [← hfree]
    rfl
  | @cons first rest later last others ih =>
    obtain ⟨hfirst, distinct⟩ := List.nodup_cons.mp distinct
    have hclock : first.clock = ⟨first.clock.now, none⟩ := by rw [← hfree]
    have hturn := delayed_deletionAlone answers after after' (agree _ List.mem_cons_self) pace fuel
      first.clock.now
    rw [← hclock] at hturn
    obtain ⟨hdelayed, moved⟩ := hturn
    -- the resources that follow have other ids, so for them nothing has changed
    obtain ⟨hrest, hlater, tally'', after'', hkept⟩ :=
      ih (first.course.token_eq_none hfree first.ended) distinct moved fun id hmem => by
        have hne : id ≠ Resource.id first.resource := fun heq => hfirst (heq ▸ hmem)
        rw [tally'.askedTimes_of_ne hne]
        exact agree id (List.mem_cons_of_mem _ hmem)
    refine ⟨List.forall_mem_cons.mpr ⟨hdelayed, hrest⟩, ?_, tally'', after'', fun id hnot => ?_⟩
    · rw [hlater, (first.alone_result hdelayed).2, List.map_cons, List.map_cons, List.sum_cons,
        Nat.add_assoc]
    · have hne : id ≠ Resource.id first.resource := by
        rintro rfl
        exact hnot List.mem_cons_self
      rw [hkept id fun hmem => hnot (List.mem_cons_of_mem _ hmem), tally'.askedTimes_of_ne hne]

/-- **There is a chain of attempts**, from every moment on, for resources whose deletions end when they
are waited for alone. -/
theorem exists_linked_of_alone [ToString E] (answers : source.AnswersByTally After table)
    (after : After tally s) {resources : List R} (distinct : (resources.map Resource.id).Nodup)
    (ends : ∀ resource ∈ resources, (deletionAlone source pace fuel s resource).result.isSome)
    (after' : After tally' s')
    (agree : ∀ id ∈ resources.map Resource.id, tally' id = tally id) (now : Instant) :
    ∃ (attempts : List (Attempt source pace fuel)) (later : Clock) (last : S),
      attempts.map (·.resource) = resources ∧ Linked ⟨now, none⟩ s' attempts later last := by
  obtain chain | ⟨attempts, resource, rest, between, mid, rfl, linked, hwait, -⟩ :=
    exists_linked_or_unended source pace fuel resources ⟨now, none⟩ s'
  · exact chain
  · -- a wait that does not end does not end alone either
    rw [List.map_append, List.map_cons] at distinct agree
    obtain ⟨hnot, distinct⟩ := List.nodup_cons.mp (List.nodup_middle.mp distinct)
    obtain ⟨-, hbetween, tally'', after'', hkept⟩ := linked.alone rfl answers after
      distinct.of_append_left after' fun id hmem => agree id (List.mem_append_left _ hmem)
    have hn := (hkept _ fun hmem => hnot (List.mem_append_left _ hmem)).trans
      (agree _ (List.mem_append_right _ List.mem_cons_self))
    have hdelayed := (delayed_deletionAlone answers after after'' hn pace fuel between.now).1
    rw [hbetween] at hwait hdelayed
    rw [hdelayed.result_eq, Option.map_eq_none_iff] at hwait
    have hends := ends resource (List.mem_append_right _ List.mem_cons_self)
    rw [hwait] at hends
    cases hends

end Attempt

end

/-! ### What the cleanup comes to -/

/-- How often a transcript asks about an id. -/
def timesAsked (id : String) (events : List (Event R E)) : Nat :=
  (questions events).countP fun question => Resource.id question.handle == id

/-- Later an id is asked about as often. -/
theorem timesAsked_delayed (id : String) (d : Nat) (events : List (Event R E)) :
    timesAsked id (events.map (Event.delayed d)) = timesAsked id events := by
  rw [timesAsked, questions_delayed, List.countP_map]
  rfl

/-- **What a report says of an id** is what a wait for its deletion ended with: it is in the one list
or in the other, and there with nothing but the message of the error. -/
def CleanupReport.Says [ToString E] (report : CleanupReport) (id : String)
    (result : Except (WaitError R E) R) : Prop :=
  match result with
  | .ok _ => id ∈ report.deleted ∧ ∀ reason, (id, reason) ∉ report.failed
  | .error error =>
    id ∉ report.deleted ∧ ∀ reason, (id, reason) ∈ report.failed ↔ reason = error.message

namespace Attempt

variable [ToString E] {source : Source S R E} {pace : Pace} {fuel : Nat} {s : S}
variable {attempts : List (Attempt source pace fuel)}

/-- An attempt has an entry among the failures if it ended with an error: its id and the message. -/
theorem failure?_eq_some_iff (attempt : Attempt source pace fuel) (id reason : String) :
    attempt.failure? = some (id, reason)
      ↔ ∃ error, attempt.result = .error error ∧ Resource.id attempt.resource = id
        ∧ reason = error.message := by
  unfold failure?
  cases attempt.result with
  | ok last => simp
  | error error => simp [eq_comm]

/-- **The report of a chain says of each id what its attempt ended with**, if the ids are distinct. -/
theorem says_reportOf (distinct : ((attempts.map (·.resource)).map Resource.id).Nodup)
    {attempt : Attempt source pace fuel} (hmem : attempt ∈ attempts) :
    (reportOf attempts).Says (Resource.id attempt.resource) attempt.result := by
  have unique : ∀ other ∈ attempts, Resource.id other.resource = Resource.id attempt.resource →
      other = attempt := by
    rw [List.map_map] at distinct
    exact fun other hother heq => List.inj_on_of_nodup_map distinct hother hmem heq
  have hdeleted : Resource.id attempt.resource ∈ (reportOf attempts).deleted
      ↔ attempt.succeeded = true := by
    rw [deleted_reportOf, List.mem_map]
    constructor
    · rintro ⟨other, hother, heq⟩
      obtain ⟨hother, hsucceeded⟩ := List.mem_filter.mp hother
      exact unique other hother heq ▸ hsucceeded
    · exact fun hsucceeded => ⟨attempt, List.mem_filter.mpr ⟨hmem, hsucceeded⟩, rfl⟩
  have hfailed : ∀ reason, (Resource.id attempt.resource, reason) ∈ (reportOf attempts).failed
      ↔ ∃ error, attempt.result = .error error ∧ reason = error.message := by
    intro reason
    rw [failed_reportOf, List.mem_filterMap]
    constructor
    · rintro ⟨other, hother, hfailure⟩
      obtain ⟨error, herror, heq, hreason⟩ := (other.failure?_eq_some_iff _ _).mp hfailure
      exact ⟨error, unique other hother heq ▸ herror, hreason⟩
    · rintro ⟨error, herror, hreason⟩
      exact ⟨attempt, hmem, (attempt.failure?_eq_some_iff _ _).mpr ⟨error, herror, rfl, hreason⟩⟩
  unfold CleanupReport.Says
  cases hresult : attempt.result with
  | ok last =>
    refine ⟨hdeleted.mpr (by rw [succeeded, hresult]; rfl), fun reason hmem => ?_⟩
    obtain ⟨error, herror, -⟩ := (hfailed reason).mp hmem
    cases hresult.symm.trans herror
  | error error =>
    refine ⟨fun hmem => ?_, fun reason => (hfailed reason).trans ?_⟩
    · have hsucceeded := hdeleted.mp hmem
      rw [succeeded, hresult] at hsucceeded
      cases hsucceeded
    · constructor
      · rintro ⟨other, hother, hreason⟩
        cases hresult.symm.trans hother
        exact hreason
      · exact fun hreason => ⟨error, hresult, hreason⟩

/-- **The report of attempts that are the waits alone, later**, lists the resources whose deletion is
confirmed alone, in their order. -/
theorem deleted_eq_of_alone
    (h : ∀ attempt ∈ attempts,
      verdictAlone? source pace fuel s attempt.resource = some attempt.result) :
    (reportOf attempts).deleted = ((attempts.map (·.resource)).filter fun resource =>
      (verdictAlone? source pace fuel s resource).any Except.isOk).map Resource.id := by
  rw [deleted_reportOf, List.filter_map, List.map_map]
  refine congrArg (List.map _) (List.filter_congr fun attempt hmem => ?_)
  rw [Function.comp_apply, h attempt hmem]
  rfl

/-- And it has the entries of the others, in their order. -/
theorem failed_eq_of_alone
    (h : ∀ attempt ∈ attempts,
      verdictAlone? source pace fuel s attempt.resource = some attempt.result) :
    (reportOf attempts).failed = (attempts.map (·.resource)).filterMap fun resource =>
      match verdictAlone? source pace fuel s resource with
      | some (.error error) => some (Resource.id resource, error.message)
      | _ => none := by
  rw [failed_reportOf, List.filterMap_map]
  refine List.filterMap_congr fun attempt hmem => ?_
  rw [Function.comp_apply, h attempt hmem, failure?]
  cases attempt.result <;> rfl

/-- Every id is asked about as often as by the waits alone. -/
theorem timesAsked_eq_of_alone
    (h : ∀ attempt ∈ attempts, Delayed attempt.clock.now
      (deletionAlone source pace fuel s attempt.resource) attempt.run) (id : String) :
    timesAsked id (attempts.flatMap events) = ((attempts.map (·.resource)).map fun resource =>
      timesAsked id (deletionAlone source pace fuel s resource).events).sum := by
  rw [timesAsked, questions, List.filterMap_flatMap, List.countP_flatMap, List.map_map]
  refine congrArg List.sum (List.map_congr_left fun attempt hmem => ?_)
  calc timesAsked id attempt.events
      = timesAsked id attempt.run.events := by rw [timesAsked, questions_events, timesAsked]
    _ = timesAsked id (deletionAlone source pace fuel s attempt.resource).events := by
      rw [(h attempt hmem).events_eq, timesAsked_delayed]

end Attempt

open Routine in
/-- **The order of deletions makes no difference.** On a source that answers to each id by the number
of questions about it, a cleanup of the same resources in another order returns as well. It reports the
same ids as gone, and the others with the same reasons; it asks about each id as often, and takes as
long in all. What is reported of a resource is what a wait for its deletion ends with alone, whenever it
begins, on a source that was asked about this id as often before. -/
theorem waitForDeletions_perm [ToString E] {source : Source S R E} {After : Tally → S → Prop}
    {table : String → Nat → Reply R E} (answers : source.AnswersByTally After table) (pace : Pace)
    (fuel : Nat) {resources resources' : List R} (distinct : (resources.map Resource.id).Nodup)
    (perm : resources.Perm resources') {tally : Tally} {s s' : S} (after : After tally s)
    (after' : After tally s') (now now' : Instant) {report : CleanupReport} {later : Clock}
    (hresult : ((waitForDeletions source pace fuel resources).execute ⟨now, none⟩ s).result
      = some (report, later)) :
    let run := (waitForDeletions source pace fuel resources).execute ⟨now, none⟩ s
    let run' := (waitForDeletions source pace fuel resources').execute ⟨now', none⟩ s'
    ∃ report' later' elapsed, run'.result = some (report', later')
      ∧ report.deleted.Perm report'.deleted ∧ report.failed.Perm report'.failed
      ∧ (∀ id, timesAsked id run.events = timesAsked id run'.events)
      ∧ later.now = now + elapsed ∧ later'.now = now' + elapsed
      ∧ ∀ resource ∈ resources, ∀ (moment : Instant) (tally'' : Tally) (s'' : S), After tally'' s'' →
        tally'' (Resource.id resource) = tally (Resource.id resource) →
        ∃ result ended, ((waitForDelete source pace fuel resource).execute ⟨moment, none⟩ s'').result
            = some (result, ended)
          ∧ report.Says (Resource.id resource) result := by
  intro run run'
  obtain ⟨attempts, last, rfl, linked⟩ := Attempt.exists_linked hresult
  obtain ⟨halone, rfl, -⟩ := linked.alone rfl answers after distinct after fun _ _ => rfl
  have hverdict := fun (attempt : Attempt source pace fuel) hmem =>
    (attempt.alone_result (halone attempt hmem)).1
  -- alone each deletion ends, so there is a chain of attempts in the other order
  have ends : ∀ resource ∈ resources',
      (deletionAlone source pace fuel s resource).result.isSome := by
    intro resource hmem
    obtain ⟨attempt, hattempt, rfl⟩ := List.mem_map.mp (perm.mem_iff.mpr hmem)
    obtain ⟨ended, hended, -⟩ := Option.map_eq_some_iff.mp (hverdict attempt hattempt)
    exact Option.isSome_of_eq_some hended
  have distinct' := (perm.map Resource.id).nodup_iff.mp distinct
  obtain ⟨attempts', later', last', rfl, linked'⟩ := Attempt.exists_linked_of_alone answers after
    distinct' ends after' (fun _ _ => rfl) now'
  obtain ⟨halone', rfl, -⟩ := linked'.alone rfl answers after distinct' after' fun _ _ => rfl
  have hverdict' := fun (attempt : Attempt source pace fuel) hmem =>
    (attempt.alone_result (halone' attempt hmem)).1
  have hrun := linked.execute_eq
  have hrun' := linked'.execute_eq
  obtain rfl : Attempt.reportOf attempts = report := by
    rw [hrun] at hresult
    exact (Prod.mk.inj (Option.some.inj hresult)).1
  refine ⟨Attempt.reportOf attempts', _, _, congrArg Run.result hrun', ?_, ?_, fun id => ?_, rfl, ?_,
    ?_⟩
  · rw [Attempt.deleted_eq_of_alone hverdict, Attempt.deleted_eq_of_alone hverdict']
    exact (perm.filter _).map _
  · rw [Attempt.failed_eq_of_alone hverdict, Attempt.failed_eq_of_alone hverdict']
    exact perm.filterMap _
  · rw [congrArg Run.events hrun, congrArg Run.events hrun', Attempt.timesAsked_eq_of_alone halone,
      Attempt.timesAsked_eq_of_alone halone']
    exact (perm.map _).sum_nat
  · rw [(perm.map _).sum_nat]
  · intro resource hmem moment tally'' s'' after'' hn
    obtain ⟨attempt, hattempt, rfl⟩ := List.mem_map.mp hmem
    obtain ⟨⟨result, ended⟩, hended, heq⟩ := Option.map_eq_some_iff.mp (hverdict attempt hattempt)
    have hdelayed := (delayed_deletionAlone answers after after'' hn pace fuel moment).1.result_eq
    rw [hended] at hdelayed
    refine ⟨result, _, hdelayed, ?_⟩
    have hsays := Attempt.says_reportOf distinct hattempt
    rw [← heq] at hsays
    exact hsays

open Routine in
/-- A probe that is there for good and one that is gone after a while, in both orders: ten seconds, of
which the timeout takes six. -/
theorem waitForDeletions_perm_two :
    let pace : Pace := ⟨.ofSeconds 1, some (.ofSeconds 5)⟩
    let cleanup (resources : List Probe) := (waitForDeletions (.ofTable buildReplies) pace 7
      resources).execute ⟨0, none⟩ Tally.zero
    let p : Probe := ⟨"p", none⟩
    let q : Probe := ⟨"q", none⟩
    let reason := "Timeout after 5s waiting for probe p to reach deleted (last status: ACTIVE)"
    (([p, q].map Resource.id).Nodup ∧ [p, q].Perm [q, p]
        ∧ (cleanup [p, q]).result = some (⟨["q"], [("p", reason)]⟩, ⟨10000000000, none⟩))
      ∧ ∃ report later, (cleanup [q, p]).result = some (report, later)
        ∧ report.deleted.Perm ["q"] ∧ report.failed.Perm [("p", reason)]
        ∧ timesAsked "p" (cleanup [q, p]).events = 5 ∧ later.now = 10000000000 := by
  intro pace cleanup p q reason
  have distinct : ([p, q].map Resource.id).Nodup := by decide
  have hresult : (cleanup [p, q]).result
      = some (⟨["q"], [("p", reason)]⟩, ⟨10000000000, none⟩) := by decide
  obtain ⟨report, later, elapsed, hreport, hdeleted, hfailed, hasked, htime, hlater, -⟩ :=
    waitForDeletions_perm (Source.repliesByTally_ofTable keepsId_buildReplies).answersByTally pace 7
      distinct (.swap q p []) (rfl : Tally.zero = Tally.zero) rfl 0 0 hresult
  refine ⟨⟨distinct, .swap q p [], hresult⟩, report, later, hreport, hdeleted.symm, hfailed.symm, ?_,
    hlater.trans htime.symm⟩
  rw [← hasked "p"]
  decide

end ResourceWait
