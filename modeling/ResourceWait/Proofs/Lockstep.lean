import Mathlib.Data.List.Forall2
import ResourceWait.Proofs.Course
import ResourceWait.Resource.Probe

/-!
# Waits in step

Two waits are in step when they ask at the same moments, sleep at the same moments and end at the
same moment, with questions and results that correspond – or when neither of them ends. What
corresponds to what is a matter of two relations, between representations and between the states of
the two sources, that each pass hands on to the next.

For that three things have to be so. The sources have to mirror each other: asked with corresponding
handles, they give corresponding answers and take the same time for it. The goals have to judge
corresponding answers alike. And a wait that is given up has to end in a way that corresponds to how
the other ends. `Course.inStep` says that this is enough; the verdicts have to correspond only on
answers that were really given, so a law can be about the answers of one run.

The first use of it compares the two waits. A wait for a status that is shown nothing but
representations that leave it open does what a wait for the deletion does. The loop of the latter knows
of no goal; that it comes to the same as one with the goal of a deletion, pass by pass, is
`Routine.pollDeletionWith_eq`, and the two goals are then compared here.
-/

namespace ResourceWait

variable {S S' R E : Type}

/-! ### What corresponds -/

/-- **Answers match** if they show representations that are alike, or nothing there, or fail for the
same reason. -/
inductive AnswersMatch (alike : R → R → Prop) :
    Except E (Observation R) → Except E (Observation R) → Prop where
  /-- Both sources fail for the same reason. -/
  | error (e : E) : AnswersMatch alike (.error e) (.error e)
  /-- Nothing is there. -/
  | notFound : AnswersMatch alike (.ok .notFound) (.ok .notFound)
  /-- What is shown is alike. -/
  | found {shown shown' : R} (shows_alike : alike shown shown') :
    AnswersMatch alike (.ok (.found shown)) (.ok (.found shown'))

/-- **Questions match** if they are put with handles that are alike, at the same moment, and get
matching answers at the same moment. -/
structure Question.Matches (alike : R → R → Prop) (question question' : Question R E) : Prop where
  /-- The handles are alike. -/
  handle : alike question.handle question'.handle
  /-- They are asked at the same moment. -/
  start_eq : question'.start = question.start
  /-- They are answered at the same moment. -/
  stop_eq : question'.stop = question.stop
  /-- The answers match. -/
  answer : AnswersMatch alike question.answer question'.answer

/-- Questions of which the same is alike are the same. -/
theorem Question.Matches.eq {question question' : Question R E}
    (h : Question.Matches Eq question question') : question = question' := by
  obtain ⟨handle, start, stop, answer⟩ := question
  obtain ⟨handle', start', stop', answer'⟩ := question'
  obtain ⟨hhandle, hstart, hstop, hanswer⟩ := h
  cases hhandle
  cases hstart
  cases hstop
  cases hanswer with
  | error => rfl
  | notFound => rfl
  | found hshown => rw [hshown]

/-- **A source mirrors another** while their states correspond: to handles that are alike they reply
alike and in the same time, and their states correspond afterwards. -/
structure Source.Mirrors (alike : R → R → Prop) (states : S → S' → Prop) (source : Source S R E)
    (source' : Source S' R E) : Prop where
  /-- The answers match. -/
  answer : ∀ {handle handle' : R} {s : S} {s' : S'}, alike handle handle' → states s s' → ∀ now,
    AnswersMatch alike (source.reply handle now s).answer (source'.reply handle' now s').answer
  /-- They take the same time. -/
  delay_eq : ∀ {handle handle' : R} {s : S} {s' : S'}, alike handle handle' → states s s' → ∀ now,
    (source'.reply handle' now s').delay = (source.reply handle now s).delay
  /-- They cancel the token on the same occasions. -/
  cancels_eq : ∀ {handle handle' : R} {s : S} {s' : S'}, alike handle handle' → states s s' →
    ∀ now, (source'.reply handle' now s').cancels = (source.reply handle now s).cancels
  /-- The states that they are left in correspond. -/
  touch : ∀ {handle handle' : R} {s : S} {s' : S'}, alike handle handle' → states s s' → ∀ now,
    states (source.touch handle now s) (source'.touch handle' now s')

namespace Source

/-- A source mirrors itself. -/
theorem mirrors_self (source : Source S R E) : source.Mirrors Eq Eq source := by
  refine ⟨?_, ?_, ?_, ?_⟩
  · rintro handle _ s _ rfl rfl now
    cases (source.reply handle now s).answer with
    | error e => exact .error e
    | ok observation =>
      cases observation with
      | found shown => exact .found rfl
      | notFound => exact .notFound
  all_goals
    rintro handle _ s _ rfl rfl now
    rfl

variable {alike : R → R → Prop} {states : S → S' → Prop} {source : Source S R E}
variable {source' : Source S' R E} {handle handle' : R} {s : S} {s' : S'}

/-- Questions to sources that mirror each other match. -/
theorem Mirrors.question (mirrors : source.Mirrors alike states source')
    (hhandle : alike handle handle') (hstate : states s s') (now : Instant) :
    Question.Matches alike (source.question handle now s) (source'.question handle' now s') := by
  refine ⟨hhandle, rfl, ?_, mirrors.answer hhandle hstate now⟩
  show now + _ = now + _
  rw [mirrors.delay_eq hhandle hstate now]

/-- A clock shows the same once sources that mirror each other have answered. -/
theorem Mirrors.later_eq (mirrors : source.Mirrors alike states source')
    (hhandle : alike handle handle') (hstate : states s s') (clock : Clock) :
    source'.later handle' clock s' = source.later handle clock s := by
  unfold later Routine.clockAfter
  rw [mirrors.delay_eq hhandle hstate, mirrors.cancels_eq hhandle hstate]

end Source

/-- **Verdicts match** if both settle the wait, with results that correspond, or both leave it open,
with representations that are alike. -/
inductive VerdictsMatch (alike : R → R → Prop)
    (ends : Except (WaitError R E) R → Except (WaitError R E) R → Prop) :
    Verdict R E → Verdict R E → Prop where
  /-- Both settle the wait. -/
  | settled {entries entries' : List LogEntry} {result result' : Except (WaitError R E) R}
      (h : ends result result') :
    VerdictsMatch alike ends (.settled entries result) (.settled entries' result')
  /-- Both leave it open. -/
  | unsettled {entries entries' : List LogEntry} {newer newer' : R} (h : alike newer newer') :
    VerdictsMatch alike ends (.unsettled entries newer) (.unsettled entries' newer')

/-- What matches a verdict that settles the wait settles it too. -/
theorem VerdictsMatch.of_settled {alike : R → R → Prop}
    {ends : Except (WaitError R E) R → Except (WaitError R E) R → Prop} {entries : List LogEntry}
    {result : Except (WaitError R E) R} {verdict : Verdict R E}
    (h : VerdictsMatch alike ends (.settled entries result) verdict) :
    ∃ entries' result', verdict = .settled entries' result' ∧ ends result result' := by
  cases h with
  | settled hends => exact ⟨_, _, rfl, hends⟩

/-- What matches a verdict that leaves the wait open leaves it open too. -/
theorem VerdictsMatch.of_unsettled {alike : R → R → Prop}
    {ends : Except (WaitError R E) R → Except (WaitError R E) R → Prop} {entries : List LogEntry}
    {newer : R} {verdict : Verdict R E}
    (h : VerdictsMatch alike ends (.unsettled entries newer) verdict) :
    ∃ entries' newer', verdict = .unsettled entries' newer' ∧ alike newer newer' := by
  cases h with
  | unsettled hnewer => exact ⟨_, _, rfl, hnewer⟩

/-- **Runs in step**: they do the same at the same moments, and end with what corresponds. -/
structure InStep (alike : R → R → Prop) (states : S → S' → Prop)
    (ends : Except (WaitError R E) R → Except (WaitError R E) R → Prop)
    (run : WaitRun S R E) (run' : WaitRun S' R E) : Prop where
  /-- The questions match, one by one. -/
  questions : List.Forall₂ (Question.Matches alike) (questions run.events) (questions run'.events)
  /-- The pauses are the same. -/
  pauses_eq : pauses run'.events = pauses run.events
  /-- The states that the sources are left in correspond. -/
  source : states run.source run'.source
  /-- Neither run ends, or both do, with the same clock and with results that correspond. -/
  result : Option.Rel (fun ended ended' => ends ended.1 ended'.1 ∧ ended'.2 = ended.2) run.result
    run'.result

variable [Resource R]

/-- **Goals judge alike** what matches, as far as it was `seen`, and waits for them that are given up
with representations that are alike end with what corresponds. -/
structure Goal.JudgesAlike (alike : R → R → Prop) (seen : Except E (Observation R) → Prop)
    (ends : Except (WaitError R E) R → Except (WaitError R E) R → Prop) (goal goal' : Goal) :
    Prop where
  /-- The verdicts on answers that match do. -/
  verdict : ∀ {handle handle' : R} {answer answer' : Except E (Observation R)},
    alike handle handle' → AnswersMatch alike answer answer' → seen answer →
      VerdictsMatch alike ends (goal.verdict handle answer) (goal'.verdict handle' answer')
  /-- Waits that spend their budget end with what corresponds. -/
  timedOut : ∀ {handle handle' : R}, alike handle handle' → ∀ budget,
    ends (.error (goal.timeoutError budget handle)) (.error (goal'.timeoutError budget handle'))
  /-- Waits that are cancelled end with what corresponds. -/
  cancelled : ∀ {newest newest' : R}, alike newest newest' →
    ends (.error (.ofCancelled newest)) (.error (.ofCancelled newest'))

/-! ### One pass after the other -/

/-- **Waits stay in step** that begin with what corresponds, for goals that judge alike what the
first of them is answered. -/
theorem Course.inStep {alike : R → R → Prop} {states : S → S' → Prop}
    {seen : Except E (Observation R) → Prop}
    {ends : Except (WaitError R E) R → Except (WaitError R E) R → Prop} {source : Source S R E}
    {source' : Source S' R E} {goal goal' : Goal} {pace : Pace} {start : Instant} {fuel : Nat}
    {handle handle' : R} {clock : Clock} {s : S} {s' : S'} {run : WaitRun S R E}
    (mirrors : source.Mirrors alike states source')
    (judges : goal.JudgesAlike alike seen ends goal')
    (course : Course source goal pace start fuel handle clock s run)
    (hseen : ∀ question ∈ questions run.events, seen question.answer)
    (hhandle : alike handle handle') (hstate : states s s') :
    InStep alike states ends run
      ((Routine.poll source' goal' pace start fuel handle').execute clock s') := by
  induction course generalizing handle' s' with
  | unfollowed => exact ⟨.nil, rfl, hstate, .none⟩
  | @timedOut fuel _ clock _ spent =>
    have other : Course source' goal' pace start (fuel + 1) handle' clock s' _ := .timedOut spent
    rw [other.execute_eq]
    exact ⟨.nil, rfl, hstate, .some ⟨judges.timedOut hhandle _, rfl⟩⟩
  | @settled fuel handle clock s entries result unspent verdict =>
    have hquestion := mirrors.question hhandle hstate clock.now
    have hmatch := judges.verdict hhandle hquestion.answer (hseen _ List.mem_cons_self)
    rw [verdict] at hmatch
    obtain ⟨entries', result', verdict', hends⟩ := hmatch.of_settled
    have other : Course source' goal' pace start (fuel + 1) handle' clock s' _ :=
      .settled unspent verdict'
    rw [other.execute_eq]
    refine ⟨?_, ?_, mirrors.touch hhandle hstate _, .some ⟨hends, ?_⟩⟩
    · simpa using hquestion
    · simp
    · exact mirrors.later_eq hhandle hstate clock
  | @cancelled fuel handle newer clock s entries moment unspent verdict cut =>
    have hquestion := mirrors.question hhandle hstate clock.now
    have hmatch := judges.verdict hhandle hquestion.answer (hseen _ List.mem_cons_self)
    rw [verdict] at hmatch
    obtain ⟨entries', newer', verdict', hnewer⟩ := hmatch.of_unsettled
    have hlater := mirrors.later_eq hhandle hstate clock
    have other : Course source' goal' pace start (fuel + 1) handle' clock s' _ :=
      .cancelled unspent verdict' (by rw [hlater]; exact cut)
    rw [other.execute_eq, hlater]
    refine ⟨?_, ?_, mirrors.touch hhandle hstate _, .some ⟨judges.cancelled hnewer, rfl⟩⟩
    · simpa using hquestion
    · simp
  | @again fuel handle newer clock s entries run unspent verdict uncut rest ih =>
    rw [questions_behind] at hseen
    have hquestion := mirrors.question hhandle hstate clock.now
    have hmatch := judges.verdict hhandle hquestion.answer (hseen _ List.mem_cons_self)
    rw [verdict] at hmatch
    obtain ⟨entries', newer', verdict', hnewer⟩ := hmatch.of_unsettled
    have hlater := mirrors.later_eq hhandle hstate clock
    have inStep := ih (fun question hmem => hseen question (List.mem_cons_of_mem _ hmem)) hnewer
      (mirrors.touch hhandle hstate clock.now)
    have rest' := course_execute source' goal' pace start fuel newer'
      { source.later handle clock s with now := (source.later handle clock s).wake pace.interval }
      (source'.touch handle' clock.now s')
    have other : Course source' goal' pace start (fuel + 1) handle' clock s' _ :=
      .again unspent verdict' (by rw [hlater]; exact uncut) (by rw [hlater]; exact rest')
    rw [other.execute_eq, hlater]
    refine ⟨?_, ?_, inStep.source, inStep.result⟩
    · rw [questions_behind, questions_behind]
      exact .cons hquestion inStep.questions
    · rw [pauses_behind, pauses_behind, inStep.pauses_eq]

/-- Waits that begin now with what corresponds stay in step. -/
theorem inStep_pollFromNow {alike : R → R → Prop} {states : S → S' → Prop}
    {seen : Except E (Observation R) → Prop}
    {ends : Except (WaitError R E) R → Except (WaitError R E) R → Prop} {source : Source S R E}
    {source' : Source S' R E} {goal goal' : Goal} {pace : Pace} {fuel : Nat}
    {handle handle' : R} {clock : Clock} {s : S} {s' : S'}
    (mirrors : source.Mirrors alike states source')
    (judges : goal.JudgesAlike alike seen ends goal')
    (hseen : ∀ question ∈ questions ((Routine.pollFromNow source goal pace fuel handle).execute
      clock s).events, seen question.answer)
    (hhandle : alike handle handle') (hstate : states s s') :
    InStep alike states ends ((Routine.pollFromNow source goal pace fuel handle).execute clock s)
      ((Routine.pollFromNow source' goal' pace fuel handle').execute clock s') := by
  have course := course_pollFromNow source goal pace fuel handle clock s
  have other := course_pollFromNow source' goal' pace fuel handle' clock s'
  have inStep := course.inStep mirrors judges hseen hhandle hstate
  rw [other.execute_eq] at inStep
  exact inStep

/-! ### A wait for a status and one for the deletion -/

/-- **A wait for the deletion and one for a status end alike** where the status never shows: only what
they call their target tells them apart, and what it means that nothing is there. -/
inductive EndsAlike (target : String) :
    Except (WaitError R E) R → Except (WaitError R E) R → Prop where
  /-- Nothing is there: the one has what it waited for, and the other will not get it. -/
  | gone (last : R) : EndsAlike target (.ok last)
    (.error (.notFound (Resource.kind R) (Resource.id last) target last))
  /-- The source failed. -/
  | fetch (e : E) : EndsAlike target (.error (.fetch e)) (.error (.fetch e))
  /-- The token was cancelled. -/
  | cancelled (newest : R) : EndsAlike target
    (.error (.cancelled (Resource.kind R) (Resource.id newest) newest))
    (.error (.cancelled (Resource.kind R) (Resource.id newest) newest))
  /-- The budget was spent. -/
  | timedOut (budget : Duration) (newest : R) : EndsAlike target
    (.error (.timeout (Resource.kind R) (Resource.id newest) "deleted" (Resource.status newest)
      budget newest))
    (.error (.timeout (Resource.kind R) (Resource.id newest) target (Resource.status newest) budget
      newest))

/-- A goal of a status judges as the deletion does what leaves it open. -/
theorem judgesAlike_deletion (target : String) (failures : List String) :
    Goal.deletion.JudgesAlike Eq
      (fun answer : Except E (Observation R) => ∀ shown, answer = .ok (.found shown) →
        (Goal.status target failures).Pending shown)
      (EndsAlike target) (.status target failures) := by
  refine ⟨?_, ?_, ?_⟩
  · rintro handle _ answer _ rfl hanswer hseen
    cases hanswer with
    | error e => exact .settled (.fetch e)
    | notFound => exact .settled (.gone handle)
    | @found shown _ hshown =>
      subst hshown
      obtain ⟨entries, hverdict⟩ := Goal.verdict_of_pending (E := E) (hseen shown rfl) handle
      rw [hverdict]
      exact .unsettled rfl
  · rintro handle _ rfl budget
    exact .timedOut _ handle
  · rintro newest _ rfl
    exact .cancelled newest

open Routine in
/-- **Both waits do the same** where the status never shows. If everything that the wait for the
deletion is shown would leave the wait for a status open, as the resource at hand does, then both put
the same questions at the same moments, sleep at the same moments, and end at the same moment and
alike – or neither ends. -/
theorem waits_agree (source : Source S R E) (target : String) (failures : List String)
    (pace : Pace) (fuel : Nat) (resource : R) (clock : Clock) (s : S) {status : String}
    (hstatus : Resource.status resource = some status)
    (hagree : Status.agree status target = false) :
    let deletion := (waitForDelete source pace fuel resource).execute clock s
    let run := (waitForStatus source target failures pace fuel resource).execute clock s
    (∀ question ∈ questions deletion.events, ∀ shown, question.answer = .ok (.found shown) →
      ∃ current, Resource.status shown = some current ∧ Status.agree current target = false
        ∧ Status.isAnyOf current failures = false) →
      questions run.events = questions deletion.events
        ∧ pauses run.events = pauses deletion.events
        ∧ run.source = deletion.source
        ∧ Option.Rel (fun ended ended' => EndsAlike target ended.1 ended'.1 ∧ ended'.2 = ended.2)
          deletion.result run.result := by
  rw [waitForDelete_eq_pollFromNow, waitForStatus_eq_pollFromNow hstatus hagree]
  intro deletion run hpending
  have inStep : InStep Eq Eq (EndsAlike target) deletion run :=
    inStep_pollFromNow source.mirrors_self (judgesAlike_deletion target failures) hpending rfl rfl
  have hquestions := inStep.questions.imp fun _ _ => Question.Matches.eq
  rw [List.forall₂_eq_eq_eq] at hquestions
  exact ⟨hquestions.symm, inStep.pauses_eq, inStep.source.symm, inStep.result⟩

open Routine in
/-- Two waits on a probe that is being built for a while and then gone, one of them for it to be
active. -/
theorem waits_agree_gone :
    let source : Source Nat Probe FetchError := ⟨fun handle _ asked => (match asked with
      | 0 => { answer := .ok (.found { handle with status := some "SPAWNING" }) }
      | _ => { answer := .ok .notFound, delay := .ofSeconds 1 }, asked + 1)⟩
    let probe : Probe := ⟨"p", some "BUILD"⟩
    let deletion := (waitForDelete source {} 2 probe).execute ⟨0, none⟩ 0
    let run := (waitForStatus source "ACTIVE" ["ERROR"] {} 2 probe).execute ⟨0, none⟩ 0
    Option.Rel (fun ended ended' => EndsAlike "ACTIVE" ended.1 ended'.1 ∧ ended'.2 = ended.2)
        deletion.result run.result
      ∧ deletion.result = some (.ok ⟨"p", some "SPAWNING"⟩, ⟨3000000000, none⟩) := by
  refine ⟨(waits_agree _ "ACTIVE" ["ERROR"] {} 2 _ ⟨0, none⟩ 0 rfl (by decide) ?_).2.2.2, rfl⟩
  show ∀ question ∈ [(⟨⟨"p", some "BUILD"⟩, 0, 0, .ok (.found ⟨"p", some "SPAWNING"⟩)⟩ :
    Question Probe FetchError), ⟨⟨"p", some "SPAWNING"⟩, 2000000000, 3000000000, .ok .notFound⟩], _
  rintro question (_ | ⟨_, _ | ⟨_, hmem⟩⟩) shown hshown
  · cases hshown
    exact ⟨"SPAWNING", rfl, by decide, by decide⟩
  · cases hshown
  · cases hmem

end ResourceWait
