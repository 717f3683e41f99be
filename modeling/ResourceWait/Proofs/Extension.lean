import ResourceWait.Proofs.Timekeeping
import ResourceWait.Resource.Probe

/-!
# Waits that outlast others

Two waits on the same source, from the same clock on, of which one may give up where the other goes
on: its budget is smaller, say. Up to there they are one and the same wait. So the second begins
with all that the first asks, and unless the first gave up *early*, the two do not differ at all.

Which errors are early is a parameter, and so is what tells the two waits apart. `Outlasts` names
what has to be so: they pause alike, and wherever the first does not end early, the second does what
the first does. `Course.extends` carries that along the course of the first wait. Where the first
gives up, nothing is said about what the second goes on to do, but that it keeps time.

Raising the budget is the first use. A wait under the larger budget finds it unspent whenever the
other does, to the nanosecond at which the smaller one is just used up.
-/

namespace ResourceWait

variable {S R E : Type}

/-! ### Runs that go on -/

/-- **A run extends another** that may be cut short by an `early` error. -/
structure Extends (early : WaitError R E → Prop) (short long : WaitRun S R E) : Prop where
  /-- It begins with the same questions, asked and answered at the same moments. -/
  asks_on : questions short.events <+: questions long.events
  /-- It begins with the same pauses. -/
  sleeps_on : pauses short.events <+: pauses long.events
  /-- It is the same run if the other ends, and not early. -/
  same : ∀ result later, short.result = some (result, later) →
    (∀ error, result = .error error → ¬ early error) → long = short
  /-- It ends no earlier. -/
  ends_no_earlier : ∀ result later result' later', short.result = some (result, later) →
    long.result = some (result', later') → later.now ≤ later'.now

namespace Extends

variable {early : WaitError R E → Prop} {short long : WaitRun S R E}

/-- A run extends itself. -/
theorem refl (early : WaitError R E → Prop) (run : WaitRun S R E) : Extends early run run := by
  refine ⟨List.prefix_refl _, List.prefix_refl _, fun _ _ _ _ => rfl, ?_⟩
  intro result later result' later' hshort hlong
  obtain ⟨-, rfl⟩ := Prod.mk.inj (Option.some.inj (hshort.symm.trans hlong))
  exact Nat.le_refl _

/-- A run that is cut short early is extended by every run that begins like it and ends no
earlier. -/
theorem of_early {error : WaitError R E} {later : Clock}
    (hresult : short.result = some (.error error, later)) (hearly : early error)
    (hquestions : questions short.events <+: questions long.events)
    (hpauses : pauses short.events <+: pauses long.events)
    (hend : ∀ result' later', long.result = some (result', later') → later.now ≤ later'.now) :
    Extends early short long := by
  refine ⟨hquestions, hpauses, ?_, ?_⟩
  · intro result later' hshort hlate
    rw [hresult] at hshort
    cases hshort
    exact absurd hearly (hlate error rfl)
  · intro result later' result' later'' hshort hlong
    rw [hresult] at hshort
    cases hshort
    exact hend result' later'' hlong

/-- Runs with the same events before their own extend each other as before. -/
theorem behind (h : Extends early short long) (events : List (Event R E)) :
    Extends early (short.behind events) (long.behind events) := by
  refine ⟨?_, ?_, fun result later hresult hlate => ?_, h.ends_no_earlier⟩
  · show questions (events ++ short.events) <+: questions (events ++ long.events)
    rw [questions_append, questions_append]
    exact (List.prefix_append_right_inj _).mpr h.asks_on
  · show pauses (events ++ short.events) <+: pauses (events ++ long.events)
    rw [pauses_append, pauses_append]
    exact (List.prefix_append_right_inj _).mpr h.sleeps_on
  · rw [h.same result later hresult hlate]

end Extends

/-! ### Waits that go on -/

variable [Resource R]

/-- **A wait outlasts another** whose errors are `early`: it does what the other does wherever that
does not end early. -/
structure Outlasts (early : WaitError R E → Prop) (goal : Goal) (pace : Pace) (goal' : Goal)
    (pace' : Pace) : Prop where
  /-- It pauses for as long. -/
  interval_eq : pace'.interval = pace.interval
  /-- Its budget is not spent where that of the other is not. -/
  unspent : ∀ elapsed, pace.isSpent elapsed = false → pace'.isSpent elapsed = false
  /-- Where the other has spent its budget, that ends it early, or this one ends in the same way. -/
  spent : ∀ elapsed, pace.isSpent elapsed = true → ∀ handle : R,
    early (goal.timeoutError pace.timeout handle)
      ∨ pace'.isSpent elapsed = true
        ∧ goal'.timeoutNotice handle = goal.timeoutNotice handle
        ∧ (goal'.timeoutError pace'.timeout handle : WaitError R E)
          = goal.timeoutError pace.timeout handle
  /-- What an answer means to the other, it means to this one, unless it ends the other early. -/
  verdict : ∀ (handle : R) (answer : Except E (Observation R)),
    goal'.verdict handle answer = goal.verdict handle answer
      ∨ ∃ entries error, goal.verdict handle answer = .settled entries (.error error)
        ∧ early error

section

variable {early : WaitError R E → Prop} {goal goal' : Goal} {pace pace' : Pace}

/-- An answer that leaves a wait open leaves those open that outlast it. -/
theorem Outlasts.verdict_of_unsettled (outlasts : Outlasts early goal pace goal' pace')
    {handle newer : R} {answer : Except E (Observation R)} {entries : List LogEntry}
    (h : goal.verdict handle answer = .unsettled entries newer) :
    goal'.verdict handle answer = .unsettled entries newer := by
  obtain heq | ⟨_, _, hsettled, -⟩ := outlasts.verdict handle answer
  · rw [heq, h]
  · cases hsettled.symm.trans h

/-- **A wait that outlasts another extends it**, if it is followed for as many passes or more. -/
theorem Course.extends {source : Source S R E} {start : Instant} {fuel fuel' : Nat} {handle : R}
    {clock : Clock} {s : S} {run : WaitRun S R E} (outlasts : Outlasts early goal pace goal' pace')
    (course : Course source goal pace start fuel handle clock s run) (hfuel : fuel ≤ fuel') :
    Extends early run ((Routine.poll source goal' pace' start fuel' handle).execute clock s) := by
  induction course generalizing fuel' with
  | unfollowed =>
    refine ⟨List.nil_prefix, List.nil_prefix, ?_, ?_⟩
    · rintro _ _ ⟨⟩
    · rintro _ _ _ _ ⟨⟩
  | @timedOut fuel handle clock s spent =>
    obtain ⟨fuel', rfl⟩ := Nat.exists_eq_succ_of_ne_zero (Nat.ne_zero_of_lt hfuel)
    obtain hearly | ⟨spent', hnotice, herror⟩ := outlasts.spent _ spent handle
    · have other := course_execute source goal' pace' start (fuel' + 1) handle clock s
      refine .of_early rfl hearly List.nil_prefix List.nil_prefix fun result' later' hresult' => ?_
      exact (other.keepsTime.ends_after result' later' hresult').1
    · have other : Course source goal' pace' start (fuel' + 1) handle clock s _ := .timedOut spent'
      rw [other.execute_eq, hnotice, herror]
      exact .refl early _
  | @settled fuel handle clock s entries result unspent verdict =>
    obtain ⟨fuel', rfl⟩ := Nat.exists_eq_succ_of_ne_zero (Nat.ne_zero_of_lt hfuel)
    have unspent' := outlasts.unspent _ unspent
    obtain hverdict | ⟨_, error, hsettled, hearly⟩ :=
      outlasts.verdict handle (source.question handle clock.now s).answer
    · have other : Course source goal' pace' start (fuel' + 1) handle clock s _ :=
        .settled unspent' (hverdict.trans verdict)
      rw [other.execute_eq]
      exact .refl early _
    · -- the longer wait asks the same question, and ends no earlier than that is answered
      cases verdict.symm.trans hsettled
      have other := course_execute source goal' pace' start (fuel' + 1) handle clock s
      have hhead := other.head?_questions unspent'
      refine .of_early rfl hearly ?_ ?_ fun result' later' hresult' => ?_
      · obtain ⟨rest, hquestions⟩ := List.head?_eq_some_iff.mp hhead
        rw [hquestions, questions_event, questions_map_log]
        exact List.prefix_append [_] rest
      · rw [pauses_event, pauses_map_log]
        exact List.nil_prefix
      · rw [Source.later_now]
        obtain ⟨-, hanswered⟩ := other.keepsTime.ends_after result' later' hresult'
        exact hanswered _ (List.mem_of_head? hhead)
  | @cancelled fuel handle newer clock s entries moment unspent verdict cut =>
    obtain ⟨fuel', rfl⟩ := Nat.exists_eq_succ_of_ne_zero (Nat.ne_zero_of_lt hfuel)
    have other : Course source goal' pace' start (fuel' + 1) handle clock s _ :=
      .cancelled (outlasts.unspent _ unspent) (outlasts.verdict_of_unsettled verdict)
        (by rw [outlasts.interval_eq]; exact cut)
    rw [other.execute_eq]
    exact .refl early _
  | @again fuel handle newer clock s entries run unspent verdict uncut rest ih =>
    obtain ⟨fuel', rfl⟩ := Nat.exists_eq_succ_of_ne_zero (Nat.ne_zero_of_lt hfuel)
    have other := Course.again (outlasts.unspent _ unspent) (outlasts.verdict_of_unsettled verdict)
      (by rw [outlasts.interval_eq]; exact uncut)
      (course_execute source goal' pace' start fuel' newer _ _)
    rw [other.execute_eq, outlasts.interval_eq]
    exact (ih (Nat.le_of_succ_le_succ hfuel)).behind _

/-- **A wait that outlasts one that is not followed to its end** is the same wait as far as that is
followed. -/
theorem Course.execute_eq_of_result_eq_none {source : Source S R E} {start : Instant} {fuel : Nat}
    {handle : R} {clock : Clock} {s : S} {run : WaitRun S R E}
    (outlasts : Outlasts early goal pace goal' pace')
    (course : Course source goal pace start fuel handle clock s run) (h : run.result = none) :
    (Routine.poll source goal' pace' start fuel handle).execute clock s = run := by
  induction course with
  | unfollowed => rfl
  | timedOut => cases h
  | settled => cases h
  | cancelled => cases h
  | @again fuel handle newer clock s entries run unspent verdict uncut rest ih =>
    have other := Course.again (outlasts.unspent _ unspent) (outlasts.verdict_of_unsettled verdict)
      (by rw [outlasts.interval_eq]; exact uncut)
      (course_execute source goal' pace' start fuel newer _ _)
    rw [other.execute_eq, outlasts.interval_eq, ih h]

/-- A wait that begins now extends one that it outlasts. -/
theorem extends_pollFromNow (outlasts : Outlasts early goal pace goal' pace') {fuel fuel' : Nat}
    (hfuel : fuel ≤ fuel') (source : Source S R E) (resource : R) (clock : Clock) (s : S) :
    Extends early ((Routine.pollFromNow source goal pace fuel resource).execute clock s)
      ((Routine.pollFromNow source goal' pace' fuel' resource).execute clock s) := by
  have course := course_pollFromNow source goal pace fuel resource clock s
  have other := course_pollFromNow source goal' pace' fuel' resource clock s
  have extended := course.extends outlasts hfuel
  rw [other.execute_eq] at extended
  exact extended

/-- A wait that begins now is the same as one that it outlasts, as far as that is followed without
an end. -/
theorem execute_pollFromNow_of_result_eq_none (outlasts : Outlasts early goal pace goal' pace')
    {fuel : Nat} (source : Source S R E) (resource : R) (clock : Clock) (s : S)
    (h : ((Routine.pollFromNow source goal pace fuel resource).execute clock s).result = none) :
    (Routine.pollFromNow source goal' pace' fuel resource).execute clock s
      = (Routine.pollFromNow source goal pace fuel resource).execute clock s := by
  have course := course_pollFromNow source goal pace fuel resource clock s
  have other := course_pollFromNow source goal' pace' fuel resource clock s
  exact other.execute_eq.symm.trans (course.execute_eq_of_result_eq_none outlasts h)

end

/-! ### Raising the budget -/

/-- **One budget holds no more than another.** None holds more than the one without end. -/
def BudgetLe : Option Duration → Option Duration → Prop
  | _, none => True
  | none, some _ => False
  | some budget, some budget' => budget.nanoseconds ≤ budget'.nanoseconds

/-- What the smaller budget leaves unspent, the larger one does. -/
theorem BudgetLe.isSpent_eq_false {budget budget' : Option Duration} (h : BudgetLe budget budget')
    {interval : Duration} {elapsed : Nat}
    (unspent : (Pace.mk interval budget).isSpent elapsed = false) :
    (Pace.mk interval budget').isSpent elapsed = false := by
  refine Pace.isSpent_eq_false ?_
  rintro longer rfl
  cases budget with
  | none => exact absurd h id
  | some shorter => exact Nat.le_trans (Pace.le_of_isSpent_eq_false rfl unspent) h

/-- A wait outlasts the same wait under a smaller budget, which times out early. -/
theorem outlasts_of_budgetLe {budget budget' : Option Duration} (h : BudgetLe budget budget')
    (goal : Goal) (interval : Duration) :
    Outlasts (fun error : WaitError R E => error.isTimeout = true) goal ⟨interval, budget⟩ goal
      ⟨interval, budget'⟩ :=
  ⟨rfl, fun _ => h.isSpent_eq_false, fun _ _ _ => .inl rfl, fun _ _ => .inl rfl⟩

open Routine in
/-- **Raising the budget only extends a wait.** What it asks under the smaller budget, it asks first
under the larger one, and at the same moments. If it ends other than by a timeout, it is the same
wait under both, and under the larger one it never ends earlier. -/
theorem waits_extended (source : Source S R E) (target : String) (failures : List String)
    (interval : Duration) {budget budget' : Option Duration} (hbudget : BudgetLe budget budget')
    {fuel fuel' : Nat} (hfuel : fuel ≤ fuel') (resource : R) (clock : Clock) (s : S) :
    Extends (fun error => error.isTimeout = true)
        ((waitForStatus source target failures ⟨interval, budget⟩ fuel resource).execute clock s)
        ((waitForStatus source target failures ⟨interval, budget'⟩ fuel' resource).execute clock s)
      ∧ Extends (fun error => error.isTimeout = true)
        ((waitForDelete source ⟨interval, budget⟩ fuel resource).execute clock s)
        ((waitForDelete source ⟨interval, budget'⟩ fuel' resource).execute clock s) := by
  constructor
  · obtain ⟨result, hwait⟩ | hwait := waitForStatus_cases source target resource
    · rw [hwait, hwait]
      exact .refl _ _
    · rw [hwait, hwait]
      exact extends_pollFromNow (outlasts_of_budgetLe hbudget _ _) hfuel _ _ _ _
  · rw [waitForDelete_eq_pollFromNow, waitForDelete_eq_pollFromNow]
    exact extends_pollFromNow (outlasts_of_budgetLe hbudget _ _) hfuel _ _ _ _

open Routine in
/-- A wait that times out after one question under a budget of a second, and under one of four
seconds sees the resource active when that has just been used up. -/
theorem waits_extended_justInTime :
    let source : Source Nat Probe FetchError := ⟨fun handle _ asked => (match asked with
      | 0 | 1 => { answer := .ok (.found handle) }
      | _ => { answer := .ok (.found { handle with status := some "ACTIVE" }) }, asked + 1)⟩
    let probe : Probe := ⟨"p", some "BUILD"⟩
    let wait (budget : Duration) := (waitForStatus source "ACTIVE" ["ERROR"]
      ⟨.ofSeconds 2, some budget⟩ 3 probe).execute ⟨0, none⟩ 0
    BudgetLe (some (.ofSeconds 1)) (some (.ofSeconds 4))
      ∧ Extends (fun error => error.isTimeout = true) (wait (.ofSeconds 1)) (wait (.ofSeconds 4))
      ∧ (wait (.ofSeconds 1)).result = some (.error (.timeout "probe" "p" "ACTIVE" (some "BUILD")
        (.ofSeconds 1) probe), ⟨2000000000, none⟩)
      ∧ (wait (.ofSeconds 4)).result
        = some (.ok ⟨"p", some "ACTIVE"⟩, ⟨4000000000, none⟩) := by
  have hbudget : BudgetLe (some (.ofSeconds 1)) (some (.ofSeconds 4)) := by
    show 1 * 1000000000 ≤ 4 * 1000000000
    decide
  refine ⟨hbudget, ?_, ?_, ?_⟩
  · exact (waits_extended _ "ACTIVE" ["ERROR"] (.ofSeconds 2) hbudget (Nat.le_refl 3) _ ⟨0, none⟩
      0).1
  · rfl
  · rfl

end ResourceWait
