import ResourceWait.Proofs.Course
import ResourceWait.Resource.Probe
import ResourceWait.Source.Script

/-!
# A wait on a script

A script answers at once, step by step, and with its last step again and again. So a wait on one is
all arithmetic: its `k`-th question is asked after `k` pauses, and it ends at the first step that
decides it, or when the pauses have used up the budget, whichever comes first.

A script without steps fails at the first question, which decides the wait too. Without a budget and
without a step that decides it, the wait never ends.

The invariant is where the wait stands after `k` passes: `k` pauses have been slept, the script has
been asked `k` times, and the representation at hand is the one that the last of these steps showed.
-/

namespace ResourceWait

variable {R : Type}

namespace Script

/-- The step that a script answers its `k`-th question with, counted from zero. The last one
stays. -/
def stepAt (steps : List (ScriptStep R)) (k : Nat) : Option (ScriptStep R) :=
  steps[min k (steps.length - 1)]?

/-- The script has these steps, and `k` questions were asked. -/
structure Played (steps : List (ScriptStep R)) (k : Nat) (script : Script R) : Prop where
  /-- The steps stay as they are. -/
  steps_eq : script.steps = steps.toArray
  /-- Every question counts. -/
  count_eq : script.count = k

/-- A script built from steps has them in order, and was not asked yet. -/
theorem played_ofSteps (steps : List (ScriptStep R)) : Played steps 0 (ofSteps steps) := by
  have build : ∀ (steps : List (ScriptStep R)) (script : Script R),
      (steps.foldl thenStep script).steps = script.steps ++ steps.toArray
        ∧ (steps.foldl thenStep script).count = script.count := by
    intro steps
    induction steps with
    | nil => simp
    | cons step rest ih =>
      intro script
      obtain ⟨hsteps, hcount⟩ := ih (script.thenStep step)
      refine ⟨?_, hcount⟩
      rw [List.foldl_cons, hsteps]
      simp [thenStep]
  obtain ⟨hsteps, hcount⟩ := build steps empty
  exact ⟨by rw [ofSteps, hsteps]; simp [empty], hcount⟩

/-- The next step of a script that has been played so far. -/
theorem Played.current?_eq {steps : List (ScriptStep R)} {k : Nat} {script : Script R}
    (h : Played steps k script) : script.current? = stepAt steps k := by
  rw [current?, h.steps_eq, h.count_eq, stepAt]
  rcases Nat.lt_or_ge k steps.length with hlt | hge
  · rw [show min k (steps.length - 1) = k by omega]
    simp [hlt]
  · rw [show min k (steps.length - 1) = steps.length - 1 by omega]
    simp [hge, List.getLast?_eq_getElem?]

variable [Resource R]

/-- What a script answers with a step, or without one. -/
def answerOf (handle : R) : Option (ScriptStep R) → Except FetchError (Observation R)
  | some (.found resource) => .ok (.found resource)
  | some .notFound => .ok .notFound
  | some (.error message) => .error ⟨message⟩
  | none =>
    .error ⟨"no scripted outcome for " ++ Resource.kind R ++ " " ++ Resource.id handle⟩

/-- A script that has been played so far answers with its next step. -/
theorem Played.answer_eq {steps : List (ScriptStep R)} {k : Nat} {script : Script R}
    (h : Played steps k script) (handle : R) (now : Instant) :
    (source.question handle now script).answer = answerOf handle (stepAt steps k) := by
  show script.answer handle = _
  rw [← h.current?_eq]
  rfl

/-- A question plays one step. -/
theorem Played.touch {steps : List (ScriptStep R)} {k : Nat} {script : Script R}
    (h : Played steps k script) (handle : R) (now : Instant) :
    Played steps (k + 1) (source.touch handle now script) :=
  ⟨h.steps_eq, congrArg (· + 1) h.count_eq⟩

/-- **The representation at hand** after `k` questions that decided nothing: the one that the last
of them showed, and before any question the one the wait began with. -/
def handleAt (resource : R) (steps : List (ScriptStep R)) : Nat → R
  | 0 => resource
  | k + 1 => match stepAt steps k with
    | some (.found shown) => shown
    | _ => resource

end Script

variable [Resource R]

/-- **A step that decides a wait**, whatever it is asked with: it does not show the resource, or
shows it in a way that does not leave the wait open. -/
def ScriptStep.IsDecisive (goal : Goal) : ScriptStep R → Prop
  | .found resource => ¬ goal.Pending resource
  | .notFound => True
  | .error _ => True

instance (goal : Goal) : DecidablePred (ScriptStep.IsDecisive goal : ScriptStep R → Prop)
  | .found resource => inferInstanceAs (Decidable (¬ goal.Pending resource))
  | .notFound => .isTrue trivial
  | .error _ => .isTrue trivial

/-- **What a decisive step makes of a wait** that asks with a handle. No step at all decides too,
since a script without steps fails. -/
def Goal.decision (goal : Goal) (handle : R) :
    Option (ScriptStep R) → Except (WaitError R FetchError) R
  | none => .error (.fetch
    ⟨"no scripted outcome for " ++ Resource.kind R ++ " " ++ Resource.id handle⟩)
  | some (.error message) => .error (.fetch ⟨message⟩)
  | some .notFound => match goal with
    | .status target _ =>
      .error (.notFound (Resource.kind R) (Resource.id handle) target handle)
    | .deletion => .ok handle
  | some (.found shown) => match goal, Resource.status shown with
    | .status target _, some current =>
      if Status.agree current target then .ok shown
      else .error (.failure (Resource.kind R) (Resource.id shown) current shown)
    | _, _ => .error (.misuse (Resource.kind R))

/-- A decisive step settles the wait with its decision. -/
theorem Goal.verdict_of_isDecisive {goal : Goal} {step : Option (ScriptStep R)}
    (h : ∀ known ∈ step, known.IsDecisive goal) (handle : R) :
    ∃ entries, goal.verdict handle (Script.answerOf handle step)
      = .settled entries (goal.decision handle step) := by
  obtain _ | (shown | _ | message) := step
  · exact ⟨_, rfl⟩
  · have hdecisive : ¬ goal.Pending shown := h _ rfl
    cases goal with
    | deletion => exact absurd trivial hdecisive
    | status target failures =>
      cases hstatus : Resource.status shown with
      | none => simp [Script.answerOf, verdict, judge, decision, hstatus]
      | some current =>
        simp only [Script.answerOf, verdict, judge, decision, hstatus]
        by_cases hagree : Status.agree current target = true
        · rw [if_pos hagree, if_pos hagree]
          exact ⟨_, rfl⟩
        · by_cases hfailed : Status.isAnyOf current failures = true
          · rw [if_neg hagree, if_neg hagree, if_pos hfailed]
            exact ⟨_, rfl⟩
          · exact absurd ⟨current, hstatus, by simpa using hagree, by simpa using hfailed⟩ hdecisive
  · cases goal <;> exact ⟨_, rfl⟩
  · exact ⟨_, rfl⟩

/-- **The first step that decides a wait.** A script without steps is decided at once. -/
def firstDecisive? (goal : Goal) (steps : List (ScriptStep R)) : Option Nat :=
  if steps.isEmpty then some 0 else steps.findIdx? fun step => step.IsDecisive goal

theorem firstDecisive?_cons (goal : Goal) (first : ScriptStep R) (rest : List (ScriptStep R)) :
    firstDecisive? goal (first :: rest)
      = (first :: rest).findIdx? fun step => step.IsDecisive goal := rfl

/-- The first decisive step is the one that the script answers its question with. -/
theorem stepAt_firstDecisive? {goal : Goal} {steps : List (ScriptStep R)} {i : Nat}
    (h : firstDecisive? goal steps = some i) :
    Script.stepAt steps i = steps[i]? ∧ ∀ step ∈ steps[i]?, step.IsDecisive goal := by
  cases steps with
  | nil => simp [Script.stepAt]
  | cons first rest =>
    rw [firstDecisive?_cons] at h
    obtain ⟨hlt, hdecisive, -⟩ := List.findIdx?_eq_some_iff_getElem.mp h
    refine ⟨?_, ?_⟩
    · rw [Script.stepAt, show min i ((first :: rest).length - 1) = i by omega]
    · rw [List.getElem?_eq_getElem hlt]
      rintro step ⟨⟩
      exact of_decide_eq_true hdecisive

/-- **Before the first decisive step every question is answered with a pending representation**, the
last step included where it is asked for again. -/
theorem pending_of_firstDecisive? {goal : Goal} {steps : List (ScriptStep R)} {n k : Nat}
    (h : ∀ i, firstDecisive? goal steps = some i → n ≤ i) (hk : k < n) :
    ∃ shown, Script.stepAt steps k = some (.found shown) ∧ goal.Pending shown := by
  cases steps with
  | nil => exact absurd (h 0 rfl) (Nat.not_le_of_lt (Nat.zero_lt_of_lt hk))
  | cons first rest =>
    have hlt : min k ((first :: rest).length - 1) < (first :: rest).length := by
      rw [List.length_cons]
      omega
    have hstep :
        ¬ ScriptStep.IsDecisive goal (first :: rest)[min k ((first :: rest).length - 1)] := by
      simp only [firstDecisive?_cons] at h
      cases hfirst : (first :: rest).findIdx? fun step => decide (step.IsDecisive goal) with
      | none =>
        have hnone := List.findIdx?_eq_none_iff.mp hfirst _ (List.getElem_mem hlt)
        exact of_decide_eq_false hnone
      | some i =>
        obtain ⟨hi, -, hbefore⟩ := List.findIdx?_eq_some_iff_getElem.mp hfirst
        have hle := h i hfirst
        exact fun hd => hbefore _ (by omega) (decide_eq_true hd)
    rw [Script.stepAt, List.getElem?_eq_getElem hlt]
    generalize (first :: rest)[min k ((first :: rest).length - 1)] = step at hstep
    obtain shown | _ | message := step
    · exact ⟨shown, rfl, Decidable.not_not.mp hstep⟩
    · exact absurd trivial hstep
    · exact absurd trivial hstep

/-! ### Passing through a script -/

section Passing

open Routine Script

variable {goal : Goal} {pace : Pace} {steps : List (ScriptStep R)} {script : Script R}

/-- A pass that is answered with a pending representation takes one pause and goes on with it. -/
theorem execute_poll_of_pending {k : Nat} {start now : Instant} {shown : R}
    (played : Played steps k script)
    (hstep : stepAt steps k = some (.found shown)) (hpending : goal.Pending shown)
    (unspent : pace.isSpent (now - start) = false) (fuel : Nat) (handle : R) :
    ∃ events : List (Event R FetchError), (questions events).map (·.start) = [now]
      ∧ (poll source goal pace start (fuel + 1) handle).execute ⟨now, none⟩ script
        = ((poll source goal pace start fuel shown).execute ⟨now + pace.lap, none⟩
            (source.touch handle now script)).behind events := by
  obtain ⟨entries, hverdict⟩ := Goal.verdict_of_pending (E := FetchError) hpending handle
  have hanswer : (source.question handle now script).answer = .ok (.found shown) := by
    rw [played.answer_eq, hstep]
    rfl
  rw [← hanswer] at hverdict
  have rest := course_execute source goal pace start fuel shown ⟨now + pace.lap, none⟩
    (source.touch handle now script)
  have pass : Course source goal pace start (fuel + 1) handle ⟨now, none⟩ script _ :=
    .again unspent hverdict rfl rest
  refine ⟨_, ?_, pass.execute_eq⟩
  simp [Source.question]

/-- **The first `n` passes of a wait that nothing decides.** They take `n` pauses, ask `n`
questions, one at the start of each pass, and leave the wait with what the last of them showed. -/
theorem execute_poll_through (start : Instant) (resource : R) (fresh : Played steps 0 script)
    {n : Nat}
    (hpending : ∀ k < n, ∃ shown, stepAt steps k = some (.found shown) ∧ goal.Pending shown)
    (hunspent : ∀ k < n, pace.isSpent (k * pace.lap) = false) (fuel : Nat) :
    ∃ (events : List (Event R FetchError)) (later : Script R), Played steps n later
      ∧ (questions events).map (·.start) = (List.range n).map (start + · * pace.lap)
      ∧ (poll source goal pace start (n + fuel) resource).execute ⟨start, none⟩ script
        = ((poll source goal pace start fuel (handleAt resource steps n)).execute
            ⟨start + n * pace.lap, none⟩ later).behind events := by
  induction n generalizing fuel with
  | zero =>
    refine ⟨[], script, fresh, rfl, ?_⟩
    rw [Nat.zero_add, Nat.zero_mul]
    rfl
  | succ n ih =>
    obtain ⟨events, later, played, hstarts, hrun⟩ :=
      ih (fun k hk => hpending k (Nat.lt_succ_of_lt hk))
        (fun k hk => hunspent k (Nat.lt_succ_of_lt hk)) (fuel + 1)
    obtain ⟨shown, hstep, hshown⟩ := hpending n (Nat.lt_succ_self n)
    have unspent : pace.isSpent (start + n * pace.lap - start) = false := by
      rw [Nat.add_sub_cancel_left]
      exact hunspent n (Nat.lt_succ_self n)
    obtain ⟨pass, hstart, hpass⟩ :=
      execute_poll_of_pending played hstep hshown unspent fuel (handleAt resource steps n)
    have hhandle : handleAt resource steps (n + 1) = shown := by
      rw [handleAt, hstep]
    have hplayed := played.touch (handleAt resource steps n) (start + n * pace.lap)
    refine ⟨events ++ pass, _, hplayed, ?_, ?_⟩
    · rw [questions_append, List.map_append, hstarts, hstart, List.range_succ, List.map_append]
      rfl
    · rw [Nat.succ_add_eq_add_succ, hrun, hpass, Run.behind_behind, hhandle, Nat.succ_mul,
        Nat.add_assoc]

/-- **A wait ends at its first decisive step**, if the budget lasts until then. -/
theorem execute_poll_decided (start : Instant) (resource : R) (fresh : Played steps 0 script)
    {i : Nat} (hfirst : firstDecisive? goal steps = some i)
    (hunspent : ∀ k ≤ i, pace.isSpent (k * pace.lap) = false) (fuel : Nat) :
    let run := (poll source goal pace start (i + (fuel + 1)) resource).execute ⟨start, none⟩ script
    run.result = some (goal.decision (handleAt resource steps i) steps[i]?,
        ⟨start + i * pace.lap, none⟩)
      ∧ (questions run.events).map (·.start) = (List.range (i + 1)).map (start + · * pace.lap)
      ∧ run.source.count = i + 1 := by
  obtain ⟨hstep, hdecisive⟩ := stepAt_firstDecisive? hfirst
  have hpending : ∀ k < i, ∃ shown, stepAt steps k = some (.found shown) ∧ goal.Pending shown :=
    fun k hk => pending_of_firstDecisive?
      (fun j hj => Nat.le_of_eq (Option.some.inj (hfirst.symm.trans hj))) hk
  obtain ⟨events, later, played, hstarts, hrun⟩ :=
    execute_poll_through start resource fresh hpending
      (fun k hk => hunspent k (Nat.le_of_lt hk)) (fuel + 1)
  obtain ⟨entries, hverdict⟩ := Goal.verdict_of_isDecisive hdecisive (handleAt resource steps i)
  have unspent : pace.isSpent (start + i * pace.lap - start) = false := by
    rw [Nat.add_sub_cancel_left]
    exact hunspent i (Nat.le_refl i)
  rw [← hstep, ← played.answer_eq _ (start + i * pace.lap)] at hverdict
  have last : Course source goal pace start (fuel + 1) (handleAt resource steps i)
      ⟨start + i * pace.lap, none⟩ later _ := .settled unspent hverdict
  dsimp only
  rw [hrun, last.execute_eq, ← hstep]
  refine ⟨rfl, ?_, (played.touch _ (start + i * pace.lap)).count_eq⟩
  rw [Run.behind, questions_append, List.map_append, hstarts, List.range_succ, List.map_append]
  simp [Source.question]

/-- **A wait times out** at the first pass at which the pauses have used up its budget. -/
theorem execute_poll_timedOut (start : Instant) (resource : R) (fresh : Played steps 0 script)
    {n : Nat}
    (hpending : ∀ k < n, ∃ shown, stepAt steps k = some (.found shown) ∧ goal.Pending shown)
    (hunspent : ∀ k < n, pace.isSpent (k * pace.lap) = false)
    (hspent : pace.isSpent (n * pace.lap) = true) (fuel : Nat) :
    let run := (poll source goal pace start (n + (fuel + 1)) resource).execute ⟨start, none⟩ script
    run.result = some (.error (goal.timeoutError pace.timeout (handleAt resource steps n)),
        ⟨start + n * pace.lap, none⟩)
      ∧ (questions run.events).map (·.start) = (List.range n).map (start + · * pace.lap)
      ∧ run.source.count = n := by
  obtain ⟨events, later, played, hstarts, hrun⟩ :=
    execute_poll_through start resource fresh hpending hunspent (fuel + 1)
  have spent : pace.isSpent (start + n * pace.lap - start) = true := by
    rw [Nat.add_sub_cancel_left]
    exact hspent
  have last : Course source goal pace start (fuel + 1) (handleAt resource steps n)
      ⟨start + n * pace.lap, none⟩ later _ := .timedOut spent
  dsimp only
  rw [hrun, last.execute_eq]
  refine ⟨rfl, ?_, played.count_eq⟩
  rw [Run.behind, questions_append, List.map_append, hstarts]
  simp

end Passing

/-! ### The closed form -/

/-- **A wait on a script has a closed form.** Its `k`-th question, counted from zero, is asked when
`k` pauses have gone by, and where it ends is fixed by the first decisive step, the budget and the
length of a pause. -/
structure FollowsScript (goal : Goal) (pace : Pace) (steps : List (ScriptStep R)) (resource : R)
    (start : Instant) (runs : (fuel : Nat) → WaitRun (Script R) R FetchError) : Prop where
  /-- A decisive step within the budget is what the wait ends with. -/
  decided : ∀ i, firstDecisive? goal steps = some i →
    (∀ budget, pace.timeout = some budget → i * pace.lap ≤ budget.nanoseconds) →
    ∀ fuel, i < fuel →
      (runs fuel).result = some (goal.decision (Script.handleAt resource steps i) steps[i]?,
        ⟨start + i * pace.lap, none⟩)
      ∧ (questions (runs fuel).events).map (·.start)
        = (List.range (i + 1)).map (start + · * pace.lap)
      ∧ (runs fuel).source.count = i + 1
  /-- Else a finite budget is, with what the last step within it showed. -/
  timedOut : ∀ budget, pace.timeout = some budget →
    (∀ i, firstDecisive? goal steps = some i → budget.nanoseconds < i * pace.lap) →
    ∃ last, steps[min (budget.nanoseconds / pace.lap) (steps.length - 1)]? = some (.found last)
      ∧ ∀ fuel, budget.nanoseconds / pace.lap + 1 < fuel →
        (runs fuel).result = some (.error (.timeout (Resource.kind R) (Resource.id last) goal.target
            (Resource.status last) budget last),
          ⟨start + (budget.nanoseconds / pace.lap + 1) * pace.lap, none⟩)
        ∧ (questions (runs fuel).events).map (·.start)
          = (List.range (budget.nanoseconds / pace.lap + 1)).map (start + · * pace.lap)
        ∧ (runs fuel).source.count = budget.nanoseconds / pace.lap + 1
  /-- Without a budget and a decisive step it never ends, and asks again and again. -/
  endless : pace.timeout = none → firstDecisive? goal steps = none →
    ∀ fuel, (runs fuel).result = none
      ∧ (questions (runs fuel).events).map (·.start)
        = (List.range fuel).map (start + · * pace.lap)
      ∧ (runs fuel).source.count = fuel

open Routine Script in
/-- A wait that begins now follows its script. -/
theorem followsScript_pollFromNow (goal : Goal) {pace : Pace} (hlap : 0 < pace.lap)
    (steps : List (ScriptStep R)) (resource : R) (start : Instant) :
    FollowsScript goal pace steps resource start fun fuel =>
      (pollFromNow source goal pace fuel resource).execute ⟨start, none⟩ (ofSteps steps) := by
  have hpoll : ∀ fuel, (pollFromNow source goal pace fuel resource).execute ⟨start, none⟩
      (ofSteps steps) = (poll source goal pace start fuel resource).execute ⟨start, none⟩
        (ofSteps steps) := by
    intro fuel
    rw [pollFromNow_eq, execute_bind]
    rfl
  have fresh := played_ofSteps steps
  simp only [hpoll]
  refine ⟨fun i hfirst hbudget fuel hfuel => ?_, fun budget hbudget hlate => ?_,
    fun hnone hfirst fuel => ?_⟩
  · obtain ⟨rest, rfl⟩ := Nat.exists_eq_add_of_lt hfuel
    exact execute_poll_decided start resource fresh hfirst (fun k hk =>
      Pace.isSpent_eq_false fun budget h =>
        Nat.le_trans (Nat.mul_le_mul_right pace.lap hk) (hbudget budget h)) rest
  · have hpending : ∀ k < budget.nanoseconds / pace.lap + 1, ∃ shown,
        stepAt steps k = some (.found shown) ∧ goal.Pending shown := fun k =>
      pending_of_firstDecisive? fun i hi => (Nat.div_lt_iff_lt_mul hlap).mpr (hlate i hi)
    have hunspent : ∀ k < budget.nanoseconds / pace.lap + 1,
        pace.isSpent (k * pace.lap) = false := by
      intro k hk
      refine Pace.isSpent_eq_false fun budget' h => ?_
      obtain rfl := Option.some.inj (hbudget.symm.trans h)
      exact (Nat.le_div_iff_mul_le hlap).mp (Nat.le_of_lt_succ hk)
    have hspent : pace.isSpent ((budget.nanoseconds / pace.lap + 1) * pace.lap) = true :=
      (Pace.isSpent_iff hbudget _).mpr ((Nat.div_lt_iff_lt_mul hlap).mp (Nat.lt_succ_self _))
    obtain ⟨last, hstep, -⟩ := hpending _ (Nat.lt_succ_self _)
    refine ⟨last, hstep, fun fuel hfuel => ?_⟩
    obtain ⟨rest, rfl⟩ := Nat.exists_eq_add_of_lt hfuel
    have h := execute_poll_timedOut start resource fresh hpending hunspent hspent rest
    rw [handleAt, hstep, hbudget] at h
    exact h
  · have hpending : ∀ k < fuel, ∃ shown, stepAt steps k = some (.found shown)
        ∧ goal.Pending shown := fun k =>
      pending_of_firstDecisive? fun i hi =>
        absurd (hfirst.symm.trans hi) (Option.some_ne_none i).symm
    have hunspent : ∀ k < fuel, pace.isSpent (k * pace.lap) = false := fun k _ =>
      Pace.isSpent_eq_false fun budget h => absurd (hnone.symm.trans h) (Option.some_ne_none _).symm
    obtain ⟨events, later, played, hstarts, hrun⟩ :=
      execute_poll_through start resource fresh hpending hunspent 0
    rw [Nat.add_zero] at hrun
    rw [hrun]
    refine ⟨rfl, ?_, played.count_eq⟩
    simp only [poll_zero, execute_halt]
    rw [Run.behind, List.append_nil]
    exact hstarts

open Routine Script in
/-- **Waits follow their script**: those for a status that the resource is not in yet, and those for
a deletion. -/
theorem waits_followScript (target : String) (failures : List String) (pace : Pace)
    (hlap : 0 < pace.lap) (steps : List (ScriptStep R)) (resource : R) (start : Instant) :
    (∀ status, Resource.status resource = some status → Status.agree status target = false →
      FollowsScript (.status target failures) pace steps resource start fun fuel =>
        (waitForStatus source target failures pace fuel resource).execute ⟨start, none⟩
          (ofSteps steps))
    ∧ FollowsScript .deletion pace steps resource start fun fuel =>
        (waitForDelete source pace fuel resource).execute ⟨start, none⟩ (ofSteps steps) := by
  refine ⟨fun status hstatus hagree => ?_, ?_⟩
  · simp only [waitForStatus_eq_pollFromNow hstatus hagree]
    exact followsScript_pollFromNow (.status target failures) hlap ..
  · simp only [waitForDelete_eq_pollFromNow]
    exact followsScript_pollFromNow .deletion hlap ..

open Routine in
/-- A probe that becomes active, as scripted, is returned after two questions and one pause. -/
theorem waits_followScript_active :
    let building : Probe := ⟨"p", some "BUILD"⟩
    let active : Probe := ⟨"p", some "ACTIVE"⟩
    let run := (waitForStatus Script.source "active" ["ERROR"] {} 2 building).execute ⟨0, none⟩
      (Script.ofSteps [.found building, .found active])
    run.result = some (.ok active, ⟨2000000000, none⟩) ∧ run.source.count = 2 := by
  intro building active run
  have follows := (waits_followScript "active" ["ERROR"] {} (by decide)
    [.found building, .found active] building 0).1 "BUILD" rfl (by decide)
  have hwithin : ∀ budget, ({} : Pace).timeout = some budget →
      1 * ({} : Pace).lap ≤ budget.nanoseconds := by
    rintro _ ⟨⟩
    decide
  obtain ⟨hresult, -, hcount⟩ := follows.decided 1 (by decide) hwithin 2 (by decide)
  exact ⟨hresult, hcount⟩

end ResourceWait
