import ResourceWait.Proofs.Extension

/-!
# Waits that come to an end

A wait with a budget and a pause ends. Between two questions lies a whole pause, so the question with
the number `k`, counted from zero, is asked no earlier than `k` pauses after the wait began; and no
question is asked once the budget is spent. So there are at most as many questions as pauses fit into
the budget, and one more – the one that is asked at the very end of the budget. Answers that take
their time only make it fewer.

A wait is followed for a number of passes. If they are more than there can be questions, the wait has
ended within them, and then it makes no difference how many they are.
-/

namespace ResourceWait

variable {S R E : Type}

/-- **A wait comes to an end** after so many questions at most. `follow` is the wait, followed for a
number of passes. -/
structure EndsWithin (most : Nat) (follow : Nat → WaitRun S R E) : Prop where
  /-- It returns: followed for more passes than that, it is always the same run, and that has ended. -/
  returns : ∃ run : WaitRun S R E, (∃ result later, run.result = some (result, later))
    ∧ ∀ fuel, most < fuel → follow fuel = run
  /-- It asks no more often. -/
  questions_le : ∀ fuel, (questions (follow fuel).events).length ≤ most
  /-- It sleeps no more often than it asks. -/
  pauses_le : ∀ fuel,
    (pauses (follow fuel).events).length ≤ (questions (follow fuel).events).length

namespace EndsWithin

/-- A wait that ends within some number of questions ends within every larger one. -/
theorem mono {most most' : Nat} {follow : Nat → WaitRun S R E} (h : EndsWithin most follow)
    (hle : most ≤ most') : EndsWithin most' follow := by
  obtain ⟨run, hended, hrun⟩ := h.returns
  refine ⟨⟨run, hended, fun fuel hfuel => hrun fuel (Nat.lt_of_le_of_lt hle hfuel)⟩, ?_, h.pauses_le⟩
  exact fun fuel => Nat.le_trans (h.questions_le fuel) hle

/-- A wait that is over at once asks nothing. -/
theorem pure (result : Except (WaitError R E) R) (clock : Clock) (s : S) (most : Nat) :
    EndsWithin most fun _ =>
      (Pure.pure result : Routine S (Event R E) (Except (WaitError R E) R)).execute clock s := by
  refine ⟨⟨⟨[], some (result, clock), s⟩, ⟨result, clock, rfl⟩, fun _ _ => rfl⟩, ?_, ?_⟩
  · exact fun _ => Nat.zero_le most
  · exact fun _ => Nat.le_refl 0

end EndsWithin

variable [Resource R]

namespace Course

variable {source : Source S R E} {goal : Goal} {pace : Pace} {start : Instant} {fuel : Nat}
variable {handle : R} {clock : Clock} {s : S} {run : WaitRun S R E}

/-- **Between two questions lies a whole pause.** -/
theorem laps_le_start (course : Course source goal pace start fuel handle clock s run) :
    ∀ (k : Nat) (question : Question R E), (questions run.events)[k]? = some question →
      clock.now + k * pace.lap ≤ question.start := by
  induction course with
  | unfollowed => simp
  | timedOut => simp
  | @settled _ handle clock s =>
    rintro (_ | k) question hk
    · obtain rfl : source.question handle clock.now s = question := by simpa using hk
      simp [Source.question]
    · simp at hk
  | @cancelled _ handle newer clock s =>
    rintro (_ | k) question hk
    · obtain rfl : source.question handle clock.now s = question := by simpa using hk
      simp [Source.question]
    · simp at hk
  | @again _ handle newer clock s _ _ _ _ _ _ ih =>
    rw [questions_behind]
    rintro (_ | k) question hk
    · obtain rfl : source.question handle clock.now s = question := by simpa using hk
      simp [Source.question]
    · have hrest : (source.later handle clock s).now + pace.lap + k * pace.lap ≤ question.start :=
        ih k question (by simpa using hk)
      have hanswered : clock.now ≤ (source.later handle clock s).now := by
        rw [Source.later_now]
        exact source.start_le_stop handle clock.now s
      calc clock.now + (k + 1) * pace.lap
          = clock.now + pace.lap + k * pace.lap := by rw [Nat.succ_mul, Nat.add_assoc,
            Nat.add_comm pace.lap]
        _ ≤ (source.later handle clock s).now + pace.lap + k * pace.lap :=
            Nat.add_le_add_right (Nat.add_le_add_right hanswered _) _
        _ ≤ question.start := hrest

/-- A wait that does not end within the passes that are followed asks once in each. -/
theorem length_questions_of_result_eq_none
    (course : Course source goal pace start fuel handle clock s run) (h : run.result = none) :
    (questions run.events).length = fuel := by
  induction course with
  | unfollowed => rfl
  | timedOut => cases h
  | settled => cases h
  | cancelled => cases h
  | again _ _ _ _ ih =>
    rw [questions_behind, List.length_cons, ih h]

/-- **A wait sleeps at most once for each question.** -/
theorem length_pauses_le (course : Course source goal pace start fuel handle clock s run) :
    (pauses run.events).length ≤ (questions run.events).length := by
  induction course with
  | unfollowed => exact Nat.le_refl _
  | timedOut => exact Nat.le_refl _
  | settled => simp
  | cancelled =>
    rw [pauses_event, pauses_append, pauses_map_log, pauses_slept, questions_event, List.nil_append]
    split
    · exact Nat.succ_le_succ (Nat.zero_le _)
    · exact Nat.zero_le _
  | again _ _ _ _ ih =>
    rw [questions_behind, pauses_behind]
    exact Nat.succ_le_succ ih

/-- **A wait asks at most once for each pause that fits into its budget**, and once more. -/
theorem length_questions_le {budget : Duration} (hbudget : pace.timeout = some budget)
    (hlap : 0 < pace.lap) (course : Course source goal pace clock.now fuel handle clock s run) :
    (questions run.events).length ≤ budget.nanoseconds / pace.lap + 1 := by
  cases hlength : (questions run.events).length with
  | zero => exact Nat.zero_le _
  | succ n =>
    have hn : n < (questions run.events).length := hlength ▸ Nat.lt_succ_self n
    have hlast := List.getElem?_eq_getElem hn
    have hlaps := course.laps_le_start n _ hlast
    have hwithin := Pace.le_of_isSpent_eq_false hbudget
      (course.isSpent_eq_false _ (List.getElem_mem hn)).2
    refine Nat.succ_le_succ ((Nat.le_div_iff_mul_le hlap).mpr ?_)
    calc n * pace.lap ≤ (questions run.events)[n].start - clock.now :=
          Nat.le_sub_of_add_le' hlaps
      _ ≤ budget.nanoseconds := hwithin

/-- **A wait with a budget and a pause ends**, within so many passes. -/
theorem exists_result {budget : Duration} (hbudget : pace.timeout = some budget)
    (hlap : 0 < pace.lap) (hfuel : budget.nanoseconds / pace.lap + 2 ≤ fuel)
    (course : Course source goal pace clock.now fuel handle clock s run) :
    ∃ result later, run.result = some (result, later) := by
  cases hresult : run.result with
  | none =>
    have hasked := course.length_questions_le hbudget hlap
    rw [course.length_questions_of_result_eq_none hresult] at hasked
    exact absurd (Nat.le_trans hfuel hasked) (Nat.not_succ_le_self _)
  | some ended => exact ⟨ended.1, ended.2, rfl⟩

end Course

/-- **A wait that has ended is the same wait** if it is followed for more passes. -/
theorem execute_pollFromNow_of_le (source : Source S R E) (goal : Goal) (pace : Pace)
    {fuel fuel' : Nat} (hfuel : fuel ≤ fuel') (resource : R) (clock : Clock) (s : S)
    {result : Except (WaitError R E) R} {later : Clock}
    (hresult : ((Routine.pollFromNow source goal pace fuel resource).execute clock s).result
      = some (result, later)) :
    (Routine.pollFromNow source goal pace fuel' resource).execute clock s
      = (Routine.pollFromNow source goal pace fuel resource).execute clock s := by
  have outlasts : Outlasts (fun _ : WaitError R E => False) goal pace goal pace :=
    ⟨rfl, fun _ => id, fun _ hspent _ => .inr ⟨hspent, rfl, rfl⟩, fun _ _ => .inl rfl⟩
  have extended := extends_pollFromNow outlasts hfuel source resource clock s
  exact extended.same result later hresult fun _ _ => id

/-- **A wait that begins now comes to an end**, if it has a budget and a pause. -/
theorem endsWithin_pollFromNow (source : Source S R E) (goal : Goal) {pace : Pace}
    {budget : Duration} (hbudget : pace.timeout = some budget) (hlap : 0 < pace.lap) (resource : R)
    (clock : Clock) (s : S) :
    EndsWithin (budget.nanoseconds / pace.lap + 1) fun fuel =>
      (Routine.pollFromNow source goal pace fuel resource).execute clock s := by
  have course (fuel : Nat) := course_pollFromNow source goal pace fuel resource clock s
  obtain ⟨result, later, hresult⟩ :=
    (course (budget.nanoseconds / pace.lap + 2)).exists_result hbudget hlap (Nat.le_refl _)
  refine ⟨⟨_, ⟨result, later, hresult⟩, fun fuel hfuel => ?_⟩, fun fuel => ?_, fun fuel => ?_⟩
  · exact execute_pollFromNow_of_le source goal pace hfuel resource clock s hresult
  · exact (course fuel).length_questions_le hbudget hlap
  · exact (course fuel).length_pauses_le

open Routine in
/-- **Waits with a budget come to an end**, whatever their source answers and however long it takes.
If every pause lasts for some time at least, there are no more questions than that time fits into the
budget, and one, and no more pauses than questions. -/
theorem waits_endWithin (source : Source S R E) {pace : Pace} {budget : Duration}
    (hbudget : pace.timeout = some budget) {least : Nat} (hpos : 0 < least) (hleast : least ≤ pace.lap)
    (resource : R) (clock : Clock) (s : S) :
    (∀ (target : String) (failures : List String),
      EndsWithin (budget.nanoseconds / least + 1) fun fuel =>
        (waitForStatus source target failures pace fuel resource).execute clock s)
    ∧ EndsWithin (budget.nanoseconds / least + 1) fun fuel =>
        (waitForDelete source pace fuel resource).execute clock s := by
  have hlap : 0 < pace.lap := Nat.lt_of_lt_of_le hpos hleast
  have hmost : budget.nanoseconds / pace.lap + 1 ≤ budget.nanoseconds / least + 1 :=
    Nat.succ_le_succ (Nat.div_le_div_left hleast hpos)
  refine ⟨fun target failures => ?_, ?_⟩
  · obtain ⟨result, hwait⟩ | hwait := waitForStatus_cases source target resource
    · simp only [hwait]
      exact .pure result clock s _
    · simp only [hwait]
      exact (endsWithin_pollFromNow source _ hbudget hlap resource clock s).mono hmost
  · simp only [waitForDelete_eq_pollFromNow]
    exact (endsWithin_pollFromNow source _ hbudget hlap resource clock s).mono hmost

open Routine in
/-- A probe that stays as it is, and a budget in which two and a half pauses fit: three questions and
three pauses. -/
theorem waits_endWithin_stubborn :
    let source : Source Unit Probe FetchError :=
      ⟨fun handle _ s => ({ answer := .ok (.found handle) }, s)⟩
    let pace : Pace := { interval := .ofSeconds 2, timeout := some (.ofSeconds 5) }
    let wait (fuel : Nat) := (waitForDelete source pace fuel ⟨"p", some "error"⟩).execute ⟨0, none⟩ ()
    pace.timeout = some (.ofSeconds 5) ∧ 0 < 2000000000 ∧ 2000000000 ≤ pace.lap
      ∧ EndsWithin 3 wait
      ∧ (questions (wait 4).events).length = 3 ∧ (pauses (wait 4).events).length = 3 := by
  intro source pace wait
  have hbudget : pace.timeout = some (.ofSeconds 5) := rfl
  have hlap : 2000000000 ≤ pace.lap := by decide
  refine ⟨hbudget, by decide, hlap, ?_, ?_, ?_⟩
  · exact (waits_endWithin source hbudget (by decide) hlap ⟨"p", some "error"⟩ ⟨0, none⟩ ()).2
  · subst wait pace source
    rfl
  · subst wait pace source
    rfl

end ResourceWait
