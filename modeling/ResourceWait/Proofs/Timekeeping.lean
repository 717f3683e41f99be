import ResourceWait.Proofs.Course
import ResourceWait.Wait.Cleanup

/-!
# Routines keep time

Time never goes back. A routine asks nothing before it begins, each of its questions is answered
before the next is asked, and it ends no earlier than its last question was answered – whatever the
source replies, and whether or not the routine comes to an end.

`Routine.KeepsTime` is kept by every operation of a routine and by putting one behind another, so it
is proved of the waits and the cleanups along the way they are written, without a look at what they
ask for.
-/

namespace ResourceWait

variable {S R R' E α β : Type}

/-- **A run keeps time** that begins at `now`. -/
structure Run.KeepsTime (now : Instant) (run : Run S (Event R E) (α × Clock)) : Prop where
  /-- Nothing is asked before. -/
  asks_after : ∀ question ∈ questions run.events, now ≤ question.start
  /-- Each question is answered before the next is asked. -/
  in_order : (questions run.events).Pairwise fun earlier later => earlier.stop ≤ later.start
  /-- The run ends after it began, and once all its questions are answered. -/
  ends_after : ∀ value later, run.result = some (value, later) →
    now ≤ later.now ∧ ∀ question ∈ questions run.events, question.stop ≤ later.now

/-- A run that asks nothing keeps time if it ends after it began. -/
theorem Run.keepsTime_of_questions_eq_nil {now : Instant}
    {run : Run S (Event R E) (α × Clock)} (hquestions : questions run.events = [])
    (hend : ∀ value later, run.result = some (value, later) → now ≤ later.now) :
    run.KeepsTime now := by
  refine ⟨?_, ?_, fun value later hresult => ⟨hend value later hresult, ?_⟩⟩
  all_goals simp [hquestions]

/-- A pause that is cut short ends after it began. -/
theorem Clock.now_le_of_interruption? {clock : Clock} {wake moment : Instant}
    (h : clock.interruption? wake = some moment) : clock.now ≤ moment := by
  obtain ⟨now, _ | ⟨_ | since⟩⟩ := clock
  · cases h
  · cases h
  · simp only [interruption?, Option.bind_eq_bind, Option.bind_some] at h
    split at h
    · exact Nat.le_of_eq (Option.some.inj h)
    · rename_i hnow
      split at h
      · cases h
        exact Nat.le_of_not_le hnow
      · cases h

namespace Routine

/-- **A routine keeps time** if every run of it does. -/
def KeepsTime (routine : Routine S (Event R E) α) : Prop :=
  ∀ clock s, (routine.execute clock s).KeepsTime clock.now

namespace KeepsTime

/-! ### The operations of a routine -/

theorem pure (a : α) : KeepsTime (Pure.pure a : Routine S (Event R E) α) := by
  intro clock s
  refine Run.keepsTime_of_questions_eq_nil rfl ?_
  rintro _ _ ⟨⟩
  exact Nat.le_refl _

theorem halt : KeepsTime (Routine.halt : Routine S (Event R E) α) := by
  intro clock s
  refine Run.keepsTime_of_questions_eq_nil rfl ?_
  rintro _ _ ⟨⟩

theorem now : KeepsTime (Routine.now : Routine S (Event R E) Instant) := by
  intro clock s
  refine Run.keepsTime_of_questions_eq_nil rfl ?_
  rintro _ _ ⟨⟩
  exact Nat.le_refl _

theorem log (entries : List LogEntry) :
    KeepsTime (Routine.log entries : Routine S (Event R E) Unit) := by
  intro clock s
  rw [execute_log]
  refine Run.keepsTime_of_questions_eq_nil (questions_map_log entries) ?_
  rintro _ _ ⟨⟩
  exact Nat.le_refl _

theorem fetch (source : Source S R E) (handle : R) : KeepsTime (Routine.fetch source handle) := by
  intro clock s
  rw [execute_fetch]
  refine ⟨?_, ?_, ?_⟩
  · rintro question (_ | ⟨_, hmem⟩)
    · exact Nat.le_refl _
    · cases hmem
  · exact List.pairwise_singleton _ _
  · rintro _ _ ⟨⟩
    refine ⟨?_, ?_⟩
    · rw [clockAfter_now]
      exact Nat.le_add_right _ _
    · rintro question (_ | ⟨_, hmem⟩)
      · exact Nat.le_refl _
      · cases hmem

theorem pause (interval : Duration) :
    KeepsTime (Routine.pause interval : Routine S (Event R E) Bool) := by
  intro clock s
  cases hcut : clock.interruption? (clock.wake interval) with
  | none =>
    rw [execute_pause_of_interruption?_eq_none hcut]
    refine Run.keepsTime_of_questions_eq_nil rfl ?_
    rintro _ _ ⟨⟩
    exact Nat.le_add_right _ _
  | some moment =>
    rw [execute_pause_of_interruption?_eq_some hcut]
    refine Run.keepsTime_of_questions_eq_nil (questions_slept _ _) ?_
    rintro _ _ ⟨⟩
    exact Clock.now_le_of_interruption? hcut

/-- **One routine after another keeps time** if both do. -/
theorem bind {x : Routine S (Event R E) α} {f : α → Routine S (Event R E) β} (hx : KeepsTime x)
    (hf : ∀ a, KeepsTime (f a)) : KeepsTime (x >>= f) := by
  intro clock s
  have first := hx clock s
  rw [execute_bind]
  cases hresult : (x.execute clock s).result with
  | none => exact ⟨first.asks_after, first.in_order, fun _ _ h => nomatch h⟩
  | some ended =>
    obtain ⟨a, between⟩ := ended
    have second := hf a between (x.execute clock s).source
    obtain ⟨hbetween, hanswered⟩ := first.ends_after a between hresult
    refine ⟨fun question hmem => ?_, ?_, fun value later hlater => ?_⟩
    · rw [questions_append, List.mem_append] at hmem
      obtain hmem | hmem := hmem
      · exact first.asks_after question hmem
      · exact Nat.le_trans hbetween (second.asks_after question hmem)
    · rw [questions_append]
      refine List.pairwise_append.mpr ⟨first.in_order, second.in_order, ?_⟩
      intro earlier hearlier later hlater
      exact Nat.le_trans (hanswered earlier hearlier) (second.asks_after later hlater)
    · obtain ⟨hnow, hstop⟩ := second.ends_after value later hlater
      refine ⟨Nat.le_trans hbetween hnow, fun question hmem => ?_⟩
      rw [questions_append, List.mem_append] at hmem
      obtain hmem | hmem := hmem
      · exact Nat.le_trans (hanswered question hmem) hnow
      · exact hstop question hmem

/-- Resources that are seen as others are asked for at the same time. -/
theorem mapEvents (f : R → R') {x : Routine S (Event R E) α} (hx : KeepsTime x) :
    KeepsTime (x.mapEvents (Event.map f)) := by
  intro clock s
  have run := hx clock s
  rw [execute_mapEvents]
  have hquestions := questions_map f (x.execute clock s).events
  refine ⟨?_, ?_, fun value later hlater => ⟨(run.ends_after value later hlater).1, ?_⟩⟩
  · rw [hquestions]
    exact List.forall_mem_map.mpr run.asks_after
  · rw [hquestions]
    exact List.pairwise_map.mpr run.in_order
  · rw [hquestions]
    exact List.forall_mem_map.mpr (run.ends_after value later hlater).2

/-! ### Waits and cleanups -/

/-- Keeping time is a matter of the pieces of a routine. -/
theorem isPiecewise (source : Source S R E) : IsPiecewise source fun _ => KeepsTime where
  pure := pure
  halt := halt
  now := now
  log := log
  fetch := fetch source
  pause := pause
  bind := bind

variable [Resource R]

variable [ToString E]

/-- A cleanup keeps time. -/
theorem waitForDeletions (source : Source S R E) (pace : Pace) (fuel : Nat) (resources : List R) :
    KeepsTime (Routine.waitForDeletions source pace fuel resources) := by
  induction resources with
  | nil => exact pure _
  | cons resource rest ih =>
    refine bind ?_ fun _ => ih.bind fun _ => pure _
    unfold waitForDeletion
    refine bind ((isPiecewise source).waitForDelete pace fuel resource) fun result => ?_
    split
    · exact (log _).bind fun _ => pure _
    · exact (log _).bind fun _ => pure _

end KeepsTime

end Routine

/-- A wait keeps time along its course. -/
theorem Course.keepsTime [Resource R] {source : Source S R E} {goal : Goal} {pace : Pace}
    {start : Instant} {fuel : Nat} {handle : R} {clock : Clock} {s : S} {run : WaitRun S R E}
    (course : Course source goal pace start fuel handle clock s run) : run.KeepsTime clock.now := by
  rw [← course.execute_eq]
  exact (Routine.KeepsTime.isPiecewise source).poll goal pace start fuel handle clock s

end ResourceWait
