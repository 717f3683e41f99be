import ResourceWait.Proofs.Logbook

/-!
# Counting pauses

The events of a run show the pauses that were slept, and a pause that a cancelled token does not let
begin leaves nothing behind. To say how often a wait comes to the point at which it pauses, another step
is put between its passes: a pause that is counted makes it the same wait with a tally.

The tally keeps step with the log: `Tallies` says of two routines that they do the same, and that the
one counts the lines of level `debug` that the other writes. It is a property of pieces of a wait that
their composition keeps, so it holds of whole waits.
-/

namespace ResourceWait

variable {S R E α β : Type}

namespace Routine

/-- **A routine with a tally** beside its clock. -/
abbrev Counting (S R E : Type) := StateT Nat (Routine S (Event R E))

/-- A pause that is counted when it is come to, whether it is let begin or not. -/
def countedPause (interval : Duration) : Counting S R E Bool := do
  modify (· + 1)
  (pause interval : Routine S (Event R E) Bool)

/-- The lines of level `debug` of a transcript. -/
def debugLines (events : List (Event R E)) : List LogEntry :=
  (logged events).filter fun entry => entry.level = .debug

@[simp] theorem debugLines_append (before after : List (Event R E)) :
    debugLines (before ++ after) = debugLines before ++ debugLines after := by
  simp [debugLines]

@[simp] theorem debugLines_map_log (entries : List LogEntry) :
    debugLines (entries.map .log : List (Event R E))
      = entries.filter fun entry => entry.level = .debug := by
  simp [debugLines]

/-- A pause says nothing. -/
theorem debugLines_pause (interval : Duration) (clock : Clock) (s : S) :
    debugLines ((pause interval : Routine S (Event R E) Bool).execute clock s).events = [] := by
  cases hcut : clock.interruption? (clock.wake interval) with
  | none =>
    rw [execute_pause_of_interruption?_eq_none hcut]
    rfl
  | some moment =>
    rw [execute_pause_of_interruption?_eq_some hcut]
    simp [debugLines]

/-- **One routine tallies another**: it does what that does, and adds the lines of level `debug` that
are written to what it has counted so far. -/
def Tallies (tally : Counting S R E α) (x : Routine S (Event R E) α) : Prop :=
  ∀ n clock s, (tally.run n).execute clock s
    = { x.execute clock s with
        result := (x.execute clock s).result.map fun ended =>
          ((ended.1, n + (debugLines (x.execute clock s).events).length), ended.2) }

namespace Tallies

/-- A routine that writes no line of level `debug` has nothing to count. -/
protected theorem lift {x : Routine S (Event R E) α}
    (h : ∀ clock s, debugLines (x.execute clock s).events = []) :
    Tallies (liftM x : Counting S R E α) x := by
  intro n clock s
  simp [execute_map, h]

protected theorem pure (a : α) : Tallies (pure a : Counting S R E α) (pure a) :=
  fun _ _ _ => rfl

/-- **One routine after another** is tallied by the tally of the one and then that of the other. -/
protected theorem bind {x : Routine S (Event R E) α} {f : α → Routine S (Event R E) β}
    {tally : Counting S R E α} {tallies : α → Counting S R E β} (hx : Tallies tally x)
    (hf : ∀ a, Tallies (tallies a) (f a)) : Tallies (tally >>= tallies) (x >>= f) := by
  intro n clock s
  rw [StateT.run_bind, execute_bind, execute_bind, hx]
  cases hresult : (x.execute clock s).result with
  | none => rfl
  | some ended =>
    dsimp only [Option.map_some]
    rw [hf]
    simp [Nat.add_assoc]

/-- Good and bad news are not counted. -/
protected theorem log {entries : List LogEntry} (h : ∀ entry ∈ entries, entry.level ≠ .debug) :
    Tallies (liftM (log entries : Routine S (Event R E) Unit) : Counting S R E Unit) (log entries) := by
  refine .lift fun clock s => ?_
  rw [execute_log, debugLines_map_log, List.filter_eq_nil_iff]
  exact fun entry hmem => by simpa using h entry hmem

/-- **A line of level `debug` before a pause** is counted where the pause is come to. -/
theorem log_pause {entry : LogEntry} (h : entry.level = .debug) (interval : Duration) :
    Tallies ((liftM (log [entry] : Routine S (Event R E) Unit) : Counting S R E Unit)
        >>= fun _ => countedPause interval)
      (log [entry] >>= fun _ => pause interval) := by
  intro n clock s
  have hrun : (countedPause interval : Counting S R E Bool).run n
      = (fun slept => (slept, n + 1)) <$> pause interval := rfl
  have hone : debugLines (.log entry
      :: ((pause interval : Routine S (Event R E) Bool).execute clock s).events) = [entry] := by
    rw [← List.singleton_append, debugLines_append, debugLines_pause]
    simp [debugLines, h]
  simp [execute_bind, hrun, hone]

end Tallies

variable [Resource R] (source : Source S R E) (pace : Pace) (goal : Goal) (start : Instant)

/-- **A wait whose pauses are counted tallies the wait**. -/
theorem tallies_poll (fuel : Nat) (current : R) :
    Tallies (pollWith (countedPause pace.interval) source goal pace start fuel current)
      (poll source goal pace start fuel current) := by
  induction fuel generalizing current with
  | zero => exact .lift fun _ _ => rfl
  | succ fuel ih =>
    rw [pollWith, poll_succ]
    refine Tallies.bind (.lift fun _ _ => rfl) fun now => ?_
    split
    · refine Tallies.bind (.log ?_) fun _ => .pure _
      cases goal <;> simp [Goal.timeoutNotice, LogEntry.level, Notice.about, Notice.level]
    · refine Tallies.bind (.lift fun _ _ => rfl) fun answer => ?_
      cases answer with
      | error e => exact .pure _
      | ok observation =>
        dsimp only
        cases hjudge : goal.judge current observation with
        | settled entries result =>
          have hverdict : goal.verdict current (.ok observation) = .settled entries result := hjudge
          refine Tallies.bind (.log fun entry hentry => ?_) fun _ => .pure _
          rw [Goal.entries_of_settled hverdict, Option.mem_toList] at hentry
          exact Goal.level_ne_debug_of_closing? hentry
        | unsettled entries newer =>
          have hverdict : goal.verdict current (.ok observation) = .unsettled entries newer := hjudge
          obtain rfl := Goal.entries_of_unsettled hverdict
          -- the line alone is not counted yet, so it is taken together with the pause
          dsimp only
          rw [← bind_assoc, ← bind_assoc]
          refine (Tallies.log_pause (goal.level_opening newer) pace.interval).bind fun slept => ?_
          split
          · exact ih newer
          · exact .pure _

/-- A wait that begins now is tallied. -/
theorem tallies_pollFromNow (fuel : Nat) (resource : R) :
    Tallies (pollFromNowWith (countedPause pace.interval) source goal pace fuel resource)
      (pollFromNow source goal pace fuel resource) :=
  Tallies.bind (.lift fun _ _ => rfl) fun start => tallies_poll source pace goal start fuel resource

/-- A wait for a status is tallied. -/
theorem tallies_waitForStatus (target : String) (failures : List String) (fuel : Nat) (resource : R) :
    Tallies
      (waitForStatusWith (countedPause pace.interval) source target failures pace fuel resource)
      (waitForStatus source target failures pace fuel resource) := by
  unfold waitForStatus waitForStatusWith
  cases Resource.status resource with
  | none => exact .pure _
  | some status =>
    dsimp only
    split
    · exact .pure _
    · exact tallies_pollFromNow source pace (.status target failures) fuel resource

/-- A wait for a deletion is tallied. -/
theorem tallies_waitForDelete (fuel : Nat) (resource : R) :
    Tallies (waitForDeleteWith (countedPause pace.interval) source pace fuel resource)
      (waitForDelete source pace fuel resource) := by
  rw [waitForDeleteWith_eq, waitForDelete_eq_pollFromNow]
  exact tallies_pollFromNow source pace .deletion fuel resource

/-- **A wait comes to its pause** once for every answer that leaves it open. -/
theorem Tallies.execute_eq {goal : Goal} {asked : List (Question R E)} {clock later : Clock} {s : S}
    {tally : Counting S R E (Except (WaitError R E) R)}
    {x : Routine S (Event R E) (Except (WaitError R E) R)} (tallies : Tallies tally x)
    {result : Except (WaitError R E) R} (hresult : (x.execute clock s).result = some (result, later))
    (told : goal.IsToldBy asked result (logged (x.execute clock s).events)) :
    (tally.run 0).execute clock s = ⟨(x.execute clock s).events,
      some ((result, (goal.leftOpen asked).length), later), (x.execute clock s).source⟩ := by
  rw [tallies, hresult, debugLines, told.filter_debug, List.length_map, Nat.zero_add]
  rfl

end Routine

end ResourceWait
