import ResourceWait.Config.File
import ResourceWait.Proofs.Records
import ResourceWait.Proofs.Succession
import ResourceWait.Proofs.Termination
import ResourceWait.Service.Compute

/-!
# Cleanups that end

A wait with a budget and a pause ends, after at most one question more than pauses fit into the
budget. A cleanup asks that often for each of its resources at most, since every one of them is waited
for from its own beginning on.

A configuration that was loaded has such a pause, because loading refuses one without. So it is the
check of a configuration on which the end of a cleanup rests.
-/

namespace ResourceWait

variable {S R E : Type}

variable [Resource R]

namespace Course

variable {source : Source S R E} {goal : Goal} {pace : Pace} {start : Instant} {fuel : Nat}
variable {handle : R} {clock : Clock} {s : S} {run : WaitRun S R E}

/-- **A wait ends no later than a pause after its last question was answered**, unless it ends before
the first. -/
theorem later_le (course : Course source goal pace start fuel handle clock s run)
    {result : Except (WaitError R E) R} {later : Clock}
    (hresult : run.result = some (result, later)) :
    later = clock ∨ ∃ question ∈ questions run.events, later.now ≤ question.stop + pace.lap := by
  induction course with
  | unfollowed => cases hresult
  | timedOut =>
    cases hresult
    exact .inl rfl
  | @settled _ handle clock s =>
    cases hresult
    refine .inr ⟨source.question handle clock.now s, by simp, ?_⟩
    rw [Source.later_now]
    exact Nat.le_add_right _ _
  | @cancelled _ handle newer clock s _ moment _ _ cut =>
    cases hresult
    refine .inr ⟨source.question handle clock.now s, by simp, ?_⟩
    rw [← Source.later_now]
    exact Clock.le_wake_of_interruption? cut
  | @again _ handle newer clock s _ _ _ _ _ _ ih =>
    rw [questions_behind]
    obtain rfl | ⟨question, hmem, hle⟩ := ih hresult
    · refine .inr ⟨source.question handle clock.now s, List.mem_cons_self, ?_⟩
      rw [← Source.later_now]
      exact Nat.le_refl _
    · exact .inr ⟨question, List.mem_cons_of_mem _ hmem, hle⟩

/-- On a source that answers at once a wait overruns its budget by one pause at most. -/
theorem later_le_of_isInstant {budget : Duration} (hbudget : pace.timeout = some budget)
    (instant : source.IsInstant)
    (course : Course source goal pace clock.now fuel handle clock s run)
    {result : Except (WaitError R E) R} {later : Clock}
    (hresult : run.result = some (result, later)) :
    later.now ≤ clock.now + (budget.nanoseconds + pace.lap) := by
  obtain rfl | ⟨question, hmem, hle⟩ := course.later_le hresult
  · exact Nat.le_add_right _ _
  · have hstop : question.stop = question.start := course.answers.stop_eq_start instant question hmem
    obtain ⟨hstart, hunspent⟩ := course.isSpent_eq_false question hmem
    have hwithin := Nat.sub_le_iff_le_add'.mp (Pace.le_of_isSpent_eq_false hbudget hunspent)
    calc later.now ≤ question.start + pace.lap := hstop ▸ hle
      _ ≤ clock.now + budget.nanoseconds + pace.lap := Nat.add_le_add_right hwithin _
      _ = clock.now + (budget.nanoseconds + pace.lap) := Nat.add_assoc _ _ _

end Course

namespace Attempt

variable {source : Source S R E} {pace : Pace} {fuel : Nat}

/-- **An attempt has a budget of its own**: it keeps to the budget, counted from where it began, and
if it fails without a failure of the source, it does so because more time than that has passed. -/
structure HasOwnBudget (attempt : Attempt source pace fuel) (budget : Duration) : Prop where
  /-- It keeps to the budget from its own beginning on. -/
  keeps : KeepsBudget .deletion pace fuel attempt.resource attempt.clock attempt.run
  /-- It is given up only once the whole budget has passed since then. -/
  exhausts : ∀ error, attempt.result = .error error → (∃ e, error = .fetch e)
    ∨ error.isTimeout = true
      ∧ budget.nanoseconds < attempt.later.now - attempt.clock.now

/-- Without a token an attempt has the whole budget to itself. -/
theorem hasOwnBudget {budget : Duration} (hbudget : pace.timeout = some budget)
    (attempt : Attempt source pace fuel) (hclock : attempt.clock.token = none) :
    attempt.HasOwnBudget budget := by
  have keeps := attempt.keepsBudget
  refine ⟨keeps, fun error herror => ?_⟩
  have hended : attempt.run.result = some (.error error, attempt.later) := herror ▸ attempt.ended
  by_cases htimeout : error.isTimeout = true
  · obtain ⟨other, -, hother, -, -, -, hspent, -⟩ :=
      keeps.timesOut error attempt.later hended htimeout
    obtain rfl := Option.some.inj (hbudget.symm.trans hother)
    exact .inr ⟨htimeout, hspent⟩
  · -- the token of a cancelled wait is not there to be cancelled
    have htoken := attempt.course.token_eq_none hclock attempt.ended
    obtain ⟨last, -, hconcludes⟩ := concludes_waitForDelete attempt.ended
    unfold Goal.DeletionConcludes at hconcludes
    match hanswer : last.answer with
    | .ok .notFound =>
      rw [hanswer, herror] at hconcludes
      cases hconcludes
    | .error e =>
      rw [hanswer, herror] at hconcludes
      exact .inl ⟨e, Except.error.inj hconcludes⟩
    | .ok (.found newest) =>
      rw [hanswer, herror] at hconcludes
      obtain ⟨other, hother, hspent | ⟨-, token, hheld⟩⟩ := Goal.GivenUp.error hconcludes
      · obtain rfl := Except.error.inj hother
        exact absurd hspent htimeout
      · exact nomatch htoken.symm.trans hheld

/-! ### Chains of attempts -/

/-- **Every cleanup is a chain of attempts with a budget each**, if there are a budget and a pause. -/
theorem exists_linked_hasOwnBudget (source : Source S R E) {budget : Duration}
    (hbudget : pace.timeout = some budget) (hlap : 0 < pace.lap)
    (hfuel : budget.nanoseconds / pace.lap + 2 ≤ fuel) (resources : List R) (clock : Clock) (s : S)
    (hclock : clock.token = none) :
    ∃ (attempts : List (Attempt source pace fuel)) (later : Clock) (last : S),
      attempts.map (·.resource) = resources ∧ Linked clock s attempts later last
        ∧ later.token = none ∧ ∀ attempt ∈ attempts, attempt.HasOwnBudget budget := by
  induction resources generalizing clock s with
  | nil => exact ⟨[], clock, s, rfl, .nil clock s, hclock, by simp⟩
  | cons resource rest ih =>
    have course := course_waitForDelete source pace fuel resource clock s
    obtain ⟨result, between, ended⟩ := course.exists_result hbudget hlap hfuel
    let first : Attempt source pace fuel := ⟨resource, clock, s, result, between, ended⟩
    have hbetween : between.token = none := course.token_eq_none hclock ended
    obtain ⟨others, later, last, rfl, linked, hlater, hothers⟩ := ih between first.run.source hbetween
    refine ⟨first :: others, later, last, rfl, .cons first linked, hlater, ?_⟩
    exact List.forall_mem_cons.mpr ⟨first.hasOwnBudget hbudget hclock, hothers⟩

/-- **A cleanup asks for each resource** at most once for each pause that fits into the budget, and
once more. -/
theorem length_questions_le [ToString E] {budget : Duration} (hbudget : pace.timeout = some budget)
    (hlap : 0 < pace.lap) (attempts : List (Attempt source pace fuel)) :
    (questions (attempts.flatMap events)).length
      ≤ attempts.length * (budget.nanoseconds / pace.lap + 1) := by
  induction attempts with
  | nil => exact Nat.zero_le _
  | cons first rest ih =>
    rw [List.flatMap_cons, questions_append, List.length_append, questions_events, List.length_cons,
      Nat.succ_mul, Nat.add_comm]
    exact Nat.add_le_add ih (first.course.length_questions_le hbudget hlap)

/-- **On a source that answers at once** a cleanup takes no longer than a budget and a pause for each
resource. -/
theorem Linked.later_le {budget : Duration} (hbudget : pace.timeout = some budget)
    (instant : source.IsInstant) {clock later : Clock} {s last : S}
    {attempts : List (Attempt source pace fuel)} (linked : Linked clock s attempts later last) :
    later.now ≤ clock.now + attempts.length * (budget.nanoseconds + pace.lap) := by
  induction linked with
  | nil => exact Nat.le_add_right _ _
  | @cons first rest later _ _ ih =>
    have hfirst : first.later.now ≤ first.clock.now + (budget.nanoseconds + pace.lap) :=
      first.course.later_le_of_isInstant hbudget instant first.ended
    calc later.now
        ≤ first.later.now + rest.length * (budget.nanoseconds + pace.lap) := ih
      _ ≤ first.clock.now + (budget.nanoseconds + pace.lap)
          + rest.length * (budget.nanoseconds + pace.lap) := Nat.add_le_add_right hfirst _
      _ = first.clock.now + (first :: rest).length * (budget.nanoseconds + pace.lap) := by
        rw [List.length_cons, Nat.succ_mul, Nat.add_assoc,
          Nat.add_comm (rest.length * (budget.nanoseconds + pace.lap))]

/-- **Attempts in turn**: one for each resource, each from what the one before has left, and each
with the whole budget. -/
structure InTurn (budget : Duration) (resources : List R) (clock : Clock) (s : S)
    (attempts : List (Attempt source pace fuel)) (later : Clock) (last : S) : Prop where
  /-- There is one attempt for each resource. -/
  resources_eq : attempts.map (·.resource) = resources
  /-- They are chained. -/
  linked : Linked clock s attempts later last
  /-- Each has a budget of its own. -/
  budgets : ∀ attempt ∈ attempts, attempt.HasOwnBudget budget

/-- There are as many attempts as resources. -/
theorem InTurn.length_eq {budget : Duration} {resources : List R} {clock later : Clock} {s last : S}
    {attempts : List (Attempt source pace fuel)}
    (inTurn : InTurn budget resources clock s attempts later last) :
    attempts.length = resources.length := by
  rw [← inTurn.resources_eq, List.length_map]

end Attempt

/-! ### Loaded configurations -/

namespace PollConfig

/-- A configuration that passes the check makes sense. -/
theorem validate_of_check {config : PollConfig} (h : config.check = .ok ()) :
    config.validate = .ok () := by
  unfold check at h
  cases hvalidate : config.validate with
  | ok => rfl
  | error reason =>
    rw [hvalidate] at h
    cases h

/-- The usual configuration makes sense. -/
theorem validate_usual : ({} : PollConfig).validate = .ok () := rfl

/-- **A configuration that was loaded makes sense**, also where there was no file. -/
theorem validate_of_load {tree : FileTree} {path : FilePath} {config : PollConfig}
    (h : load tree path = .ok config) : config.validate = .ok () := by
  unfold load at h
  split at h
  · obtain ⟨text, -, hread⟩ := bind_eq_ok_iff.mp h
    obtain ⟨read, -, hchecked⟩ := bind_eq_ok_iff.mp hread
    obtain ⟨⟨⟩, hcheck, hconfig⟩ := bind_eq_ok_iff.mp hchecked
    cases hconfig
    exact validate_of_check hcheck
  · cases h
    exact validate_usual

/-- A configuration that makes sense has a pause. -/
theorem intervalSecs_pos {config : PollConfig} (h : config.validate = .ok ()) :
    0 < config.intervalSecs.toNat := by
  refine Nat.pos_of_ne_zero fun hzero => ?_
  rw [validate, if_pos (UInt64.toNat_inj.mp hzero)] at h
  cases h

/-- The budget of the waits under a configuration that does not wait forever. -/
theorem pace_timeout {config : PollConfig} (h : config.waitForever = false) :
    config.pace.timeout = some (.ofSeconds config.timeoutSecs.toNat) := by
  rw [pace, timeout, h]
  rfl

/-- A sleep that takes as long as it was meant to takes the seconds of the configuration. -/
theorem pace_lap {config : PollConfig} (h : config.interval.slept = config.interval) :
    config.pace.lap = config.intervalSecs.toNat * 1000000000 :=
  congrArg Duration.nanoseconds h

/-- As many pauses fit into the budget as the seconds of the one go into those of the other. -/
theorem budget_div_lap {config : PollConfig} (h : config.interval.slept = config.interval) :
    (Duration.ofSeconds config.timeoutSecs.toNat).nanoseconds / config.pace.lap
      = config.timeoutSecs.toNat / config.intervalSecs.toNat := by
  rw [pace_lap h]
  exact Nat.mul_div_mul_right _ _ (by decide)

/-- **How long a cleanup may take** of so many resources, under a configuration that does not wait
forever: a budget and a pause for each. -/
def cleanupTime (config : PollConfig) (count : Nat) : Duration :=
  .ofSeconds (count * (config.timeoutSecs.toNat + config.intervalSecs.toNat))

/-- The time for a cleanup in terms of its pace. -/
theorem cleanupTime_eq {config : PollConfig} (h : config.interval.slept = config.interval)
    (count : Nat) : (config.cleanupTime count).nanoseconds
      = count * ((Duration.ofSeconds config.timeoutSecs.toNat).nanoseconds + config.pace.lap) := by
  rw [pace_lap h]
  simp only [cleanupTime, Duration.ofSeconds]
  rw [← Nat.add_mul, Nat.mul_assoc]

/-- The time for two cleanups in a row. -/
theorem cleanupTime_add (config : PollConfig) (count count' : Nat) :
    (config.cleanupTime (count + count')).nanoseconds
      = (config.cleanupTime count).nanoseconds + (config.cleanupTime count').nanoseconds := by
  simp only [cleanupTime, Duration.ofSeconds]
  rw [Nat.add_mul, Nat.add_mul]

/-- **A cleanup of `count` resources ends in time** that began at `now` under a configuration, on
sources that answer at once or take their time. -/
structure EndsInTime {S R E : Type} (config : PollConfig) (count : Nat) (instant : Prop)
    (now : Instant) (run : Run S (Event R E) (CleanupReport × Clock)) : Prop where
  /-- It returns a report; on sources that answer at once within a budget and a pause for each
  resource. -/
  returns : ∃ report later, run.result = some (report, later)
    ∧ (instant → later.now ≤ now + (config.cleanupTime count).nanoseconds)
  /-- It asks about each resource once more than there are pauses that fit into the budget, at
  most. -/
  questions_le : (questions run.events).length
    ≤ count * (config.timeoutSecs.toNat / config.intervalSecs.toNat + 1)

section

variable [ToString E] {config : PollConfig} (hconfig : config.validate = .ok ())
  (hfinite : config.waitForever = false) (hslept : config.interval.slept = config.interval)
  {fuel : Nat} (hfuel : config.timeoutSecs.toNat / config.intervalSecs.toNat + 2 ≤ fuel)

include hconfig hfinite hslept hfuel

omit [ToString E] in
/-- **Under a configuration that makes sense, attempts come to an end**, in turn and without a
token. -/
theorem exists_inTurn (source : Source S R E) (resources : List R) (clock : Clock)
    (hclock : clock.token = none) (s : S) :
    ∃ (attempts : List (Attempt source config.pace fuel)) (later : Clock) (last : S),
      Attempt.InTurn (.ofSeconds config.timeoutSecs.toNat) resources clock s attempts later last
        ∧ later.token = none := by
  have hlap : 0 < config.pace.lap := by
    rw [pace_lap hslept]
    exact Nat.mul_pos (intervalSecs_pos hconfig) (by decide)
  rw [← budget_div_lap hslept] at hfuel
  obtain ⟨attempts, later, last, hresources, linked, hlater, budgets⟩ :=
    Attempt.exists_linked_hasOwnBudget source (pace_timeout hfinite) hlap hfuel resources clock s
      hclock
  exact ⟨attempts, later, last, ⟨hresources, linked, budgets⟩, hlater⟩

omit hconfig hfuel [ToString E] in
/-- Attempts in turn take no longer than the configuration allows. -/
theorem later_le {source : Source S R E} (instant : source.IsInstant) {clock later : Clock}
    {s last : S} {attempts : List (Attempt source config.pace fuel)}
    (linked : Attempt.Linked clock s attempts later last) :
    later.now ≤ clock.now + (config.cleanupTime attempts.length).nanoseconds := by
  rw [cleanupTime_eq hslept]
  exact linked.later_le (pace_timeout hfinite) instant

omit hfuel in
/-- Attempts in turn ask no more often than the configuration allows. -/
theorem length_questions_le {source : Source S R E}
    (attempts : List (Attempt source config.pace fuel)) :
    (questions (attempts.flatMap Attempt.events)).length
      ≤ attempts.length * (config.timeoutSecs.toNat / config.intervalSecs.toNat + 1) := by
  have hlap : 0 < config.pace.lap := by
    rw [pace_lap hslept]
    exact Nat.mul_pos (intervalSecs_pos hconfig) (by decide)
  rw [← budget_div_lap hslept]
  exact Attempt.length_questions_le (pace_timeout hfinite) hlap attempts

/-- **The cleanup of block storage ends**: first the backups have their turn, then the snapshots, and
what it does and reports is what these attempts do and report. -/
theorem waitForCleanup_ends (backupSource : Source S Backup E) (snapshotSource : Source S Snapshot E)
    (backups : List Backup) (snapshots : List Snapshot) (now : Instant) (s : S) :
    let run := ((BlockStorage.withConfig config).waitForCleanup backupSource snapshotSource fuel backups
      snapshots).execute (config.waitOptions.clock now) s
    EndsInTime config (backups.length + snapshots.length)
        (backupSource.IsInstant ∧ snapshotSource.IsInstant) now run
      ∧ ∃ (first : List (Attempt backupSource config.pace fuel))
          (second : List (Attempt snapshotSource config.pace fuel)) (between later : Clock)
          (mid last : S),
        Attempt.InTurn (.ofSeconds config.timeoutSecs.toNat) backups (config.waitOptions.clock now) s
            first between mid
          ∧ Attempt.InTurn (.ofSeconds config.timeoutSecs.toNat) snapshots between mid second later
            last
          ∧ run = ⟨(first.flatMap Attempt.events).map (Event.map .inl)
              ++ (second.flatMap Attempt.events).map (Event.map .inr),
            some ((Attempt.reportOf first).merge (Attempt.reportOf second), later), last⟩ := by
  intro run
  obtain ⟨first, between, mid, hfirst, hbetween⟩ := exists_inTurn hconfig hfinite hslept hfuel
    backupSource backups (config.waitOptions.clock now) rfl s
  obtain ⟨second, later, last, hsecond, -⟩ := exists_inTurn hconfig hfinite hslept hfuel
    snapshotSource snapshots between hbetween mid
  have linked := hfirst.linked
  have linked' := hsecond.linked
  have hrun : run = ⟨(first.flatMap Attempt.events).map (Event.map .inl)
      ++ (second.flatMap Attempt.events).map (Event.map .inr),
      some ((Attempt.reportOf first).merge (Attempt.reportOf second), later), last⟩ := by
    obtain rfl := hfirst.resources_eq
    obtain rfl := hsecond.resources_eq
    exact BlockStorage.execute_waitForCleanup_of_linked linked linked'
  refine ⟨?_, first, second, between, later, mid, last, hfirst, hsecond, hrun⟩
  rw [hrun, ← hfirst.length_eq, ← hsecond.length_eq]
  refine ⟨⟨_, _, rfl, fun ⟨instant, instant'⟩ => ?_⟩, ?_⟩
  · rw [cleanupTime_add, ← Nat.add_assoc]
    calc later.now
        ≤ between.now + (config.cleanupTime second.length).nanoseconds :=
          later_le hfinite hslept instant' linked'
      _ ≤ now + (config.cleanupTime first.length).nanoseconds
          + (config.cleanupTime second.length).nanoseconds :=
          Nat.add_le_add_right (later_le hfinite hslept instant linked) _
  · rw [questions_append, List.length_append, length_questions_map, length_questions_map,
      Nat.add_mul]
    exact Nat.add_le_add (length_questions_le hconfig hfinite hslept first)
      (length_questions_le hconfig hfinite hslept second)

/-- **The cleanup of compute ends**: every server has its turn, and what the cleanup does and reports
is what these attempts do and report. -/
theorem waitForServersDeleted_ends (source : Source S Server E) (servers : List Server)
    (now : Instant) (s : S) :
    let run := ((Compute.withConfig config).waitForServersDeleted source fuel servers).execute
      (config.waitOptions.clock now) s
    EndsInTime config servers.length source.IsInstant now run
      ∧ ∃ (attempts : List (Attempt source config.pace fuel)) (later : Clock) (last : S),
        Attempt.InTurn (.ofSeconds config.timeoutSecs.toNat) servers (config.waitOptions.clock now) s
            attempts later last
          ∧ run = ⟨attempts.flatMap Attempt.events, some (Attempt.reportOf attempts, later), last⟩ := by
  intro run
  obtain ⟨attempts, later, last, hattempts, -⟩ := exists_inTurn hconfig hfinite hslept hfuel
    source servers (config.waitOptions.clock now) rfl s
  have hrun : run = ⟨attempts.flatMap Attempt.events, some (Attempt.reportOf attempts, later), last⟩ := by
    obtain rfl := hattempts.resources_eq
    exact hattempts.linked.execute_eq
  refine ⟨?_, attempts, later, last, hattempts, hrun⟩
  rw [hrun, ← hattempts.length_eq]
  exact ⟨⟨_, _, rfl, fun instant => later_le hfinite hslept instant hattempts.linked⟩,
    length_questions_le hconfig hfinite hslept attempts⟩

end

end PollConfig

/-- **A cleanup under any loaded configuration ends.** What was loaded makes sense, and unless it is
to wait forever, the cleanups of both services return in time. Each is made of one attempt for each
resource, in turn and with the whole budget, and of nothing else: its transcript, its report, its clock
and the state that it leaves are those of these attempts. A sleep is taken to last as long as it was
meant to. -/
theorem loaded_cleanups_end {tree : FileTree} {path : FilePath} {config : PollConfig}
    (hload : PollConfig.load tree path = .ok config) :
    config.validate = .ok ()
    ∧ (config.waitForever = false → config.interval.slept = config.interval →
      ∀ {S E : Type} [ToString E] (fuel : Nat),
        config.timeoutSecs.toNat / config.intervalSecs.toNat + 2 ≤ fuel → ∀ (now : Instant) (s : S),
          (∀ (backupSource : Source S Backup E) (snapshotSource : Source S Snapshot E)
            (backups : List Backup) (snapshots : List Snapshot),
            let run := ((BlockStorage.withConfig config).waitForCleanup backupSource snapshotSource fuel
              backups snapshots).execute (config.waitOptions.clock now) s
            config.EndsInTime (backups.length + snapshots.length)
                (backupSource.IsInstant ∧ snapshotSource.IsInstant) now run
              ∧ ∃ (first : List (Attempt backupSource config.pace fuel))
                  (second : List (Attempt snapshotSource config.pace fuel)) (between later : Clock)
                  (mid last : S),
                Attempt.InTurn (.ofSeconds config.timeoutSecs.toNat) backups
                    (config.waitOptions.clock now) s first between mid
                  ∧ Attempt.InTurn (.ofSeconds config.timeoutSecs.toNat) snapshots between mid second
                    later last
                  ∧ run = ⟨(first.flatMap Attempt.events).map (Event.map .inl)
                      ++ (second.flatMap Attempt.events).map (Event.map .inr),
                    some ((Attempt.reportOf first).merge (Attempt.reportOf second), later), last⟩)
          ∧ ∀ (source : Source S Server E) (servers : List Server),
            let run := ((Compute.withConfig config).waitForServersDeleted source fuel servers).execute
              (config.waitOptions.clock now) s
            config.EndsInTime servers.length source.IsInstant now run
              ∧ ∃ (attempts : List (Attempt source config.pace fuel)) (later : Clock) (last : S),
                Attempt.InTurn (.ofSeconds config.timeoutSecs.toNat) servers
                    (config.waitOptions.clock now) s attempts later last
                  ∧ run = ⟨attempts.flatMap Attempt.events, some (Attempt.reportOf attempts, later),
                    last⟩) := by
  have hconfig := PollConfig.validate_of_load hload
  refine ⟨hconfig, fun hfinite hslept S E _ fuel hfuel now s => ⟨?_, ?_⟩⟩
  · intro backupSource snapshotSource backups snapshots
    exact PollConfig.waitForCleanup_ends hconfig hfinite hslept hfuel backupSource snapshotSource
      backups snapshots now s
  · intro source servers
    exact PollConfig.waitForServersDeleted_ends hconfig hfinite hslept hfuel source servers now s

/-- Two servers that never go, under the usual configuration, which is loaded where there is no file:
the cleanup asks about each at most 61 times, waits for the second as long as for the first, and returns
after 244 seconds at most. -/
theorem loaded_cleanups_end_usual :
    let source : Source Unit Server FetchError :=
      ⟨fun handle _ s => ({ answer := .ok (.found handle) }, s)⟩
    let servers : List Server := [{ id := "a" }, { id := "b" }]
    let run := ((Compute.withConfig {}).waitForServersDeleted source 62 servers).execute ⟨0, none⟩ ()
    PollConfig.load {} ⟨"wait.toml"⟩ = .ok {}
      ∧ (questions run.events).length ≤ 122
      ∧ ∃ (attempts : List (Attempt source ({} : PollConfig).pace 62)) (later : Clock) (last : Unit),
        Attempt.InTurn (.ofSeconds 120) servers ⟨0, none⟩ () attempts later last
          ∧ run = ⟨attempts.flatMap Attempt.events, some (Attempt.reportOf attempts, later), last⟩
          ∧ later.now ≤ 244000000000 := by
  intro source servers run
  have hload : PollConfig.load {} ⟨"wait.toml"⟩ = .ok {} := by
    have hnull : (FilePath.mk "wait.toml").hasNull = false := by simp [FilePath.hasNull]
    rw [PollConfig.load, FileTree.isThere, FileTree.find, FileTree.checkPath, hnull]
    rfl
  have hslept : ({} : PollConfig).interval.slept = ({} : PollConfig).interval :=
    Duration.slept_of_le (by decide)
  obtain ⟨-, hends⟩ := loaded_cleanups_end hload
  obtain ⟨⟨⟨report, later, hresult, hlater⟩, hquestions⟩, attempts, ended, last, inTurn, hrun⟩ :=
    (hends rfl hslept 62 (by decide) 0 ()).2 source servers
  have hended : run.result = some (Attempt.reportOf attempts, ended) := congrArg Run.result hrun
  obtain ⟨-, rfl⟩ := Prod.mk.inj (Option.some.inj (hresult.symm.trans hended))
  have instant : source.IsInstant := fun _ _ _ => rfl
  have hnow : later.now ≤ 0 + (PollConfig.cleanupTime {} 2).nanoseconds := hlater instant
  exact ⟨hload, hquestions, attempts, later, last, inTurn, hrun, Nat.le_trans hnow (by decide)⟩

end ResourceWait
