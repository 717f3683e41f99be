import ResourceWait.Proofs.Account
import ResourceWait.Proofs.Budget
import ResourceWait.Proofs.Timekeeping
import ResourceWait.Service.BlockStorage

/-!
# Cleanups in succession

A cleanup of one list and then another is a cleanup of both. The second begins with the clock and
the state that the first has left – not with an account of how the first went – and what it reports
stands behind what the first reported. Where the first does not return, nothing comes after it.

`Routine.waitForDeletions_append` says so of the routines themselves, so it holds of every run, and
also of one that shares its source with others. The cleanup of block storage is of this shape too,
with two kinds of resources: the backups have their turn first, and each snapshot has its own turn
and its own budget afterwards, however many backups are left.
-/

namespace ResourceWait

variable {S R E Ev : Type}

/-- **One cleanup and then another**: `whole` goes on, where `first` has returned, from the clock and
the state that it has left. -/
structure InSuccession (whole first : Run S Ev (CleanupReport × Clock))
    (second : Clock → S → Run S Ev (CleanupReport × Clock)) : Prop where
  /-- Where the first does not return, nothing comes after it. -/
  unended : first.result = none → whole = first
  /-- Where it returns, the second begins. What happens in both happens in order, the second leaves
  the clock and the state of the source, and its report is put behind the first. -/
  ended : ∀ report later, first.result = some (report, later) →
    whole.events = first.events ++ (second later first.source).events
      ∧ whole.source = (second later first.source).source
      ∧ whole.result = (second later first.source).result.map fun finished =>
        (report.merge finished.1, finished.2)

/-- Two cleanups in succession that return have both returned. -/
theorem InSuccession.results {whole first : Run S Ev (CleanupReport × Clock)}
    {second : Clock → S → Run S Ev (CleanupReport × Clock)} (h : InSuccession whole first second)
    {report : CleanupReport} {later : Clock} (hresult : whole.result = some (report, later)) :
    ∃ before between after, first.result = some (before, between)
      ∧ (second between first.source).result = some (after, later)
      ∧ report = before.merge after := by
  cases hfirst : first.result with
  | none =>
    rw [h.unended hfirst, hfirst] at hresult
    cases hresult
  | some ended =>
    obtain ⟨-, -, hwhole⟩ := h.ended ended.1 ended.2 hfirst
    rw [hwhole, Option.map_eq_some_iff] at hresult
    obtain ⟨finished, hsecond, hmerged⟩ := hresult
    cases hmerged
    exact ⟨ended.1, ended.2, finished.1, rfl, hsecond, rfl⟩

namespace Routine

/-- Two cleanups whose reports are merged run in succession. -/
theorem inSuccession_merge (x y : Routine S Ev CleanupReport) (clock : Clock) (s : S) :
    InSuccession
      (execute (do
        let first ← x
        let second ← y
        return first.merge second) clock s)
      (x.execute clock s) (fun later mid => y.execute later mid) := by
  refine ⟨fun hnone => ?_, fun report later hresult => ?_⟩
  · rw [execute_bind, hnone]
    dsimp only
    rw [← hnone]
  · rw [execute_bind, hresult]
    dsimp only
    rw [execute_bind]
    cases (y.execute later (x.execute clock s).source).result with
    | none => exact ⟨rfl, rfl, rfl⟩
    | some finished => exact ⟨by simp, rfl, rfl⟩

variable [Resource R] [ToString E]

/-- **A cleanup of two lists** is one of the first and then one of the second. -/
theorem waitForDeletions_append (source : Source S R E) (pace : Pace) (fuel : Nat) (xs ys : List R) :
    waitForDeletions source pace fuel (xs ++ ys) = do
      let first ← waitForDeletions source pace fuel xs
      let second ← waitForDeletions source pace fuel ys
      return first.merge second := by
  induction xs with
  | nil => simp [waitForDeletions, -bind_pure_comp]
  | cons resource rest ih =>
    simp [waitForDeletions, ih, CleanupReport.merge_assoc, -bind_pure_comp]

end Routine

/-! ### Backups and snapshots -/

/-- **A cleanup of block storage takes the backups first**, and then the snapshots. -/
structure BlockStorage.TakesBackupsFirst [ToString E] (service : BlockStorage)
    (backupSource : Source S Backup E) (snapshotSource : Source S Snapshot E) (fuel : Nat)
    (backups : List Backup) (snapshots : List Snapshot) (clock : Clock) (s : S)
    (run : Run S (Event (Backup ⊕ Snapshot) E) (CleanupReport × Clock)) : Prop where
  /-- No backup is asked about once a snapshot was, and each question is answered before the next. -/
  in_order : (questions run.events).Pairwise fun earlier later =>
    (later.handle.isLeft → earlier.handle.isLeft) ∧ earlier.stop ≤ later.start
  /-- It is a cleanup of the backups and, from where that has ended, one of the snapshots. -/
  inSuccession : InSuccession run
    (((Routine.waitForDeletions backupSource service.pace fuel backups).mapEvents
      (Event.map .inl)).execute clock s)
    (fun later mid => ((Routine.waitForDeletions snapshotSource service.pace fuel
      snapshots).mapEvents (Event.map .inr)).execute later mid)
  /-- If it returns, each backup was waited for and then, whatever became of the backups, each
  snapshot. Every wait began at the moment at which the one before ended and kept to a budget of its
  own, and the report has the entries of the backups, in order, before those of the snapshots. -/
  returned : ∀ report later, run.result = some (report, later) →
    ∃ (first : List (Attempt backupSource service.pace fuel))
      (second : List (Attempt snapshotSource service.pace fuel)) (between : Clock) (mid : S),
      first.map (·.resource) = backups ∧ second.map (·.resource) = snapshots
      ∧ Attempt.Linked clock s first between mid
      ∧ Attempt.Linked between mid second later run.source
      ∧ run.events = (first.flatMap Attempt.events).map (Event.map .inl)
        ++ (second.flatMap Attempt.events).map (Event.map .inr)
      ∧ (∀ attempt ∈ first, KeepsBudget .deletion service.pace fuel attempt.resource attempt.clock
        attempt.run)
      ∧ (∀ attempt ∈ second, KeepsBudget .deletion service.pace fuel attempt.resource attempt.clock
        attempt.run)
      ∧ report.deleted = (first.filter (·.succeeded)).map (fun attempt => Resource.id attempt.resource)
        ++ (second.filter (·.succeeded)).map (fun attempt => Resource.id attempt.resource)
      ∧ report.failed = first.filterMap Attempt.failure? ++ second.filterMap Attempt.failure?

/-- Every attempt keeps to the budget from where it began. -/
theorem Attempt.keepsBudget [Resource R] {source : Source S R E} {pace : Pace} {fuel : Nat}
    (attempt : Attempt source pace fuel) :
    KeepsBudget .deletion pace fuel attempt.resource attempt.clock attempt.run :=
  keepsBudget_waitForDelete source pace fuel attempt.resource attempt.clock attempt.state

namespace BlockStorage

open Routine

variable [ToString E] (service : BlockStorage) (backupSource : Source S Backup E)
  (snapshotSource : Source S Snapshot E) (fuel : Nat) (backups : List Backup)
  (snapshots : List Snapshot) (clock : Clock) (s : S)

/-- The cleanup of block storage keeps time. -/
theorem keepsTime_waitForCleanup : KeepsTime
    (service.waitForCleanup backupSource snapshotSource fuel backups snapshots) := by
  have hbackups := KeepsTime.waitForDeletions backupSource service.pace fuel backups
  have hsnapshots := KeepsTime.waitForDeletions snapshotSource service.pace fuel snapshots
  exact (hbackups.mapEvents Sum.inl).bind fun _ =>
    (hsnapshots.mapEvents Sum.inr).bind fun _ => .pure _

omit [ToString E] in
/-- Where two cleanups of different kinds run in succession, the questions of the first kind come
first. -/
theorem pairwise_isLeft_of_inSuccession
    {run : Run S (Event (Backup ⊕ Snapshot) E) (CleanupReport × Clock)}
    {x : Routine S (Event Backup E) CleanupReport} {y : Routine S (Event Snapshot E) CleanupReport}
    (h : InSuccession run ((x.mapEvents (Event.map .inl)).execute clock s)
      (fun later mid => (y.mapEvents (Event.map .inr)).execute later mid)) :
    (questions run.events).Pairwise fun earlier later =>
      later.handle.isLeft → earlier.handle.isLeft := by
  have hleft : ∀ events : List (Event Backup E),
      (questions (events.map (Event.map (Sum.inl : Backup → Backup ⊕ Snapshot)))).Pairwise
        fun earlier later => later.handle.isLeft → earlier.handle.isLeft := by
    intro events
    rw [questions_map]
    exact List.pairwise_map.mpr (List.pairwise_of_forall fun _ _ _ => rfl)
  cases hresult : ((x.mapEvents (Event.map Sum.inl)).execute clock s).result with
  | none =>
    rw [h.unended hresult, execute_mapEvents]
    exact hleft _
  | some ended =>
    obtain ⟨hevents, -, -⟩ := h.ended ended.1 ended.2 hresult
    rw [hevents, execute_mapEvents, execute_mapEvents, questions_append]
    refine List.pairwise_append.mpr ⟨hleft _, ?_, fun earlier hearlier later _ _ => ?_⟩
    · -- no question of the second kind is about the first
      rw [questions_map]
      exact List.pairwise_map.mpr (List.pairwise_of_forall fun _ _ h => nomatch h)
    · rw [questions_map, List.mem_map] at hearlier
      obtain ⟨question, -, rfl⟩ := hearlier
      rfl

variable {service backupSource snapshotSource fuel clock s} in
/-- **A chain of attempts at backups and one at snapshots behind it** are a cleanup of block
storage. -/
theorem execute_waitForCleanup_of_linked {first : List (Attempt backupSource service.pace fuel)}
    {second : List (Attempt snapshotSource service.pace fuel)} {between later : Clock} {mid last : S}
    (linked : Attempt.Linked clock s first between mid)
    (linked' : Attempt.Linked between mid second later last) :
    (service.waitForCleanup backupSource snapshotSource fuel (first.map (·.resource))
        (second.map (·.resource))).execute clock s
      = ⟨(first.flatMap Attempt.events).map (Event.map .inl)
          ++ (second.flatMap Attempt.events).map (Event.map .inr),
        some ((Attempt.reportOf first).merge (Attempt.reportOf second), later), last⟩ := by
  rw [BlockStorage.waitForCleanup, execute_bind, execute_mapEvents, linked.execute_eq]
  dsimp only
  rw [execute_bind, execute_mapEvents, linked'.execute_eq]
  simp

/-- Every cleanup of block storage takes the backups first. -/
theorem takesBackupsFirst_waitForCleanup :
    service.TakesBackupsFirst backupSource snapshotSource fuel backups snapshots clock s
      ((service.waitForCleanup backupSource snapshotSource fuel backups snapshots).execute
        clock s) := by
  have inSuccession := inSuccession_merge
    ((waitForDeletions backupSource service.pace fuel backups).mapEvents (Event.map Sum.inl))
    ((waitForDeletions snapshotSource service.pace fuel snapshots).mapEvents (Event.map Sum.inr))
    clock s
  refine ⟨?_, inSuccession, fun report later hresult => ?_⟩
  · exact (pairwise_isLeft_of_inSuccession clock s inSuccession).and
      (keepsTime_waitForCleanup service backupSource snapshotSource fuel backups snapshots clock
        s).in_order
  · obtain ⟨_, between, _, hfirst, hsecond, -⟩ := inSuccession.results hresult
    simp only [execute_mapEvents] at hfirst hsecond
    obtain ⟨first, mid, rfl, linked⟩ := Attempt.exists_linked hfirst
    rw [linked.execute_eq] at hsecond
    obtain ⟨second, last, rfl, linked'⟩ := Attempt.exists_linked hsecond
    have hrun := execute_waitForCleanup_of_linked linked linked'
    rw [hrun] at hresult ⊢
    cases hresult
    refine ⟨first, second, between, mid, rfl, rfl, linked, linked', rfl,
      fun attempt _ => attempt.keepsBudget, fun attempt _ => attempt.keepsBudget, ?_, ?_⟩
    · show (Attempt.reportOf first).deleted ++ (Attempt.reportOf second).deleted = _
      rw [Attempt.deleted_reportOf, Attempt.deleted_reportOf]
    · show (Attempt.reportOf first).failed ++ (Attempt.reportOf second).failed = _
      rw [Attempt.failed_reportOf, Attempt.failed_reportOf]

end BlockStorage

open Routine in
/-- **Cleanups go one after the other.** A cleanup of two lists in a row is one of the first and then,
from the clock and the state that it has left, one of the second, in whatever way the first went. The
cleanup of block storage takes the backups first and then the snapshots. -/
theorem cleanups_inSuccession [Resource R] [ToString E] :
    (∀ (source : Source S R E) (pace : Pace) (fuel : Nat) (xs ys : List R) (clock : Clock) (s : S),
      InSuccession ((waitForDeletions source pace fuel (xs ++ ys)).execute clock s)
        ((waitForDeletions source pace fuel xs).execute clock s)
        (fun later mid => (waitForDeletions source pace fuel ys).execute later mid))
    ∧ ∀ (service : BlockStorage) (backupSource : Source S Backup E)
      (snapshotSource : Source S Snapshot E) (fuel : Nat) (backups : List Backup)
      (snapshots : List Snapshot) (clock : Clock) (s : S),
      service.TakesBackupsFirst backupSource snapshotSource fuel backups snapshots clock s
        ((service.waitForCleanup backupSource snapshotSource fuel backups snapshots).execute
          clock s) := by
  refine ⟨fun source pace fuel xs ys clock s => ?_, ?_⟩
  · rw [waitForDeletions_append]
    exact inSuccession_merge _ _ clock s
  · exact BlockStorage.takesBackupsFirst_waitForCleanup

/-- A cleanup in which asking about the first backup is forbidden: the other backup and then the
snapshot are waited for all the same. -/
theorem cleanups_inSuccession_forbidden :
    let backupSource : Source Nat Backup FetchError := ⟨fun _ _ asked => (match asked with
      | 0 => { answer := .error ⟨"forbidden"⟩ }
      | _ => { answer := .ok .notFound, delay := .ofSeconds 1 }, asked + 1)⟩
    let snapshotSource : Source Nat Snapshot FetchError := ⟨fun handle _ asked => (match asked with
      | 2 => { answer := .ok (.found handle) }
      | _ => { answer := .ok .notFound }, asked + 1)⟩
    let service : BlockStorage := ⟨.blockStorage, {}⟩
    let run := (service.waitForCleanup backupSource snapshotSource 2 [{ id := "b" }, { id := "c" }]
      [{ id := "s" }]).execute ⟨0, none⟩ 0
    service.TakesBackupsFirst backupSource snapshotSource 2 [{ id := "b" }, { id := "c" }]
        [{ id := "s" }] ⟨0, none⟩ 0 run
      ∧ run.result = some (⟨["c", "s"], [("b", "forbidden")]⟩, ⟨3000000000, none⟩) := by
  intro backupSource snapshotSource service run
  obtain ⟨-, takesBackupsFirst⟩ := cleanups_inSuccession (S := Nat) (R := Snapshot) (E := FetchError)
  exact ⟨takesBackupsFirst service backupSource snapshotSource 2 _ _ ⟨0, none⟩ 0, by decide⟩

end ResourceWait
