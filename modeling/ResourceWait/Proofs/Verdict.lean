import ResourceWait.Wait.Goal

/-!
# Verdicts

A wait looks at an answer of its source only through the verdict on it. A failure of the source
settles every wait. A representation leaves the wait open exactly if it is *pending*: then it is
what the next question is asked with.
-/

namespace ResourceWait

variable {R E : Type} [Resource R]

/-- **The verdict on an answer** that a handle was asked with. A failure of the source settles the
wait, whatever its goal. -/
def Goal.verdict (goal : Goal) (handle : R) : Except E (Observation R) → Verdict R E
  | .error e => .settled [] (.error (.fetch e))
  | .ok observation => goal.judge handle observation

/-- **A representation that leaves a wait open**: it has a status, but neither the one waited for
nor one of the failures. While a deletion is waited for, every representation is such. -/
def Goal.Pending (goal : Goal) (resource : R) : Prop :=
  match goal with
  | .status target failures =>
    ∃ status, Resource.status resource = some status ∧ Status.agree status target = false
      ∧ Status.isAnyOf status failures = false
  | .deletion => True

instance (goal : Goal) (resource : R) : Decidable (goal.Pending resource) :=
  match goal with
  | .deletion => .isTrue trivial
  | .status target failures =>
    match hstatus : Resource.status resource with
    | none => .isFalse fun ⟨_, h, _⟩ => Option.some_ne_none _ (h.symm.trans hstatus)
    | some status =>
      decidable_of_iff
        (Status.agree status target = false ∧ Status.isAnyOf status failures = false)
        ⟨fun h => ⟨status, hstatus, h⟩, fun ⟨_, h, hopen⟩ =>
          Option.some.inj (h.symm.trans hstatus) ▸ hopen⟩

/-- A pending representation leaves the wait open, whatever it was asked for with. -/
theorem Goal.verdict_of_pending {goal : Goal} {newer : R} (h : goal.Pending newer) (handle : R) :
    ∃ entries, goal.verdict handle (.ok (.found newer) : Except E (Observation R))
      = .unsettled entries newer := by
  cases goal with
  | deletion => exact ⟨_, rfl⟩
  | status target failures =>
    obtain ⟨status, hstatus, hagree, hfailed⟩ := h
    simp [verdict, judge, hstatus, hagree, hfailed]

/-- A verdict leaves a wait open only with a representation that was shown and is pending. -/
theorem Goal.pending_of_verdict {goal : Goal} {handle newer : R} {entries : List LogEntry}
    {answer : Except E (Observation R)}
    (h : goal.verdict handle answer = .unsettled entries newer) :
    answer = .ok (.found newer) ∧ goal.Pending newer := by
  cases answer with
  | error e => cases h
  | ok observation =>
    cases observation with
    | notFound => cases goal <;> cases h
    | found current =>
      cases goal with
      | deletion =>
        obtain ⟨-, rfl⟩ := Verdict.unsettled.inj h
        exact ⟨rfl, trivial⟩
      | status target failures =>
        cases hstatus : Resource.status current with
        | none => simp [verdict, judge, hstatus] at h
        | some status =>
          simp only [verdict, judge, hstatus] at h
          split at h
          · cases h
          · rename_i hagree
            split at h
            · cases h
            · rename_i hfailed
              obtain ⟨-, rfl⟩ := Verdict.unsettled.inj h
              exact ⟨rfl, status, hstatus, by simpa using hagree, by simpa using hfailed⟩

/-- **How an answer settles a wait**: what is said about it, and what the wait ends with. -/
inductive Goal.Settles (handle : R) :
    Goal → Except E (Observation R) → List LogEntry → Except (WaitError R E) R → Prop
  /-- The source failed. -/
  | fetch (goal : Goal) (e : E) : Settles handle goal (.error e) [] (.error (.fetch e))
  /-- Nothing is there, and that was waited for. -/
  | deleted :
    Settles handle .deletion (.ok .notFound) [Notice.about .deleted handle] (.ok handle)
  /-- Nothing is there, though a status was waited for. -/
  | disappeared (target : String) (failures : List String) :
    Settles handle (.status target failures) (.ok .notFound)
      [Notice.about (.disappeared target) handle]
      (.error (.notFound (Resource.kind R) (Resource.id handle) target handle))
  /-- The resource has no status. -/
  | misuse (target : String) (failures : List String) {shown : R}
      (unknown : Resource.status shown = none) :
    Settles handle (.status target failures) (.ok (.found shown)) []
      (.error (.misuse (Resource.kind R)))
  /-- The resource is in the status. -/
  | reached {target : String} (failures : List String) {shown : R} {status : String}
      (known : Resource.status shown = some status) (agrees : Status.agree status target = true) :
    Settles handle (.status target failures) (.ok (.found shown))
      [Notice.about (.reached status) shown] (.ok shown)
  /-- The resource is in a status of failure. -/
  | failure {target : String} {failures : List String} {shown : R} {status : String}
      (known : Resource.status shown = some status) (differs : Status.agree status target = false)
      (fails : Status.isAnyOf status failures = true) :
    Settles handle (.status target failures) (.ok (.found shown))
      [Notice.about (.failed status) shown]
      (.error (.failure (Resource.kind R) (Resource.id shown) status shown))

/-- There is no other way to settle a wait. -/
theorem Goal.settles_of_verdict {goal : Goal} {handle : R} {answer : Except E (Observation R)}
    {entries : List LogEntry} {result : Except (WaitError R E) R}
    (h : goal.verdict handle answer = .settled entries result) :
    Settles handle goal answer entries result := by
  cases answer with
  | error e =>
    cases h
    exact .fetch goal e
  | ok observation =>
    cases goal with
    | deletion =>
      cases observation with
      | found => cases h
      | notFound =>
        cases h
        exact .deleted
    | status target failures =>
      cases observation with
      | notFound =>
        cases h
        exact .disappeared target failures
      | found shown =>
        cases known : Resource.status shown with
        | none =>
          simp only [verdict, judge, known] at h
          cases h
          exact .misuse target failures known
        | some status =>
          simp only [verdict, judge, known] at h
          split at h
          · rename_i agrees
            cases h
            exact .reached failures known agrees
          · rename_i differs
            split at h
            · rename_i fails
              cases h
              exact .failure known (by simpa using differs) fails
            · cases h

/-- A verdict that settles a wait is no timeout. -/
theorem Goal.isTimeout_of_settled {goal : Goal} {handle : R} {answer : Except E (Observation R)}
    {entries : List LogEntry} {error : WaitError R E}
    (h : goal.verdict handle answer = .settled entries (.error error)) :
    error.isTimeout = false := by
  cases settles_of_verdict h with
  | fetch | disappeared | misuse | failure => rfl

/-- What a verdict logs. -/
def Verdict.entries : Verdict R E → List LogEntry
  | .settled entries _ => entries
  | .unsettled entries _ => entries

/-- A verdict logs nothing about a budget. -/
theorem Goal.notice_ne_timedOut (goal : Goal) (handle : R) (answer : Except E (Observation R)) :
    ∀ entry ∈ (goal.verdict handle answer).entries, ∀ called status,
      entry.notice ≠ .timedOut called status := by
  cases answer with
  | error e => simp [verdict, Verdict.entries]
  | ok observation =>
    cases goal with
    | deletion => cases observation <;> simp [verdict, judge, Verdict.entries, Notice.about]
    | status target failures =>
      cases observation with
      | notFound => simp [verdict, judge, Verdict.entries, Notice.about]
      | found current =>
        unfold verdict judge
        dsimp only
        split
        · simp [Verdict.entries]
        · split
          · simp [Verdict.entries, Notice.about]
          · split <;> simp [Verdict.entries, Notice.about]

end ResourceWait
