import ResourceWait.Proofs.LetterCase
import ResourceWait.Proofs.Truthfulness

/-!
# Waiting once more for a fresh resource

A wait that succeeds hands back a resource in the status that was waited for. Whoever waits for that
once more has nothing to wait for: the wait is over before the source is asked, and at the moment at
which it begins.

So it is with a wait for the status. A wait for a fresh resource has a look at the statuses of failure
first, though, since a creation that was answered with one of them is refused without any polling; and
nothing keeps a configuration from naming one and the same status as the target and as a failure. Then
the two disagree: what was polled for successfully is refused when it is brought back.
`waitForCreated_again` says that this is the one exception.
-/

namespace ResourceWait

variable {S R E : Type} [Resource R]

/-! ### What a wait hands back -/

/-- **A wait for a status that succeeds** hands back a resource in this status. -/
theorem exists_agree_of_waitForStatus {source : Source S R E} {target : String}
    {failures : List String} {pace : Pace} {fuel : Nat} {resource reached : R} {clock later : Clock}
    {s : S} (hresult : ((Routine.waitForStatus source target failures pace fuel resource).execute
      clock s).result = some (.ok reached, later)) :
    ∃ status, Resource.status reached = some status ∧ Status.agree status target = true := by
  cases hstatus : Resource.status resource with
  | none =>
    rw [waitForStatus_eq_misuse hstatus] at hresult
    cases hresult
  | some status =>
    cases hagree : Status.agree status target with
    | true =>
      rw [waitForStatus_eq_pure hstatus hagree] at hresult
      cases hresult
      exact ⟨status, hstatus, hagree⟩
    | false =>
      rw [waitForStatus_eq_pollFromNow hstatus hagree] at hresult
      obtain ⟨earlier, last, -, -, hlast⟩ := concludes_pollFromNow hresult
      exact (Goal.statusConcludes_of_concludes hlast).reached.2

namespace BlockStorage

variable {service : BlockStorage} {source : Source S R E} {resource : R} {status : String}

/-- A fresh resource that is in a status of failure is refused. -/
theorem waitForCreated_of_isAnyOf (hstatus : Resource.status resource = some status)
    (hfailed : Status.isAnyOf status service.defaults.failures = true) (timeout : Option Duration)
    (fuel : Nat) : service.waitForCreated source timeout fuel resource
      = pure (.error (.failure (Resource.kind R) (Resource.id resource) status resource)) := by
  have hrefused : service.failedStatus? resource = some status := by
    rw [failedStatus?, hstatus]
    exact Option.filter_some_pos hfailed
  unfold waitForCreated
  rw [hrefused]

/-- A fresh resource that is in the target, and in no status of failure, is created already. -/
theorem execute_waitForCreated_of_agree (hstatus : Resource.status resource = some status)
    (hagree : Status.agree status service.defaults.status = true)
    (hfailed : Status.isAnyOf status service.defaults.failures = false) (timeout : Option Duration)
    (fuel : Nat) (clock : Clock) (s : S) :
    (service.waitForCreated source timeout fuel resource).execute clock s
      = ⟨[.log (Notice.about .created resource)], some (.ok resource, clock), s⟩ := by
  have hrefused : service.failedStatus? resource = none := by
    rw [failedStatus?, hstatus]
    exact Option.filter_some_neg hfailed
  unfold waitForCreated
  rw [hrefused, waitForStatus_eq_pure hstatus hagree]
  rfl

/-- **A wait for a fresh resource that succeeds** hands back a resource in the target. -/
theorem exists_agree_of_waitForCreated {timeout : Option Duration} {fuel : Nat} {created : R}
    {clock later : Clock} {s : S}
    (hresult : ((service.waitForCreated source timeout fuel resource).execute clock s).result
      = some (.ok created, later)) :
    ∃ status, Resource.status created = some status
      ∧ Status.agree status service.defaults.status = true := by
  obtain ⟨_, -, hrun⟩ | ⟨closing, -, hrun⟩ :=
    service.execute_waitForCreated_cases source timeout fuel resource clock s
  · rw [hrun] at hresult
    cases hresult
  · rw [hrun] at hresult
    exact exists_agree_of_waitForStatus hresult

end BlockStorage

/-! ### Waiting once more -/

/-- **A resource that was waited for is there.** Where a wait for a fresh resource has succeeded, a wait
for the target hands the resource back at once, without a question, and so does a second wait for the
fresh resource, whatever its budget – unless the configuration has the target among the failures. Then
the second wait refuses it, at once too. -/
theorem waitForCreated_again (config : PollConfig) (source : Source S R E)
    (timeout : Option Duration) (fuel : Nat) (resource : R) (clock : Clock) (s : S) {created : R}
    {later : Clock}
    (hcreated : (((BlockStorage.withConfig config).waitForCreated source timeout fuel
      resource).execute clock s).result = some (.ok created, later)) :
    ∃ status, Resource.status created = some status
      ∧ Status.agree status config.blockStorage.status = true
      ∧ ∀ (fuel' : Nat) (clock' : Clock) (s' : S),
        ((BlockStorage.withConfig config).waitForStatus source fuel' created).execute clock' s'
            = ⟨[], some (.ok created, clock'), s'⟩
          ∧ ∀ timeout' : Option Duration,
            ((BlockStorage.withConfig config).waitForCreated source timeout' fuel' created).execute
                clock' s'
              = if Status.isAnyOf config.blockStorage.status config.blockStorage.failures then
                  ⟨[], some (.error (.failure (Resource.kind R) (Resource.id created) status
                    created), clock'), s'⟩
                else ⟨[.log (Notice.about .created created)], some (.ok created, clock'), s'⟩ := by
  obtain ⟨status, hstatus, hagree⟩ := BlockStorage.exists_agree_of_waitForCreated hcreated
  have hfailures : Status.isAnyOf status config.blockStorage.failures
      = Status.isAnyOf config.blockStorage.status config.blockStorage.failures :=
    Status.isAnyOf_congr hagree (Status.SameEntries.refl _)
  refine ⟨status, hstatus, hagree, fun fuel' clock' s' => ⟨?_, fun timeout' => ?_⟩⟩
  · rw [BlockStorage.waitForStatus, waitForStatus_eq_pure hstatus hagree, Routine.execute_pure]
  · cases hfailed : Status.isAnyOf config.blockStorage.status config.blockStorage.failures with
    | true =>
      rw [BlockStorage.waitForCreated_of_isAnyOf hstatus (hfailures.trans hfailed), if_pos rfl,
        Routine.execute_pure]
    | false =>
      rw [BlockStorage.execute_waitForCreated_of_agree hstatus hagree (hfailures.trans hfailed),
        if_neg Bool.false_ne_true]

/-- A volume that is created under the usual configuration, and is there when it is waited for once
more. -/
theorem waitForCreated_again_usual :
    let source : Source Unit Volume FetchError :=
      ⟨fun handle _ s => ({ answer := .ok (.found { handle with status := "Available" }) }, s)⟩
    let creating : Volume := { id := "vol-1", status := "creating" }
    let created : Volume := { id := "vol-1", status := "Available" }
    let service := BlockStorage.withConfig {}
    (({} : PollConfig).validate = .ok ()
        ∧ ((service.waitForCreated source none 1 creating).execute ⟨0, none⟩ ()).result
          = some (.ok created, ⟨0, none⟩))
      ∧ (service.waitForCreated source (some .zero) 0 created).execute ⟨0, none⟩ ()
        = ⟨[.log (Notice.about .created created)], some (.ok created, ⟨0, none⟩), ()⟩ := by
  intro source creating created service
  have hcreated : ((service.waitForCreated source none 1 creating).execute ⟨0, none⟩ ()).result
      = some (.ok created, ⟨0, none⟩) := by
    subst service created creating source
    rfl
  obtain ⟨status, -, -, hagain⟩ := waitForCreated_again {} source none 1 creating ⟨0, none⟩ () hcreated
  refine ⟨⟨rfl, hcreated⟩, ?_⟩
  exact ((hagain 0 ⟨0, none⟩ ()).2 (some .zero)).trans (if_neg (by decide))

/-- **A target among the failures is refused when it is brought back.** The configuration makes sense,
the first wait succeeds, and so does one more wait for the status, but a second wait for the fresh
resource fails. -/
theorem waitForCreated_refusesTarget :
    let config : PollConfig := { blockStorage := ⟨"available", ["error", "Available"]⟩ }
    let source : Source Unit Volume FetchError :=
      ⟨fun handle _ s => ({ answer := .ok (.found { handle with status := "available" }) }, s)⟩
    let creating : Volume := { id := "vol-1", status := "creating" }
    let created : Volume := { id := "vol-1", status := "available" }
    let service := BlockStorage.withConfig config
    config.validate = .ok ()
      ∧ ((service.waitForCreated source none 1 creating).execute ⟨0, none⟩ ()).result
        = some (.ok created, ⟨0, none⟩)
      ∧ ((service.waitForStatus source 1 created).execute ⟨0, none⟩ ()).result
        = some (.ok created, ⟨0, none⟩)
      ∧ ((service.waitForCreated source none 1 created).execute ⟨0, none⟩ ()).result
        = some (.error (.failure "volume" "vol-1" "available" created), ⟨0, none⟩) :=
  ⟨rfl, rfl, rfl, rfl⟩

end ResourceWait
