import ResourceWait.Proofs.Extension
import ResourceWait.Proofs.LetterCase
import ResourceWait.Proofs.Outcome
import ResourceWait.Resource.Probe

/-!
# More statuses of failure

Two waits for the same status, of which the second has more statuses of failure. All that these can do
is to cut it short: as long as no answer shows one that the first does not have, the two are the same
wait, and where one does, the second fails there and then, while the first goes on.

So the first outlasts the second, and early are the failures with a status that the first does not
have. Two things are no failure even so. The status that the resource is in when the wait begins is not
looked at, unless it is the target; and a status that is the target as well settles both waits well.
-/

namespace ResourceWait

variable {S R E : Type}

/-! ### What tells the two waits apart -/

/-- **A failure beyond a list**: the status of failure is none of these. -/
def WaitError.IsFailureBeyond (failures : List String) : WaitError R E → Prop
  | .failure _ _ status _ => Status.isAnyOf status failures = false
  | _ => False

variable [Resource R]

/-- **A question tells two lists of failures apart** if it shows the resource in a status that is not
the target, and that only the longer list has. -/
def Question.TellsApart (target : String) (failures longer : List String) (question : Question R E) :
    Prop :=
  ∃ shown status, question.answer = .ok (.found shown) ∧ Resource.status shown = some status
    ∧ Status.agree status target = false ∧ Status.isAnyOf status longer = true
    ∧ Status.isAnyOf status failures = false

section

variable {target : String} {failures longer : List String} {pace : Pace} {last : Question R E}
variable {later : Clock}

/-- A wait for a status outlasts the same wait with more failures. -/
theorem outlasts_of_failures (h : ∀ status ∈ failures, Status.isAnyOf status longer = true)
    (target : String) (pace : Pace) :
    Outlasts (fun error : WaitError R E => error.IsFailureBeyond failures) (.status target longer)
      pace (.status target failures) pace := by
  refine ⟨rfl, fun _ => id, fun _ hspent _ => .inr ⟨hspent, rfl, rfl⟩, fun handle answer => ?_⟩
  cases answer with
  | error e => exact .inl rfl
  | ok observation =>
    cases observation with
    | notFound => exact .inl rfl
    | found current =>
      simp only [Goal.verdict, Goal.judge]
      cases Resource.status current with
      | none => exact .inl rfl
      | some status =>
        dsimp only
        split
        · exact .inl rfl
        · cases hfailed : Status.isAnyOf status failures with
          | true =>
            -- what the shorter list has, the longer one has
            have hlonger : Status.isAnyOf status longer = true :=
              Status.isAnyOf_of_isAnyOf (Status.agree_self status) h hfailed
            rw [hlonger]
            exact .inl rfl
          | false =>
            cases Status.isAnyOf status longer with
            | true => exact .inr ⟨_, _, rfl, hfailed⟩
            | false => exact .inl rfl

/-- A wait that fails beyond a list does so at a question that tells this list and its own apart. -/
theorem Goal.StatusConcludes.tellsApart {error : WaitError R E}
    (h : StatusConcludes target longer pace last (.error error) later)
    (hbeyond : error.IsFailureBeyond failures) : last.TellsApart target failures longer := by
  unfold StatusConcludes at h
  split at h
  · cases h
    exact absurd hbeyond id
  · cases h
    exact absurd hbeyond id
  · rename_i newest hanswer
    split at h
    · cases h
      exact absurd hbeyond id
    · rename_i status hstatus
      split at h
      · cases h
      · rename_i hagree
        split at h
        · rename_i hlonger
          cases h
          exact ⟨newest, status, hanswer, hstatus, eq_false_of_ne_true hagree, hlonger, hbeyond⟩
        · obtain ⟨_, -, herror⟩ | ⟨-, herror⟩ := h
          · cases herror
            exact absurd hbeyond id
          · cases herror
            exact absurd hbeyond id

/-- A question that concludes a wait well does not tell lists apart. -/
theorem Goal.StatusConcludes.not_tellsApart {reached : R}
    (h : StatusConcludes target failures pace last (.ok reached) later) :
    ¬ last.TellsApart target failures longer := by
  rintro ⟨shown, status, hanswer, hstatus, hagree, -⟩
  obtain ⟨hreached, status', hstatus', hagree'⟩ := h.reached
  cases hanswer.symm.trans hreached
  cases hstatus.symm.trans hstatus'
  exact absurd (hagree.symm.trans hagree') Bool.false_ne_true

/-- A question that leaves a wait open does not tell its list and a shorter one apart. -/
theorem not_tellsApart_of_pending {question : Question R E} {shown : R}
    (hanswer : question.answer = .ok (.found shown))
    (hpending : (Goal.status target longer).Pending shown) :
    ¬ question.TellsApart target failures longer := by
  rintro ⟨shown', status, hanswer', hstatus, -, hlonger, -⟩
  obtain ⟨status', hstatus', -, hopen⟩ := hpending
  cases hanswer.symm.trans hanswer'
  cases hstatus.symm.trans hstatus'
  exact absurd (hopen.symm.trans hlonger) Bool.false_ne_true

end

/-! ### Where a wait that succeeds is cut short -/

/-- **A wait that succeeds is the same with more failures** exactly if none of its questions but the
last tells the two lists apart. -/
theorem pollFromNow_eq_iff {failures longer : List String}
    (h : ∀ status ∈ failures, Status.isAnyOf status longer = true) (source : Source S R E)
    (target : String) (pace : Pace) (fuel : Nat) (resource : R) (clock : Clock) (s : S)
    {reached : R} {later : Clock}
    (hresult : ((Routine.pollFromNow source (.status target failures) pace fuel resource).execute
      clock s).result = some (.ok reached, later)) :
    (Routine.pollFromNow source (.status target failures) pace fuel resource).execute clock s
        = (Routine.pollFromNow source (.status target longer) pace fuel resource).execute clock s
      ↔ ∀ question ∈ (questions ((Routine.pollFromNow source (.status target failures) pace fuel
          resource).execute clock s).events).dropLast, ¬ question.TellsApart target failures longer := by
  have outlasts := outlasts_of_failures (R := R) (E := E) h target pace
  have extended := extends_pollFromNow outlasts (Nat.le_refl fuel) source resource clock s
  constructor
  · intro heq
    rw [heq] at hresult ⊢
    obtain ⟨earlier, last, hquestions, hearlier, -⟩ := concludes_pollFromNow hresult
    rw [hquestions, List.dropLast_concat]
    intro question hmem
    obtain ⟨shown, hanswer, hpending⟩ := hearlier question hmem
    exact not_tellsApart_of_pending hanswer hpending
  · intro hnone
    obtain ⟨earlier, last, hquestions, -, hlast⟩ := concludes_pollFromNow hresult
    rw [hquestions, List.dropLast_concat] at hnone
    cases hshort : ((Routine.pollFromNow source (.status target longer) pace fuel resource).execute
        clock s).result with
    | none =>
      exact execute_pollFromNow_of_result_eq_none outlasts source resource clock s hshort
    | some ended =>
      obtain ⟨result, later'⟩ := ended
      refine extended.same result later' hshort ?_
      rintro error rfl hbeyond
      -- the question at which the second wait fails is one of the first, but not its last
      obtain ⟨earlier', last', hquestions', -, hlast'⟩ := concludes_pollFromNow hshort
      have hapart := (Goal.statusConcludes_of_concludes hlast').tellsApart hbeyond
      have hmem : last' ∈ earlier ++ [last] := by
        rw [← hquestions]
        refine extended.asks_on.subset ?_
        rw [hquestions']
        exact List.mem_append_right _ List.mem_cons_self
      obtain hearlier | hlatest := List.mem_append.mp hmem
      · exact hnone last' hearlier hapart
      · cases List.mem_singleton.mp hlatest
        exact (Goal.statusConcludes_of_concludes hlast).not_tellsApart hapart

open Routine in
/-- **More failures only cut a wait short.** What it asks with more of them, it asks first with fewer,
and at the same moments. If it does not fail with one that is new, it is the same wait with both, and
likewise if it never ends; and a wait that succeeds with fewer is the same with more, unless the
resource was shown before in a status that is not the target, and a failure only in the longer list. -/
theorem waitForStatus_moreFailures (source : Source S R E) (target : String)
    {failures longer : List String} (h : ∀ status ∈ failures, Status.isAnyOf status longer = true)
    (pace : Pace) (resource : R) (clock : Clock) (s : S) :
    let wait (failures : List String) (fuel : Nat) :=
      (waitForStatus source target failures pace fuel resource).execute clock s
    (∀ fuel fuel', fuel ≤ fuel' →
        Extends (fun error => error.IsFailureBeyond failures) (wait longer fuel)
          (wait failures fuel'))
      ∧ (∀ fuel, (wait longer fuel).result = none → wait failures fuel = wait longer fuel)
      ∧ ∀ fuel reached later, (wait failures fuel).result = some (.ok reached, later) →
        (wait failures fuel = wait longer fuel
          ↔ ∀ question ∈ (questions (wait failures fuel).events).dropLast,
            ¬ question.TellsApart target failures longer) := by
  intro wait
  obtain ⟨result, hwait⟩ | hwait := waitForStatus_cases source target resource
  · have hpure : ∀ failures fuel, wait failures fuel = ⟨[], some (result, clock), s⟩ := by
      intro failures fuel
      show (waitForStatus source target failures pace fuel resource).execute clock s = _
      rw [hwait, execute_pure]
    refine ⟨fun fuel fuel' _ => ?_, fun fuel _ => ?_, fun fuel reached later _ => ?_⟩
    · rw [hpure, hpure]
      exact .refl _ _
    · rw [hpure, hpure]
    · rw [hpure, hpure]
      exact iff_of_true rfl fun _ hmem => nomatch hmem
  · have hpoll : ∀ failures fuel, wait failures fuel
        = (pollFromNow source (.status target failures) pace fuel resource).execute clock s := by
      intro failures fuel
      show (waitForStatus source target failures pace fuel resource).execute clock s = _
      rw [hwait]
    have outlasts := outlasts_of_failures (R := R) (E := E) h target pace
    refine ⟨fun fuel fuel' hfuel => ?_, fun fuel hnone => ?_, fun fuel reached later hresult => ?_⟩
    · rw [hpoll, hpoll]
      exact extends_pollFromNow outlasts hfuel source resource clock s
    · rw [hpoll] at hnone
      rw [hpoll, hpoll]
      exact execute_pollFromNow_of_result_eq_none outlasts source resource clock s hnone
    · rw [hpoll] at hresult
      rw [hpoll, hpoll]
      exact pollFromNow_eq_iff h source target pace fuel resource clock s hresult

open Routine in
/-- A probe that is suspended once before it is active: a failure only to who counts that as one. -/
theorem waitForStatus_moreFailures_suspended :
    let source : Source Nat Probe FetchError := ⟨fun handle _ asked => (match asked with
      | 0 => { answer := .ok (.found { handle with status := some "SUSPENDED" }) }
      | _ => { answer := .ok (.found { handle with status := some "ACTIVE" }) }, asked + 1)⟩
    let wait (failures : List String) :=
      (waitForStatus source "active" failures {} 2 ⟨"p", some "BUILD"⟩).execute ⟨0, none⟩ 0
    (∀ status ∈ ["error"], Status.isAnyOf status ["Error", "suspended"] = true)
      ∧ Extends (fun error => error.IsFailureBeyond ["error"]) (wait ["Error", "suspended"])
        (wait ["error"])
      ∧ (wait ["error"]).result = some (.ok ⟨"p", some "ACTIVE"⟩, ⟨2000000000, none⟩)
      ∧ (wait ["Error", "suspended"]).result
        = some (.error (.failure "probe" "p" "SUSPENDED" ⟨"p", some "SUSPENDED"⟩), ⟨0, none⟩)
      ∧ ∃ question ∈ (questions (wait ["error"]).events).dropLast,
        question.TellsApart "active" ["error"] ["Error", "suspended"] := by
  intro source wait
  have h : ∀ status ∈ ["error"], Status.isAnyOf status ["Error", "suspended"] = true := by decide
  have hfewer : (wait ["error"]).result
      = some (.ok ⟨"p", some "ACTIVE"⟩, ⟨2000000000, none⟩) := by
    subst wait source
    rfl
  have hmore : (wait ["Error", "suspended"]).result
      = some (.error (.failure "probe" "p" "SUSPENDED" ⟨"p", some "SUSPENDED"⟩), ⟨0, none⟩) := by
    subst wait source
    rfl
  obtain ⟨cut, -, hsame⟩ :=
    waitForStatus_moreFailures source "active" h {} ⟨"p", some "BUILD"⟩ ⟨0, none⟩ 0
  refine ⟨h, cut 2 2 (Nat.le_refl 2), hfewer, hmore, ?_⟩
  by_contra hnone
  have heq : wait ["error"] = wait ["Error", "suspended"] :=
    (hsame 2 _ _ hfewer).mpr fun question hmem hapart => hnone ⟨question, hmem, hapart⟩
  rw [heq, hmore] at hfewer
  cases hfewer

end ResourceWait
