import ResourceWait.Proofs.Lockstep

/-!
# Letter case

Services spell their statuses as they like, and a wait does not care: neither the case of ASCII
letters, in whatever status it looks at, nor the order and the repetitions in the list of failures
have any influence on it. Two waits that differ in nothing else are in step.

The one thing to be shown for that is that a status agrees with a target, and is among the failures,
regardless of how either is spelled. The rest is `Course.inStep`, with the sources left to decide
which representations are alike, as long as these have the same id and statuses that agree.

It goes no further than that. `Status.agree_iff_forall₂` spells out what agreeing is: the same
characters at the same places, up to the case of ASCII letters.
-/

namespace ResourceWait

namespace Status

/-! ### Which texts agree -/

/-- A character is the capital of another if they are an ASCII letter in its two forms. -/
def IsCapitalOf (capital small : Char) : Prop :=
  'A'.toNat ≤ capital.toNat ∧ capital.toNat ≤ 'Z'.toNat ∧ small.toNat = capital.toNat + 32

/-- **The same letter**: the same character, or the two forms of one ASCII letter. -/
def SameLetter (c d : Char) : Prop := c = d ∨ IsCapitalOf c d ∨ IsCapitalOf d c

/-- What making a character small does to its number. -/
theorem toNat_toLower (c : Char) : c.toLower.toNat
    = if 'A'.toNat ≤ c.toNat ∧ c.toNat ≤ 'Z'.toNat then c.toNat + 32 else c.toNat := by
  have hcapital : (c.val ≥ 'A'.val ∧ c.val ≤ 'Z'.val)
      ↔ 'A'.toNat ≤ c.toNat ∧ c.toNat ≤ 'Z'.toNat := by
    rw [ge_iff_le, UInt32.le_iff_toNat_le, UInt32.le_iff_toNat_le]
    rfl
  unfold Char.toLower
  split
  · rename_i h
    have hle := (hcapital.mp h).2
    have hZ : 'Z'.toNat = 90 := rfl
    rw [if_pos (hcapital.mp h)]
    show (c.val + ('a'.val - 'A'.val)).toNat = c.val.toNat + 32
    rw [UInt32.toNat_add]
    exact Nat.mod_eq_of_lt (show c.toNat + 32 < 2 ^ 32 by omega)
  · rename_i h
    rw [if_neg (mt hcapital.mpr h)]

/-- **Characters have the same small form** if they are the same letter. -/
theorem toLower_eq_toLower_iff {c d : Char} : c.toLower = d.toLower ↔ SameLetter c d := by
  rw [← Char.toNat_inj, toNat_toLower, toNat_toLower]
  unfold SameLetter IsCapitalOf
  rw [← Char.toNat_inj]
  have hA : 'A'.toNat = 65 := rfl
  have hZ : 'Z'.toNat = 90 := rfl
  split <;> split <;> omega

/-- **Texts agree** if they have the same letters at the same places, and nothing else. -/
theorem agree_iff_forall₂ {a b : String} :
    agree a b = true ↔ List.Forall₂ SameLetter a.toList b.toList := by
  rw [agree_iff, key, key, ← List.forall₂_eq_eq_eq, List.forall₂_map_left_iff,
    List.forall₂_map_right_iff]
  simp only [toLower_eq_toLower_iff]

/-- Beyond ASCII no two characters are the same letter. -/
theorem not_sameLetter {c d : Char} (hne : c ≠ d) (h : 127 < c.toNat ∨ 127 < d.toNat) :
    ¬SameLetter c d := by
  have hZ : 'Z'.toNat = 90 := rfl
  rintro (rfl | ⟨_, hc, hd⟩ | ⟨_, hd, hc⟩)
  · exact hne rfl
  · omega
  · omega

/-- **Texts that differ in a character beyond ASCII** do not agree. -/
theorem agree_eq_false_of_ne {a b : String} {i : Nat} {c d : Char} (ha : a.toList[i]? = some c)
    (hb : b.toList[i]? = some d) (hne : c ≠ d) (h : 127 < c.toNat ∨ 127 < d.toNat) :
    agree a b = false := by
  rw [← Bool.not_eq_true, agree_iff]
  intro hkey
  have hletter : (key a)[i]? = (key b)[i]? := by rw [hkey]
  simp only [key, List.getElem?_map, ha, hb, Option.map_some, Option.some.injEq] at hletter
  exact not_sameLetter hne h (toLower_eq_toLower_iff.mp hletter)

/-! ### What a wait asks of them -/

/-- How texts are spelled does not matter for whether they agree. -/
theorem agree_congr {a a' b b' : String} (ha : agree a a' = true) (hb : agree b b' = true) :
    agree a b = agree a' b' := by
  unfold agree
  rw [agree_iff.mp ha, agree_iff.mp hb]

/-- **Lists with the same entries** up to case, in any order and any number. -/
def SameEntries (statuses statuses' : List String) : Prop :=
  (∀ status ∈ statuses, isAnyOf status statuses' = true)
    ∧ ∀ status ∈ statuses', isAnyOf status statuses = true

/-- A list has the same entries as itself. -/
theorem SameEntries.refl (statuses : List String) : SameEntries statuses statuses := by
  have h : ∀ status ∈ statuses, isAnyOf status statuses = true :=
    fun status hmem => isAnyOf_iff.mpr ⟨status, hmem, agree_self status⟩
  exact ⟨h, h⟩

/-- A text that agrees with an entry of a list agrees with one of another list that has it too. -/
theorem isAnyOf_of_isAnyOf {a a' : String} {statuses statuses' : List String}
    (ha : agree a a' = true) (h : ∀ status ∈ statuses, isAnyOf status statuses' = true)
    (hany : isAnyOf a statuses = true) : isAnyOf a' statuses' = true := by
  obtain ⟨status, hmem, hagree⟩ := isAnyOf_iff.mp hany
  obtain ⟨status', hmem', hagree'⟩ := isAnyOf_iff.mp (h status hmem)
  exact isAnyOf_iff.mpr ⟨status', hmem', agree_congr ha hagree' ▸ hagree⟩

/-- **How a list is arranged does not matter** for which texts are any of it. -/
theorem isAnyOf_congr {a a' : String} {statuses statuses' : List String} (ha : agree a a' = true)
    (h : SameEntries statuses statuses') : isAnyOf a statuses = isAnyOf a' statuses' := by
  have ha' : agree a' a = true := agree_iff.mpr (agree_iff.mp ha).symm
  exact Bool.eq_iff_iff.mpr ⟨isAnyOf_of_isAnyOf ha h.1, isAnyOf_of_isAnyOf ha' h.2⟩

end Status

variable {S S' R E : Type} [Resource R]

/-- **Representations that a wait cannot tell apart**: they have the same id, and if they have a
status, the same up to case. -/
structure Resource.SameUpToCase (resource resource' : R) : Prop where
  /-- They have the same id. -/
  id_eq : Resource.id resource' = Resource.id resource
  /-- Their statuses agree. -/
  status : Option.Rel (fun status status' => Status.agree status status' = true)
    (Resource.status resource) (Resource.status resource')

/-- Representations that differ in case both have no status, or statuses that agree. -/
theorem Resource.SameUpToCase.status_cases {resource resource' : R}
    (h : Resource.SameUpToCase resource resource') :
    (Resource.status resource = none ∧ Resource.status resource' = none)
      ∨ ∃ status status', Resource.status resource = some status
        ∧ Resource.status resource' = some status' ∧ Status.agree status status' = true := by
  have hstatus := h.status
  cases hleft : Resource.status resource with
  | none =>
    rw [hleft] at hstatus
    cases hright : Resource.status resource' with
    | none => exact .inl ⟨rfl, rfl⟩
    | some status' =>
      rw [hright] at hstatus
      cases hstatus
  | some status =>
    rw [hleft] at hstatus
    cases hright : Resource.status resource' with
    | none =>
      rw [hright] at hstatus
      cases hstatus
    | some status' =>
      rw [hright] at hstatus
      cases hstatus with
      | some hagree => exact .inr ⟨status, status', rfl, rfl, hagree⟩

/-- **Waits end the same way**, with representations that are alike, where there are any. The target
is called what the caller calls it. -/
inductive OutcomesMatch (alike : R → R → Prop) (target target' : String) :
    Except (WaitError R E) R → Except (WaitError R E) R → Prop where
  /-- Both reach the target. -/
  | reached {resource resource' : R} (h : alike resource resource') :
    OutcomesMatch alike target target' (.ok resource) (.ok resource')
  /-- Both spend their budget. -/
  | timedOut {resource resource' : R} (h : alike resource resource') (budget : Duration) :
    OutcomesMatch alike target target'
      (.error (.timeout (Resource.kind R) (Resource.id resource) target (Resource.status resource)
        budget resource))
      (.error (.timeout (Resource.kind R) (Resource.id resource') target'
        (Resource.status resource') budget resource'))
  /-- Both meet a failure. -/
  | failed {resource resource' : R} {status status' : String} (h : alike resource resource')
      (hstatus : Resource.status resource = some status)
      (hstatus' : Resource.status resource' = some status') :
    OutcomesMatch alike target target'
      (.error (.failure (Resource.kind R) (Resource.id resource) status resource))
      (.error (.failure (Resource.kind R) (Resource.id resource') status' resource'))
  /-- Both find that there is no status to wait for. -/
  | misused : OutcomesMatch alike target target' (.error (.misuse (Resource.kind R)))
    (.error (.misuse (Resource.kind R)))
  /-- Both find nothing there. -/
  | gone {resource resource' : R} (h : alike resource resource') :
    OutcomesMatch alike target target'
      (.error (.notFound (Resource.kind R) (Resource.id resource) target resource))
      (.error (.notFound (Resource.kind R) (Resource.id resource') target' resource'))
  /-- Both are cancelled. -/
  | cancelled {resource resource' : R} (h : alike resource resource') :
    OutcomesMatch alike target target'
      (.error (.cancelled (Resource.kind R) (Resource.id resource) resource))
      (.error (.cancelled (Resource.kind R) (Resource.id resource') resource'))
  /-- The sources of both fail for the same reason. -/
  | fetch (e : E) : OutcomesMatch alike target target' (.error (.fetch e)) (.error (.fetch e))

section

variable {alike : R → R → Prop}
  (halike : ∀ resource resource', alike resource resource' →
    Resource.SameUpToCase resource resource')
  {target target' : String} {failures failures' : List String}
  (htarget : Status.agree target target' = true)
  (hfailures : Status.SameEntries failures failures')

include halike htarget hfailures

/-- **A status is judged alike** however it, the target and the failures are spelled. -/
theorem judgesAlike_status :
    (Goal.status target failures).JudgesAlike alike (fun _ : Except E (Observation R) => True)
      (OutcomesMatch alike target target') (.status target' failures') := by
  refine ⟨fun {handle handle' answer answer'} hhandle hanswer _ => ?_,
    fun h budget => .timedOut h _, fun h => .cancelled h⟩
  cases hanswer with
  | error e => exact .settled (.fetch e)
  | notFound => exact .settled (.gone hhandle)
  | @found shown shown' hshown =>
    obtain ⟨hstatus, hstatus'⟩ | ⟨status, status', hstatus, hstatus', hagree⟩ :=
      (halike shown shown' hshown).status_cases
    · simp only [Goal.verdict, Goal.judge, hstatus, hstatus']
      exact .settled .misused
    · have hreached := Status.agree_congr hagree htarget
      have hfailed := Status.isAnyOf_congr hagree hfailures
      simp only [Goal.verdict, Goal.judge, hstatus, hstatus', ← hreached, ← hfailed]
      split
      · exact .settled (.reached hshown)
      · split
        · exact .settled (.failed hshown hstatus hstatus')
        · exact .unsettled hshown

open Routine in
/-- Waits for a status that differ in how things are spelled stay in step. -/
theorem inStep_waitForStatus {states : S → S' → Prop} {source : Source S R E}
    {source' : Source S' R E} (mirrors : source.Mirrors alike states source') (pace : Pace)
    (fuel : Nat) {resource resource' : R} (hresource : alike resource resource') (clock : Clock)
    {s : S} {s' : S'} (hstate : states s s') :
    InStep alike states (OutcomesMatch alike target target')
      ((waitForStatus source target failures pace fuel resource).execute clock s)
      ((waitForStatus source' target' failures' pace fuel resource').execute clock s') := by
  obtain ⟨hstatus, hstatus'⟩ | ⟨status, status', hstatus, hstatus', hagree⟩ :=
    (halike resource resource' hresource).status_cases
  · rw [waitForStatus_eq_misuse hstatus, waitForStatus_eq_misuse hstatus']
    exact ⟨.nil, rfl, hstate, .some ⟨.misused, rfl⟩⟩
  · have hreached := Status.agree_congr hagree htarget
    cases hthere : Status.agree status target with
    | true =>
      rw [waitForStatus_eq_pure hstatus hthere, waitForStatus_eq_pure hstatus' (hreached ▸ hthere)]
      exact ⟨.nil, rfl, hstate, .some ⟨.reached hresource, rfl⟩⟩
    | false =>
      rw [waitForStatus_eq_pollFromNow hstatus hthere,
        waitForStatus_eq_pollFromNow hstatus' (hreached ▸ hthere)]
      exact inStep_pollFromNow mirrors (judgesAlike_status halike htarget hfailures)
        (fun _ _ => trivial) hresource hstate

open Routine in
/-- **A wait for a status does not notice how anything is spelled**, nor how the failures are arranged.
Two waits that differ only in that put matching questions at the same moments, and end at the same
moment in the same way, or neither ends. But what it does not notice is the case of ASCII letters and
nothing else: texts agree only if they have the same letters at the same places, so two that differ
anywhere in a character beyond ASCII never do. -/
theorem waitForStatus_ignoresCase {states : S → S' → Prop} {source : Source S R E}
    {source' : Source S' R E} (mirrors : source.Mirrors alike states source') (pace : Pace)
    (fuel : Nat) {resource resource' : R} (hresource : alike resource resource') (clock : Clock)
    {s : S} {s' : S'} (hstate : states s s') :
    InStep alike states (OutcomesMatch alike target target')
        ((waitForStatus source target failures pace fuel resource).execute clock s)
        ((waitForStatus source' target' failures' pace fuel resource').execute clock s')
      ∧ (∀ a b : String, Status.agree a b = true
        ↔ List.Forall₂ Status.SameLetter a.toList b.toList)
      ∧ (∀ (a : String) (statuses : List String), Status.isAnyOf a statuses = true
        ↔ ∃ b ∈ statuses, List.Forall₂ Status.SameLetter a.toList b.toList)
      ∧ ∀ (a b : String) (i : Nat) (c d : Char), a.toList[i]? = some c → b.toList[i]? = some d →
        c ≠ d → 127 < c.toNat ∨ 127 < d.toNat → Status.agree a b = false := by
  refine ⟨inStep_waitForStatus halike htarget hfailures mirrors pace fuel hresource clock hstate,
    fun a b => Status.agree_iff_forall₂, fun a statuses => ?_,
    fun a b i c d => Status.agree_eq_false_of_ne⟩
  rw [Status.isAnyOf_iff]
  simp only [Status.agree_iff_forall₂]

end

/-- A service that shows a probe in one status first and in another from then on. -/
def twoStatuses (first second : String) : Source Nat Probe FetchError where
  fetch handle _ asked :=
    ({ answer := .ok (.found ⟨handle.id, some (if asked = 0 then first else second)⟩),
       delay := .ofSeconds 1 }, asked + 1)

/-- Such services mirror each other if their statuses agree. -/
theorem mirrors_twoStatuses {first first' second second' : String}
    (hfirst : Status.agree first first' = true) (hsecond : Status.agree second second' = true) :
    (twoStatuses first second).Mirrors Resource.SameUpToCase Eq (twoStatuses first' second') := by
  refine ⟨?_, ?_, ?_, ?_⟩
  · rintro handle handle' asked _ hhandle rfl now
    refine .found ⟨hhandle.id_eq, .some ?_⟩
    split
    · exact hfirst
    · exact hsecond
  all_goals
    rintro handle handle' asked _ hhandle rfl now
    rfl

open Routine in
/-- A wait that is told everything in small letters, and another that is not: both are over after two
questions, at the same moment, and each has the status as its own service spells it. -/
theorem waitForStatus_ignoresCase_shouting :
    let run := (waitForStatus (twoStatuses "build" "active") "active" ["error", "deleted"] {} 3
      ⟨"p", some "queued"⟩).execute ⟨0, none⟩ 0
    let run' := (waitForStatus (twoStatuses "BUILD" "ACTIVE") "Active" ["DELETED", "Error", "ERROR"]
      {} 3 ⟨"p", some "QUEUED"⟩).execute ⟨0, none⟩ 0
    InStep Resource.SameUpToCase Eq (OutcomesMatch Resource.SameUpToCase "active" "Active") run run'
      ∧ run.result = some (.ok ⟨"p", some "active"⟩, ⟨4000000000, none⟩)
      ∧ run'.result = some (.ok ⟨"p", some "ACTIVE"⟩, ⟨4000000000, none⟩) := by
  intro run run'
  have hentries : Status.SameEntries ["error", "deleted"] ["DELETED", "Error", "ERROR"] := by
    unfold Status.SameEntries
    decide
  have hprobe : Resource.SameUpToCase (⟨"p", some "queued"⟩ : Probe) ⟨"p", some "QUEUED"⟩ :=
    ⟨rfl, .some (by decide)⟩
  have hmirrors : (twoStatuses "build" "active").Mirrors Resource.SameUpToCase Eq
      (twoStatuses "BUILD" "ACTIVE") := mirrors_twoStatuses (by decide) (by decide)
  refine ⟨(waitForStatus_ignoresCase (fun _ _ h => h) (by decide) hentries hmirrors {} 3 hprobe
    ⟨0, none⟩ rfl).1, by decide, by decide⟩

end ResourceWait
