import ResourceWait.Proofs.DeletionOutcome

/-!
# What a wait says

A wait says one thing about every representation that leaves it open, and at most one thing more when
it is over. The first kind is of interest only to someone who looks into it, the last is good news
or bad: `Goal.IsToldBy` says all this of a log, and who reads the log knows what the wait was shown and
whether it went well.

That it is so is carried through the loop by `Course.logged_eq`: as far as a wait was followed, its log
is the openings for the answers it got and then the closing of its result.
-/

namespace ResourceWait

variable {S R E : Type} [Resource R]

/-! ### Lines -/

namespace Goal

/-- **The representations that left a wait open**, in the order in which they were shown. -/
def leftOpen (goal : Goal) (asked : List (Question R E)) : List R :=
  (asked.filterMap Question.shown?).filter fun shown => goal.Pending shown

/-- What a wait says about a representation that leaves it open. -/
def opening (goal : Goal) (shown : R) : LogEntry :=
  Notice.about (match goal with
    | status target _ => .awaiting target (statusText (Resource.status shown))
    | deletion => .awaitingDeletion) shown

/-- **What a wait says last**, if it says anything. A source that failed, a resource without a status
and a token that was cancelled are left to the caller. -/
def closing? (goal : Goal) : Except (WaitError R E) R → Option LogEntry
  | .ok last => some (Notice.about (match goal with
    | status _ _ => .reached (statusText (Resource.status last))
    | deletion => .deleted) last)
  | .error (.timeout _ _ _ _ _ newest) => some ((goal.timeoutNotice newest).about newest)
  | .error (.failure _ _ reached newest) => some (Notice.about (.failed reached) newest)
  | .error (.notFound _ _ missed newest) => some (Notice.about (.disappeared missed) newest)
  | .error (.misuse _) => none
  | .error (.cancelled ..) => none
  | .error (.fetch _) => none

@[simp] theorem leftOpen_nil (goal : Goal) : goal.leftOpen ([] : List (Question R E)) = [] := rfl

/-- An answer that settles a wait does not leave it open. -/
theorem leftOpen_of_settled {goal : Goal} {handle : R} {question : Question R E}
    {entries : List LogEntry} {result : Except (WaitError R E) R}
    (h : goal.verdict handle question.answer = .settled entries result)
    (rest : List (Question R E)) : goal.leftOpen (question :: rest) = goal.leftOpen rest := by
  unfold leftOpen
  cases hshown : question.shown? with
  | none => rw [List.filterMap_cons_none hshown]
  | some shown =>
    have notPending : ¬ goal.Pending shown := by
      intro pending
      obtain ⟨_, hopen⟩ := verdict_of_pending pending handle
      rw [Question.shown?_eq_some_iff.mp hshown, hopen] at h
      cases h
    rw [List.filterMap_cons_some hshown, List.filter_cons_of_neg (by simpa using notPending)]

/-- An answer that leaves a wait open is listed. -/
theorem leftOpen_of_unsettled {goal : Goal} {handle newer : R} {question : Question R E}
    {entries : List LogEntry} (h : goal.verdict handle question.answer = .unsettled entries newer)
    (rest : List (Question R E)) :
    goal.leftOpen (question :: rest) = newer :: goal.leftOpen rest := by
  obtain ⟨hanswer, pending⟩ := pending_of_verdict h
  have hshown : question.shown? = some newer := Question.shown?_eq_some_iff.mpr hanswer
  unfold leftOpen
  rw [List.filterMap_cons_some hshown, List.filter_cons_of_pos (by simpa using pending)]

/-- What is said about an answer that leaves a wait open. -/
theorem entries_of_unsettled {goal : Goal} {handle newer : R} {entries : List LogEntry}
    {answer : Except E (Observation R)}
    (h : goal.verdict handle answer = .unsettled entries newer) :
    entries = [goal.opening newer] := by
  obtain ⟨rfl, pending⟩ := pending_of_verdict h
  cases goal with
  | deletion =>
    cases h
    rfl
  | status target failures =>
    obtain ⟨status, hstatus, hagree, hfailed⟩ := pending
    simp only [verdict, judge, hstatus, hagree, hfailed, Bool.false_eq_true, if_false] at h
    cases h
    simp [opening, hstatus, statusText]

/-- What is said about an answer that settles a wait is the closing of its result. -/
theorem entries_of_settled {goal : Goal} {handle : R} {entries : List LogEntry}
    {answer : Except E (Observation R)} {result : Except (WaitError R E) R}
    (h : goal.verdict handle answer = .settled entries result) :
    entries = (goal.closing? result).toList := by
  cases settles_of_verdict h with
  | fetch | deleted | disappeared | misuse | failure => rfl
  | reached _ known =>
    show [Notice.about _ _] = [Notice.about (.reached (statusText _)) _]
    rw [known]
    rfl

end Goal

/-- **The log of a wait** is a line for every answer that left it open, in their order, and then, where
the wait is over, what there is to say about its result. -/
theorem Course.logged_eq {source : Source S R E} {goal : Goal} {pace : Pace} {start : Instant}
    {fuel : Nat} {handle : R} {clock : Clock} {s : S} {run : WaitRun S R E}
    (course : Course source goal pace start fuel handle clock s run) :
    logged run.events = (goal.leftOpen (questions run.events)).map goal.opening
      ++ (run.result.bind fun ended => goal.closing? ended.1).toList := by
  induction course with
  | unfollowed => rfl
  | timedOut => rfl
  | settled _ verdict =>
    simp [Goal.leftOpen_of_settled verdict, Goal.entries_of_settled verdict]
  | cancelled _ verdict =>
    simp [Goal.leftOpen_of_unsettled verdict, Goal.entries_of_unsettled verdict, Goal.closing?,
      WaitError.ofCancelled]
  | again _ verdict _ _ ih =>
    rw [logged_behind, questions_behind, ih, Goal.leftOpen_of_unsettled verdict,
      Goal.entries_of_unsettled verdict]
    rfl

/-! ### What can be told from the log -/

/-- **An error that is warned of.** The others are left to whoever handles them. -/
def WaitError.IsWarnedOf : WaitError R E → Prop
  | .timeout .. | .failure .. | .notFound .. => True
  | .misuse _ | .cancelled .. | .fetch _ => False

namespace Goal

/-- **An answer that brings success**: it shows the resource in the status waited for or, where a
deletion is waited for, nothing at all. -/
def IsMetBy (goal : Goal) (answer : Except E (Observation R)) : Prop :=
  match goal with
  | status target _ => ∃ shown current, answer = .ok (.found shown)
    ∧ Resource.status shown = some current ∧ Status.agree current target = true
  | deletion => answer = .ok .notFound

/-- An answer that brings success settles the wait well. -/
theorem verdict_of_isMetBy {goal : Goal} {answer : Except E (Observation R)}
    (h : goal.IsMetBy answer) (handle : R) :
    ∃ entries last, goal.verdict handle answer = .settled entries (.ok last) := by
  cases goal with
  | deletion =>
    rw [show answer = .ok .notFound from h]
    exact ⟨_, _, rfl⟩
  | status target failures =>
    obtain ⟨shown, current, rfl, hcurrent, hagree⟩ := h
    simp [verdict, judge, hcurrent, hagree]

/-- A wait that concludes well was brought success. -/
theorem Concludes.isMetBy {goal : Goal} {pace : Pace} {question : Question R E} {last : R}
    {later : Clock} (h : goal.Concludes pace question (.ok last) later) :
    goal.IsMetBy question.answer := by
  cases goal with
  | status target failures =>
    obtain ⟨hanswer, current, hcurrent, hagree⟩ := (statusConcludes_of_concludes h).reached
    exact ⟨last, current, hanswer, hcurrent, hagree⟩
  | deletion =>
    have hconcludes := deletionConcludes_of_concludes h
    unfold DeletionConcludes at hconcludes
    split at hconcludes
    · cases hconcludes
    · assumption
    · obtain ⟨_, herror, -⟩ := hconcludes.error
      cases herror

/-- What is said about an answer that leaves a wait open is of interest only to someone who looks into
it. -/
@[simp] theorem level_opening (goal : Goal) (shown : R) : (goal.opening shown).level = .debug := by
  cases goal <;> rfl

/-- What is said last is good news of a success or bad news of an error. -/
theorem level_of_closing? {goal : Goal} {result : Except (WaitError R E) R} {entry : LogEntry}
    (h : goal.closing? result = some entry) :
    (∃ last, result = .ok last) ∧ entry.level = .info
      ∨ (∃ error, result = .error error ∧ error.IsWarnedOf) ∧ entry.level = .warn := by
  cases result with
  | ok last =>
    cases h
    exact .inl ⟨⟨last, rfl⟩, by cases goal <;> rfl⟩
  | error error =>
    cases error with
    | timeout =>
      cases h
      exact .inr ⟨⟨_, rfl, trivial⟩, by cases goal <;> rfl⟩
    | failure | notFound =>
      cases h
      exact .inr ⟨⟨_, rfl, trivial⟩, rfl⟩
    | misuse | cancelled | fetch => cases h

/-- What is said last is no opening. -/
theorem level_ne_debug_of_closing? {goal : Goal} {result : Except (WaitError R E) R} {entry : LogEntry}
    (h : goal.closing? result = some entry) : entry.level ≠ .debug := by
  obtain ⟨-, hlevel⟩ | ⟨-, hlevel⟩ := level_of_closing? h
  all_goals
    rw [hlevel]
    exact Level.noConfusion

/-- Nothing is said last about an error that is not warned of, and about nothing else. -/
theorem closing?_eq_none_iff {goal : Goal} {result : Except (WaitError R E) R} :
    goal.closing? result = none ↔ ∃ error, result = .error error ∧ ¬ error.IsWarnedOf := by
  cases result with
  | ok last => simp [closing?]
  | error error => cases error <;> simp [closing?, WaitError.IsWarnedOf]

/-- **A line says that a representation leaves the wait open**: it is of interest only to someone who
looks into it, and it names the resource as it was shown, and its status if one is waited for. -/
def SaysOpen (goal : Goal) (shown : R) (entry : LogEntry) : Prop :=
  entry.level = .debug ∧ match goal with
    | status target _ => ∃ current, Resource.status shown = some current
      ∧ entry.text = "Still waiting for " ++ (Resource.kind R ++ " " ++ Resource.id shown)
        ++ " to reach " ++ target ++ ", current status is " ++ current
    | deletion => entry.text = "Still waiting for "
        ++ (Resource.kind R ++ " " ++ Resource.id shown) ++ " to be deleted"

/-- **A log tells of a wait**: what it was shown, and how it ended. -/
structure IsToldBy (goal : Goal) (asked : List (Question R E)) (result : Except (WaitError R E) R)
    (log : List LogEntry) : Prop where
  /-- Each answer that left the wait open has a line, in the order of the answers, and no more than one
  line follows, about the result. -/
  log_eq : ∃ closing : Option LogEntry,
    log = (goal.leftOpen asked).map goal.opening ++ closing.toList
      ∧ ∀ entry ∈ closing, goal.closing? result = some entry
        ∧ (entry.level = .info ∨ entry.level = .warn)
  /-- The line of such an answer says what it showed. -/
  saysOpen : ∀ shown ∈ goal.leftOpen asked, goal.SaysOpen shown (goal.opening shown)
  /-- There is good news exactly if an answer brought success. -/
  info_iff : (∃ entry ∈ log, entry.level = .info) ↔ ∃ question ∈ asked, goal.IsMetBy question.answer
  /-- There is bad news exactly if the error is one that is warned of. -/
  warn_iff : (∃ entry ∈ log, entry.level = .warn) ↔ ∃ error, result = .error error ∧ error.IsWarnedOf
  /-- No line closes the log of a wait that did not ask, or whose error is not warned of. -/
  unclosed : (asked = [] ∨ ∃ error, result = .error error ∧ ¬ error.IsWarnedOf) →
    log = (goal.leftOpen asked).map goal.opening

/-- What is said about a pending representation says that it leaves the wait open. -/
theorem saysOpen_opening {goal : Goal} {shown : R} (pending : goal.Pending shown) :
    goal.SaysOpen shown (goal.opening shown) := by
  cases goal with
  | deletion => exact ⟨rfl, rfl⟩
  | status target failures =>
    obtain ⟨current, hcurrent, -⟩ := pending
    refine ⟨rfl, current, hcurrent, ?_⟩
    simp [opening, hcurrent, statusText, LogEntry.text, Notice.about]

/-- The lines of level `debug` are the openings. -/
theorem IsToldBy.filter_debug {goal : Goal} {asked : List (Question R E)}
    {result : Except (WaitError R E) R} {log : List LogEntry} (told : goal.IsToldBy asked result log) :
    (log.filter fun entry => entry.level = .debug) = (goal.leftOpen asked).map goal.opening := by
  obtain ⟨closing, rfl, hclosing⟩ := told.log_eq
  have hopening : ∀ entry ∈ (goal.leftOpen asked).map goal.opening,
      decide (entry.level = .debug) = true := by simp
  have hnews : ∀ entry ∈ closing.toList, ¬ decide (entry.level = .debug) = true := by
    intro entry hmem
    obtain ⟨-, hlevel | hlevel⟩ := hclosing entry (Option.mem_toList.mp hmem)
    all_goals
      rw [hlevel]
      exact Bool.noConfusion
  rw [List.filter_append, List.filter_eq_self.mpr hopening, List.filter_eq_nil_iff.mpr hnews,
    List.append_nil]

/-- Good and bad news come last. -/
theorem exists_mem_openings_append_iff {goal : Goal} {shown : List R} {closing : Option LogEntry}
    {level : Level} (h : level ≠ .debug) :
    (∃ entry ∈ shown.map goal.opening ++ closing.toList, entry.level = level)
      ↔ ∃ entry, closing = some entry ∧ entry.level = level := by
  constructor
  · rintro ⟨entry, hmem, hlevel⟩
    obtain hopening | hclosing := List.mem_append.mp hmem
    · obtain ⟨_, -, rfl⟩ := List.mem_map.mp hopening
      exact absurd (hlevel.symm.trans (level_opening goal _)) h
    · exact ⟨entry, Option.mem_toList.mp hclosing, hlevel⟩
  · rintro ⟨entry, rfl, hlevel⟩
    exact ⟨entry, by simp, hlevel⟩

/-- The log of a wait that has not asked tells of it: it is empty. -/
theorem isToldBy_nil (goal : Goal) {result : Except (WaitError R E) R}
    (h : ∀ error, result = .error error → ¬ error.IsWarnedOf) : goal.IsToldBy [] result [] where
  log_eq := ⟨none, rfl, by simp⟩
  saysOpen := by simp
  info_iff := by simp
  warn_iff := by
    simp only [List.not_mem_nil, false_and, exists_false, false_iff]
    rintro ⟨error, herror, hwarned⟩
    exact h error herror hwarned
  unclosed _ := rfl

/-- A log that is the openings for the answers and then the closing of the result tells of a wait that
has asked, and that ended well exactly if an answer brought success. -/
theorem isToldBy_of_log_eq {goal : Goal} {asked : List (Question R E)}
    {result : Except (WaitError R E) R} {log : List LogEntry}
    (hlog : log = (goal.leftOpen asked).map goal.opening ++ (goal.closing? result).toList)
    (hasked : asked ≠ [])
    (hmet : (∃ last, result = .ok last) ↔ ∃ question ∈ asked, goal.IsMetBy question.answer) :
    goal.IsToldBy asked result log where
  log_eq := by
    refine ⟨_, hlog, fun entry hentry => ⟨hentry, ?_⟩⟩
    obtain ⟨-, hlevel⟩ | ⟨-, hlevel⟩ := level_of_closing? hentry
    · exact .inl hlevel
    · exact .inr hlevel
  saysOpen shown hmem := saysOpen_opening (by simpa using (List.mem_filter.mp hmem).2)
  info_iff := by
    rw [← hmet, hlog, exists_mem_openings_append_iff Level.noConfusion]
    constructor
    · rintro ⟨entry, hentry, hlevel⟩
      obtain ⟨hok, -⟩ | ⟨-, hwarn⟩ := level_of_closing? hentry
      · exact hok
      · exact Level.noConfusion (hlevel.symm.trans hwarn)
    · rintro ⟨last, rfl⟩
      exact ⟨_, rfl, by cases goal <;> rfl⟩
  warn_iff := by
    rw [hlog, exists_mem_openings_append_iff Level.noConfusion]
    constructor
    · rintro ⟨entry, hentry, hlevel⟩
      obtain ⟨-, hinfo⟩ | ⟨herror, -⟩ := level_of_closing? hentry
      · exact Level.noConfusion (hlevel.symm.trans hinfo)
      · exact herror
    · rintro ⟨error, rfl, hwarned⟩
      cases hclosing : goal.closing? (.error error) with
      | none =>
        obtain ⟨_, herror, hnot⟩ := closing?_eq_none_iff.mp hclosing
        cases herror
        exact absurd hwarned hnot
      | some entry =>
        obtain ⟨⟨_, hok⟩, -⟩ | ⟨-, hlevel⟩ := level_of_closing? hclosing
        · cases hok
        · exact ⟨entry, rfl, hlevel⟩
  unclosed h := by
    obtain hnone | hquiet := h
    · exact absurd hnone hasked
    · rw [hlog, closing?_eq_none_iff.mpr hquiet, Option.toList_none, List.append_nil]

end Goal

open Routine in
/-- **The log of a wait that begins now tells of it**. -/
theorem isToldBy_pollFromNow {source : Source S R E} {goal : Goal} {pace : Pace} {fuel : Nat}
    {resource : R} {clock : Clock} {s : S} {result : Except (WaitError R E) R} {later : Clock}
    (hresult : ((pollFromNow source goal pace fuel resource).execute clock s).result
      = some (result, later)) :
    goal.IsToldBy (questions ((pollFromNow source goal pace fuel resource).execute clock s).events)
      result (logged ((pollFromNow source goal pace fuel resource).execute clock s).events) := by
  have hlog := (course_pollFromNow source goal pace fuel resource clock s).logged_eq
  obtain ⟨earlier, last, hquestions, hearlier, hconcludes⟩ := concludes_pollFromNow hresult
  rw [hresult, Option.bind_some, hquestions] at hlog
  rw [hquestions]
  refine Goal.isToldBy_of_log_eq hlog (List.append_ne_nil_of_right_ne_nil _ (List.cons_ne_nil _ _)) ?_
  constructor
  · rintro ⟨reached, rfl⟩
    exact ⟨last, by simp, hconcludes.isMetBy⟩
  · rintro ⟨question, hmem, hmet⟩
    obtain ⟨_, reached, hverdict⟩ := Goal.verdict_of_isMetBy hmet question.handle
    obtain hbefore | hlast := List.mem_append.mp hmem
    · -- an answer before the last has left the wait open
      obtain ⟨shown, hanswer, pending⟩ := hearlier question hbefore
      obtain ⟨_, hopen⟩ := Goal.verdict_of_pending (E := E) pending question.handle
      rw [hanswer, hopen] at hverdict
      cases hverdict
    · obtain rfl := List.mem_singleton.mp hlast
      unfold Goal.Concludes at hconcludes
      rw [hverdict] at hconcludes
      exact ⟨reached, hconcludes⟩

open Routine in
/-- **The log of a wait for a deletion tells of it.** -/
theorem isToldBy_waitForDelete {source : Source S R E} {pace : Pace} {fuel : Nat} {resource : R}
    {clock : Clock} {s : S} {result : Except (WaitError R E) R} {later : Clock}
    (hresult : ((waitForDelete source pace fuel resource).execute clock s).result
      = some (result, later)) :
    Goal.deletion.IsToldBy
      (questions ((waitForDelete source pace fuel resource).execute clock s).events) result
      (logged ((waitForDelete source pace fuel resource).execute clock s).events) := by
  rw [waitForDelete_eq_pollFromNow] at hresult ⊢
  exact isToldBy_pollFromNow hresult

open Routine in
/-- The questions of a wait for a status are those its source is asked, if it is asked any. -/
theorem answers_waitForStatus (source : Source S R E) (target : String) (failures : List String)
    (pace : Pace) (fuel : Nat) (resource : R) (clock : Clock) (s : S) :
    let run := (waitForStatus source target failures pace fuel resource).execute clock s
    source.Answers s (questions run.events) run.source := by
  obtain ⟨result, hwait⟩ | hwait := waitForStatus_cases source target resource
  · rw [hwait]
    exact .nil s
  · rw [hwait]
    exact (course_pollFromNow source (.status target failures) pace fuel resource clock s).answers

open Routine in
/-- **The log of a wait for a status tells of it**, also where nothing had to be asked. -/
theorem isToldBy_waitForStatus {source : Source S R E} {target : String} {failures : List String}
    {pace : Pace} {fuel : Nat} {resource : R} {clock : Clock} {s : S}
    {result : Except (WaitError R E) R} {later : Clock}
    (hresult : ((waitForStatus source target failures pace fuel resource).execute clock s).result
      = some (result, later)) :
    (Goal.status target failures).IsToldBy
      (questions ((waitForStatus source target failures pace fuel resource).execute clock s).events)
      result
      (logged ((waitForStatus source target failures pace fuel resource).execute clock s).events) := by
  cases hstatus : Resource.status resource with
  | none =>
    rw [waitForStatus_eq_misuse hstatus, execute_pure] at hresult ⊢
    cases hresult
    refine Goal.isToldBy_nil _ fun error herror => ?_
    cases herror
    exact id
  | some status =>
    cases hagree : Status.agree status target with
    | true =>
      rw [waitForStatus_eq_pure hstatus hagree, execute_pure] at hresult ⊢
      cases hresult
      exact Goal.isToldBy_nil _ fun error herror => by cases herror
    | false =>
      rw [waitForStatus_eq_pollFromNow hstatus hagree] at hresult ⊢
      exact isToldBy_pollFromNow hresult

end ResourceWait
