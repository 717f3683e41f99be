import ResourceWait.Proofs.Course
import ResourceWait.Resource.Probe

/-!
# What a token does to a wait

Nothing but cut it short. A wait that holds a token goes on exactly as it would without one, until
the first moment, once the token is cancelled, at which it sleeps or is about to. There it ends,
with what it was shown last; and a wait that never gets to such a moment does not notice the token
at all.

`cutAt` says what is left of a transcript that is cut this way, and the main statement compares two
runs: the one without the token, and the one with it. A token may be cancelled from outside, now or
later, or by the source while it answers; `Source.tokenAfter` follows it through the questions of
the run without it.

The two runs are compared pass by pass, and their clocks show the same time all along. What carries
the induction is what is known of the token: a cancellation by a question still to come cannot be
earlier than the end of the pause before it. The two can coincide, and then a pause of no length
would both precede the cancellation and begin at it; `Source.Untied` leaves that out.
-/

namespace ResourceWait

variable {S R E : Type}

/-! ### Cutting a transcript -/

/-- **What is left of a transcript** that was cut, and where. -/
structure Cut (R E : Type) where
  /-- What happened before. -/
  events : List (Event R E)
  /-- The moment of the cut. -/
  moment : Instant

/-- What is left if something happened before. -/
def Cut.behind (events : List (Event R E)) (cut : Cut R E) : Cut R E :=
  { cut with events := events ++ cut.events }

/-- Events before events before what is left. -/
theorem Cut.behind_behind (before after : List (Event R E)) :
    Cut.behind before ∘ Cut.behind after = Cut.behind (before ++ after) := by
  funext cut
  simp [behind]

/-- **A transcript is cut** by a cancellation at the first moment from `c` on at which there is a
pause or one is about to begin, if there is such a moment. -/
def cutAt (c : Instant) : List (Event R E) → Option (Cut R E)
  | [] => none
  | .pause start stop :: rest =>
    if c ≤ start then some ⟨[], start⟩
    else if c < stop then some ⟨[.pause start c], c⟩
    else (cutAt c rest).map (Cut.behind [.pause start stop])
  | event :: rest => (cutAt c rest).map (Cut.behind [event])

/-- What is no pause is left where it stands. -/
theorem cutAt_append_of_pauses_eq_nil (c : Instant) {before : List (Event R E)}
    (h : pauses before = []) (after : List (Event R E)) :
    cutAt c (before ++ after) = (cutAt c after).map (Cut.behind before) := by
  induction before with
  | nil =>
    show _ = Option.map id _
    rw [Option.map_id, List.nil_append]
    rfl
  | cons event rest ih =>
    cases event with
    | pause => exact absurd h (List.cons_ne_nil _ _)
    | fetch =>
      show (cutAt c (rest ++ after)).map _ = _
      rw [ih h, Option.map_map, Cut.behind_behind, List.singleton_append]
    | log =>
      show (cutAt c (rest ++ after)).map _ = _
      rw [ih h, Option.map_map, Cut.behind_behind, List.singleton_append]

/-- A transcript without a pause is not cut. -/
theorem cutAt_eq_none_of_pauses_eq_nil (c : Instant) {events : List (Event R E)}
    (h : pauses events = []) : cutAt c events = none := by
  rw [← List.append_nil events, cutAt_append_of_pauses_eq_nil c h]
  rfl

/-- In a transcript that is not cut, every pause is over in time. -/
theorem stop_le_of_cutAt_eq_none {c : Instant} {events : List (Event R E)}
    (h : cutAt c events = none) : ∀ pause ∈ pauses events, pause.2 ≤ c := by
  induction events with
  | nil => simp
  | cons event rest ih =>
    cases event with
    | fetch => exact ih (Option.map_eq_none_iff.mp h)
    | log => exact ih (Option.map_eq_none_iff.mp h)
    | pause start stop =>
      rw [cutAt] at h
      split at h
      · cases h
      · split at h
        · cases h
        · rename_i hstop
          rw [pauses_pause]
          rintro pause (_ | ⟨_, hmem⟩)
          · exact Nat.le_of_not_lt hstop
          · exact ih (Option.map_eq_none_iff.mp h) pause hmem

/-- What is left of a transcript that is cut sleeps no longer than to the cancellation. -/
theorem stop_le_of_cutAt_eq_some {c : Instant} {events : List (Event R E)} {cut : Cut R E}
    (h : cutAt c events = some cut) : ∀ pause ∈ pauses cut.events, pause.2 ≤ c := by
  induction events generalizing cut with
  | nil => cases h
  | cons event rest ih =>
    cases event with
    | fetch =>
      obtain ⟨cut, hrest, rfl⟩ := Option.map_eq_some_iff.mp h
      have hstop := ih hrest
      exact hstop
    | log =>
      obtain ⟨cut, hrest, rfl⟩ := Option.map_eq_some_iff.mp h
      have hstop := ih hrest
      exact hstop
    | pause start stop =>
      rw [cutAt] at h
      split at h
      · cases h
        simp
      · split at h
        · cases h
          simp
        · rename_i hstop
          obtain ⟨cut, hrest, rfl⟩ := Option.map_eq_some_iff.mp h
          rw [Cut.behind, List.singleton_append, pauses_pause]
          rintro pause (_ | ⟨_, hmem⟩)
          · exact Nat.le_of_not_lt hstop
          · exact ih hrest pause hmem

/-- A pause in which a cancellation falls is cut where the sleep that holds the token is cut. -/
theorem cutAt_pause_of_interruption? {token : Token} {now wake moment c : Instant}
    (hsince : token.since = some c)
    (h : (⟨now, some token⟩ : Clock).interruption? wake = some moment) (rest : List (Event R E)) :
    cutAt c (.pause now wake :: rest) = some ⟨slept now moment, moment⟩ := by
  simp only [Clock.interruption?, Option.bind_eq_bind, Option.bind_some, hsince] at h
  rw [cutAt, slept]
  split at h
  · rename_i hnow
    cases h
    rw [if_pos hnow, if_neg (Nat.lt_irrefl _)]
  · rename_i hnow
    split at h
    · rename_i hwake
      cases h
      rw [if_neg hnow, if_pos hwake, if_pos (Nat.lt_of_not_le hnow)]
    · cases h

/-- A pause that is over before the cancellation is left where it stands. -/
theorem cutAt_pause_of_lt {start stop c : Instant} (hstart : start < c) (hstop : stop ≤ c)
    (rest : List (Event R E)) :
    cutAt c (.pause start stop :: rest) = (cutAt c rest).map (Cut.behind [.pause start stop]) := by
  rw [cutAt, if_neg (Nat.not_le_of_lt hstart), if_neg (Nat.not_lt_of_le hstop)]

/-! ### Following a token -/

namespace Source

/-- A token once a question is answered. -/
def tokenPast (source : Source S R E) (token : Token) (s : S) (question : Question R E) : Token :=
  if (source.reply question.handle question.start s).cancels then token.cancel question.stop
  else token

/-- **A token once these questions are answered**, one after the other. -/
def tokenAfter (source : Source S R E) : Token → S → List (Question R E) → Token
  | token, _, [] => token
  | token, s, question :: rest =>
    source.tokenAfter (source.tokenPast token s question)
      (source.touch question.handle question.start s) rest

/-- An answer cancels a token when it comes, unless that is cancelled by then. -/
theorem since_tokenPast (source : Source S R E) (token : Token) (s : S) (question : Question R E) :
    (source.tokenPast token s question).since = token.since
      ∨ (source.tokenPast token s question).since = some question.stop
        ∧ ∀ d, token.since = some d → question.stop < d := by
  unfold tokenPast
  split
  · obtain ⟨_ | d⟩ := token
    · exact .inr ⟨rfl, fun _ h => nomatch h⟩
    · rcases Nat.lt_or_ge question.stop d with hlt | hge
      · refine .inr ⟨congrArg some (Nat.min_eq_right (Nat.le_of_lt hlt)), ?_⟩
        rintro _ ⟨⟩
        exact hlt
      · exact .inl (congrArg some (Nat.min_eq_left hge))
  · exact .inl rfl

/-- A token that is cancelled when a question is asked is cancelled when it is answered. -/
theorem isCancelled_tokenPast (source : Source S R E) (handle : R) {now : Instant} (s : S)
    {token : Token} (h : token.isCancelled now = true) :
    (source.tokenPast token s (source.question handle now s)).isCancelled
      (source.question handle now s).stop = true := by
  obtain ⟨_ | c⟩ := token
  · cases h
  · have hle : c ≤ (source.question handle now s).stop :=
      Nat.le_trans (of_decide_eq_true h) (source.start_le_stop handle now s)
    unfold Token.isCancelled
    obtain hpast | ⟨hpast, -⟩ := source.since_tokenPast ⟨some c⟩ s (source.question handle now s)
    · rw [hpast]
      exact decide_eq_true hle
    · rw [hpast]
      exact decide_eq_true (Nat.le_refl _)

/-- **Questions that are answered from `b` on cancel no token earlier**, and none that is cancelled
by then. -/
theorem since_tokenAfter (source : Source S R E) {b : Instant} {asked : List (Question R E)}
    (h : ∀ question ∈ asked, b ≤ question.stop) (token : Token) (s : S) :
    (source.tokenAfter token s asked).since = token.since
      ∨ ∃ c, (source.tokenAfter token s asked).since = some c ∧ b ≤ c
        ∧ ∀ d, token.since = some d → c < d := by
  induction asked generalizing token s with
  | nil => exact .inl rfl
  | cons question rest ih =>
    rw [tokenAfter]
    have hrest := ih (fun other hmem => h other (List.mem_cons_of_mem _ hmem))
      (source.tokenPast token s question) (source.touch question.handle question.start s)
    obtain hpast | ⟨hpast, hbefore⟩ := source.since_tokenPast token s question
    · rwa [hpast] at hrest
    · refine .inr ?_
      obtain hafter | ⟨c, hafter, hle, hlt⟩ := hrest
      · exact ⟨question.stop, hafter.trans hpast, h question List.mem_cons_self, hbefore⟩
      · exact ⟨c, hafter, hle, fun d hd => Nat.lt_trans (hlt _ hpast) (hbefore d hd)⟩

/-- Where all questions are answered from now on and the token is cancelled at `c` in the end, it is
cancelled now only if that has been before, and not yet only if it is still to come. At `c` itself it
may be either. -/
theorem cancelled_cases (source : Source S R E) {now : Instant} {asked : List (Question R E)}
    (h : ∀ question ∈ asked, now ≤ question.stop) {token : Token} {s : S} {c : Instant}
    (hc : (source.tokenAfter token s asked).since = some c) :
    (token.isCancelled now = true → c ≤ now) ∧ (token.isCancelled now = false → now ≤ c) := by
  obtain ⟨since⟩ := token
  obtain hafter | ⟨d, hafter, hle, hbefore⟩ := source.since_tokenAfter h ⟨since⟩ s
  · obtain rfl : since = some c := hafter.symm.trans hc
    refine ⟨fun hyes => of_decide_eq_true hyes, fun hno => ?_⟩
    exact Nat.le_of_not_le (of_decide_eq_false hno)
  · obtain rfl : d = c := Option.some.inj (hafter.symm.trans hc)
    refine ⟨fun hyes => ?_, fun _ => hle⟩
    cases since with
    | none => cases hyes
    | some d' => exact Nat.le_of_lt (Nat.lt_of_lt_of_le (hbefore d' rfl) (of_decide_eq_true hyes))

/-- A token that is cancelled stays so, whatever is asked. -/
theorem isCancelled_tokenAfter (source : Source S R E) {token : Token} {now later : Instant}
    (h : token.isCancelled now = true) (hle : now ≤ later) (s : S) (asked : List (Question R E)) :
    (source.tokenAfter token s asked).isCancelled later = true := by
  obtain ⟨_ | d⟩ := token
  · cases h
  · have hd : d ≤ later := Nat.le_trans (of_decide_eq_true h) hle
    unfold Token.isCancelled
    obtain hafter | ⟨c, hafter, -, hlt⟩ :=
      source.since_tokenAfter (fun question _ => Nat.zero_le question.stop) ⟨some d⟩ s
    · rw [hafter]
      exact decide_eq_true hd
    · rw [hafter]
      exact decide_eq_true (Nat.le_trans (Nat.le_of_lt (hlt d rfl)) hd)

/-- A token goes through some questions, and then through those that follow. -/
theorem Answers.tokenAfter_append {source : Source S R E} {s last : S} {asked : List (Question R E)}
    (answers : source.Answers s asked last) (token : Token) (others : List (Question R E)) :
    source.tokenAfter token s (asked ++ others)
      = source.tokenAfter (source.tokenAfter token s asked) last others := by
  induction answers generalizing token with
  | nil => rfl
  | cons handle now _ ih => exact ih _

/-- A token whose first cancellation counts in the end is not cancelled before by an answer. -/
theorem since_tokenPast_eq (source : Source S R E) {token : Token} {s : S} {question : Question R E}
    {rest : List (Question R E)} {c : Instant} (hsince : token.since = some c)
    (hafter : (source.tokenAfter token s (question :: rest)).since = some c) :
    (source.tokenPast token s question).since = some c := by
  obtain hpast | ⟨hpast, hbefore⟩ := source.since_tokenPast token s question
  · exact hpast.trans hsince
  · have hlt := hbefore c hsince
    rw [tokenAfter] at hafter
    obtain hrest | ⟨d, hrest, -, hearlier⟩ :=
      source.since_tokenAfter (fun other _ => Nat.zero_le other.stop)
        (source.tokenPast token s question) (source.touch question.handle question.start s)
    · rw [← hrest, hafter]
    · cases hafter.symm.trans hrest
      exact absurd (hearlier _ hpast) (Nat.lt_asymm hlt)

/-- A token that cuts a pause short is cancelled no earlier by the questions that would follow. -/
theorem since_tokenAfter_of_interruption? (source : Source S R E) {token : Token}
    {now wake moment : Instant} {asked : List (Question R E)} (hnow : now ≤ wake)
    (hlate : ∀ question ∈ asked, wake ≤ question.stop)
    (hcut : (⟨now, some token⟩ : Clock).interruption? wake = some moment) (s : S) :
    ∃ c, token.since = some c ∧ (source.tokenAfter token s asked).since = some c := by
  obtain ⟨c, hsince, hbefore⟩ := Clock.since_of_interruption? hcut
  refine ⟨c, hsince, ?_⟩
  obtain hafter | ⟨d, -, hle, hlt⟩ := source.since_tokenAfter hlate token s
  · exact hafter.trans hsince
  · have hwake : wake < c := Nat.lt_of_le_of_lt hle (hlt c hsince)
    rcases hbefore with hnow' | hwake'
    · exact absurd (Nat.le_trans hnow' hnow) (Nat.not_le_of_lt hwake)
    · exact absurd hwake' (Nat.lt_asymm hwake)

/-- A pause that a token cuts short ends by the cancellation, or where it was to begin, whatever is
asked once it has ended. -/
theorem eq_or_le_of_interruption? (source : Source S R E) {token : Token} {now wake moment : Instant}
    {asked : List (Question R E)} (hlate : ∀ question ∈ asked, moment ≤ question.stop)
    (hcut : (⟨now, some token⟩ : Clock).interruption? wake = some moment) {s : S} {c : Instant}
    (hc : (source.tokenAfter token s asked).since = some c) : moment = now ∨ moment ≤ c := by
  obtain ⟨since, hsince, hmax⟩ := Clock.eq_max_of_interruption? hcut
  obtain hafter | ⟨d, hafter, hle, -⟩ := source.since_tokenAfter hlate token s
  · obtain rfl : c = since := Option.some.inj (hc.symm.trans (hafter.trans hsince))
    rcases Nat.le_total c now with hle | hle
    · exact .inl (hmax.trans (Nat.max_eq_left hle))
    · exact .inr (Nat.le_of_eq (hmax.trans (Nat.max_eq_right hle)))
  · obtain rfl : c = d := Option.some.inj (hc.symm.trans hafter)
    exact .inr hle

/-- A pause that a token does not cut short is over before the cancellation. -/
theorem lt_since_tokenAfter (source : Source S R E) {token : Token} {now wake c : Instant}
    {asked : List (Question R E)} (hnow : now ≤ wake)
    (hlate : ∀ question ∈ asked, wake ≤ question.stop)
    (huncut : (⟨now, some token⟩ : Clock).interruption? wake = none) {s : S}
    (hc : (source.tokenAfter token s asked).since = some c)
    (hmoment : token.since = some c ∨ (c, c) ≠ (now, wake)) : now < c ∧ wake ≤ c := by
  obtain hafter | ⟨d, hafter, hle, hlt⟩ := source.since_tokenAfter hlate token s
  · exact Clock.le_since_of_interruption? huncut (hafter.symm.trans hc)
  · cases hafter.symm.trans hc
    refine ⟨Nat.lt_of_le_of_ne (Nat.le_trans hnow hle) ?_, hle⟩
    -- a question cancels the token where the pause ends, so the pause must have taken some time
    rintro rfl
    rcases hmoment with hsince | hne
    · exact absurd (hlt _ hsince) (Nat.lt_irrefl _)
    · exact hne (congrArg _ (Nat.le_antisymm hnow hle))

/-- **When a token is cancelled** that is held while these events happen, if it is. -/
def cancellation? (source : Source S R E) (token : Token) (s : S) (events : List (Event R E)) :
    Option Instant :=
  (source.tokenAfter token s (questions events)).since

/-- **A cancellation is told apart from the pauses**: unless it was settled beforehand, it is not at
a moment at which a pause of no length begins and ends. -/
def Untied (source : Source S R E) (token : Token) (s : S) (events : List (Event R E)) : Prop :=
  ∀ c, source.cancellation? token s events = some c →
    token.since = some c ∨ (c, c) ∉ pauses events

/-- What is told apart from all pauses is told apart from those after the first question. -/
theorem Untied.past {source : Source S R E} {token : Token} {s : S} {events : List (Event R E)}
    (h : source.Untied token s events) {question : Question R E} {rest : List (Question R E)}
    (hquestions : questions events = question :: rest) {c : Instant}
    (hc : (source.tokenAfter (source.tokenPast token s question)
      (source.touch question.handle question.start s) rest).since = some c) :
    (source.tokenPast token s question).since = some c ∨ (c, c) ∉ pauses events := by
  have hafter : source.cancellation? token s events = some c := by
    rw [cancellation?, hquestions]
    exact hc
  rcases h c hafter with hsince | hpauses
  · rw [cancellation?, hquestions] at hafter
    exact .inl (source.since_tokenPast_eq hsince hafter)
  · exact .inr hpauses

/-- The clock of a wait that holds a token, when its question is answered. -/
theorem later_some (source : Source S R E) (handle : R) (now : Instant) (token : Token) (s : S) :
    source.later handle ⟨now, some token⟩ s
      = ⟨(source.question handle now s).stop,
        some (source.tokenPast token s (source.question handle now s))⟩ := by
  show Routine.clockAfter _ (source.reply handle now s) = _
  unfold Routine.clockAfter tokenPast
  show _ = Clock.mk _ (some (if (source.reply handle now s).cancels then _ else _))
  split <;> rfl

/-- The clock of a wait without a token, when its question is answered. -/
theorem later_none (source : Source S R E) (handle : R) (now : Instant) (s : S) :
    source.later handle ⟨now, none⟩ s = ⟨(source.question handle now s).stop, none⟩ := by
  show Routine.clockAfter _ (source.reply handle now s) = _
  unfold Routine.clockAfter
  dsimp only
  split <;> rfl

end Source

/-! ### Comparing two runs -/

/-- What a run ended with, and when. -/
def Run.ended? (run : WaitRun S R E) : Option (Except (WaitError R E) R × Instant) :=
  run.result.map fun ended => (ended.1, ended.2.now)

/-- **Two runs that are the same**, whatever token their clocks hold. -/
structure Alike (free held : WaitRun S R E) : Prop where
  /-- The same happens, at the same time. -/
  events_eq : held.events = free.events
  /-- The source is left in the same state. -/
  source_eq : held.source = free.source
  /-- They end with the same, at the same time. -/
  ended_eq : held.ended? = free.ended?

/-- Events before two runs that are the same make no difference. -/
theorem Alike.behind {free held : WaitRun S R E} (alike : Alike free held)
    (events : List (Event R E)) : Alike (free.behind events) (held.behind events) :=
  ⟨congrArg (events ++ ·) alike.events_eq, alike.source_eq, alike.ended_eq⟩

variable [Resource R]

/-- **A run ends at a cut**: what happens is what is left, and then it is cancelled, with what its
last question showed. -/
def EndsAt (cut : Cut R E) (run : WaitRun S R E) : Prop :=
  run.events = cut.events
    ∧ ∃ newest, (questions cut.events).getLast?.bind Question.shown? = some newest
      ∧ run.ended? = some
        (.error (.cancelled (Resource.kind R) (Resource.id newest) newest), cut.moment)

/-- Events before a run that ends at a cut are left where they stand. -/
theorem EndsAt.behind {cut : Cut R E} {run : WaitRun S R E} (h : EndsAt cut run)
    (events : List (Event R E)) : EndsAt (cut.behind events) (run.behind events) := by
  obtain ⟨hevents, newest, hshown, hended⟩ := h
  refine ⟨congrArg (events ++ ·) hevents, newest, ?_, hended⟩
  obtain ⟨last, hlast, hnewest⟩ := Option.bind_eq_some_iff.mp hshown
  rw [Cut.behind, questions_append, List.getLast?_append, hlast]
  exact hnewest

/-- **A run is another one, cut short** by a cancellation – if there is one, and if it comes in
time. -/
def CutShort (since : Option Instant) (free held : WaitRun S R E) : Prop :=
  match since.bind fun c => cutAt c free.events with
  | some cut => EndsAt cut held
  | none => Alike free held

/-- A run without a pause is never cut short. -/
theorem cutShort_of_pauses_eq_nil {free held : WaitRun S R E} (h : pauses free.events = [])
    (alike : Alike free held) (since : Option Instant) : CutShort since free held := by
  have huncut : (since.bind fun c => cutAt c free.events) = none :=
    Option.bind_eq_none_iff.mpr fun c _ => cutAt_eq_none_of_pauses_eq_nil c h
  rw [CutShort, huncut]
  exact alike

/-- Events that the cancellation does not cut go before both runs. -/
theorem CutShort.behind {since : Option Instant} {free held : WaitRun S R E}
    (h : CutShort since free held) {events : List (Event R E)}
    (huncut : ∀ c, since = some c →
      cutAt c (events ++ free.events) = (cutAt c free.events).map (Cut.behind events)) :
    CutShort since (free.behind events) (held.behind events) := by
  unfold CutShort at h ⊢
  have hcut : (since.bind fun c => cutAt c (free.behind events).events)
      = (since.bind fun c => cutAt c free.events).map (Cut.behind events) := by
    cases since with
    | none => rfl
    | some c => exact huncut c rfl
  rw [hcut]
  cases hfree : since.bind fun c => cutAt c free.events with
  | none =>
    rw [hfree] at h
    exact h.behind events
  | some cut =>
    rw [hfree] at h
    exact h.behind events

namespace Course

open Routine

variable {source : Source S R E} {goal : Goal} {pace : Pace} {start : Instant} {fuel : Nat}
variable {handle : R} {now : Instant} {s : S} {free : WaitRun S R E}

/-- The questions of a course are answered after it begins. -/
theorem now_le_stop {clock : Clock}
    (course : Course source goal pace start fuel handle clock s free) :
    ∀ question ∈ questions free.events, clock.now ≤ question.stop := by
  intro question hmem
  calc clock.now ≤ question.start := (course.isSpent_eq_false question hmem).1
    _ ≤ question.stop := course.answers.start_le_stop question hmem

/-- **A wait holds its token** to the end, as its questions have left it. -/
theorem token_eq_some {clock : Clock} {token : Token}
    (course : Course source goal pace start fuel handle clock s free)
    (htoken : clock.token = some token) {result : Except (WaitError R E) R} {later : Clock}
    (hresult : free.result = some (result, later)) :
    later.token = some (source.tokenAfter token s (questions free.events)) := by
  induction course generalizing token with
  | unfollowed => cases hresult
  | timedOut =>
    cases hresult
    exact htoken
  | @settled _ handle clock s =>
    obtain ⟨now, _⟩ := clock
    cases htoken
    cases hresult
    rw [source.later_some, questions_event, questions_map_log]
    rfl
  | @cancelled _ handle newer clock s =>
    obtain ⟨now, _⟩ := clock
    cases htoken
    cases hresult
    rw [source.later_some, questions_event, questions_append, questions_map_log, questions_slept]
    rfl
  | @again _ handle newer clock s _ _ _ _ _ _ ih =>
    obtain ⟨now, _⟩ := clock
    cases htoken
    rw [questions_behind]
    exact ih (by rw [source.later_some]) hresult

/-- A pass that leaves the wait open is cut short in its pause, or the rest of the wait is. -/
theorem cutShort_again {newer : R} {entries : List LogEntry} {wake : Instant}
    (hwake : wake = (source.question handle now s).stop + pace.interval.slept.nanoseconds)
    (unspent : pace.isSpent (now - start) = false)
    (verdict : goal.verdict handle (source.question handle now s).answer
      = .unsettled entries newer)
    (hlate : ∀ question ∈ questions free.events, wake ≤ question.stop)
    (ih : ∀ token, source.Untied token (source.touch handle now s) free.events →
      CutShort (source.cancellation? token (source.touch handle now s) free.events) free
        ((poll source goal pace start fuel newer).execute ⟨wake, some token⟩
          (source.touch handle now s)))
    (token : Token) :
    let whole := free.behind ((source.question handle now s).event
      :: (entries.map .log ++ [.pause (source.question handle now s).stop wake]))
    source.Untied token s whole.events →
      CutShort (source.cancellation? token s whole.events) whole
        ((poll source goal pace start (fuel + 1) handle).execute ⟨now, some token⟩ s) := by
  intro whole huntied
  have hslept : (source.question handle now s).stop ≤ wake := hwake ▸ Nat.le_add_right _ _
  have hquestions : questions whole.events
      = source.question handle now s :: questions free.events := questions_behind ..
  have hpauses : pauses whole.events
      = ((source.question handle now s).stop, wake) :: pauses free.events := pauses_behind ..
  have hevents : ∀ c, cutAt c whole.events
      = (cutAt c (.pause (source.question handle now s).stop wake :: free.events)).map
        (Cut.behind ((source.question handle now s).event :: entries.map .log)) := by
    intro c
    rw [← cutAt_append_of_pauses_eq_nil c (by simp)]
    simp [whole, Run.behind]
  have hafter : source.cancellation? token s whole.events
      = source.cancellation? (source.tokenPast token s (source.question handle now s))
        (source.touch handle now s) free.events := by
    rw [Source.cancellation?, hquestions]
    rfl
  have hnext : (source.later handle ⟨now, some token⟩ s).wake pace.interval = wake := by
    rw [source.later_some, hwake]
    rfl
  rw [hafter]
  cases hcut : (source.later handle ⟨now, some token⟩ s).interruption? wake with
  | some moment =>
    -- the token is cancelled in this pause, and so before any question that would have followed
    have held : Course source goal pace start (fuel + 1) handle ⟨now, some token⟩ s _ :=
      .cancelled unspent verdict (by rw [hnext]; exact hcut)
    rw [held.execute_eq]
    rw [source.later_some] at hcut ⊢
    obtain ⟨c, hsince, hc⟩ :=
      source.since_tokenAfter_of_interruption? hslept hlate hcut (source.touch handle now s)
    have hshown := (Goal.pending_of_verdict verdict).1
    rw [CutShort, Source.cancellation?, hc, Option.bind_some, hevents,
      cutAt_pause_of_interruption? hsince hcut]
    refine ⟨rfl, newer, ?_, rfl⟩
    simp [Cut.behind, Question.shown?, hshown]
  | none =>
    have rest := course_execute source goal pace start fuel newer
      ⟨wake, (source.later handle ⟨now, some token⟩ s).token⟩ (source.touch handle now s)
    have held : Course source goal pace start (fuel + 1) handle ⟨now, some token⟩ s _ :=
      .again unspent verdict (by rw [hnext]; exact hcut) (by rw [hnext]; exact rest)
    rw [held.execute_eq, hnext]
    rw [source.later_some] at hcut ⊢
    refine CutShort.behind (ih _ fun c hc => ?_) fun c hc => ?_
    · refine (huntied.past hquestions hc).imp_right fun h hmem => h ?_
      rw [hpauses]
      exact List.mem_cons_of_mem _ hmem
    · have hmoment : (source.tokenPast token s (source.question handle now s)).since = some c
          ∨ (c, c) ≠ ((source.question handle now s).stop, wake) := by
        refine (huntied.past hquestions hc).imp_right fun h heq => h ?_
        rw [hpauses, heq]
        exact List.mem_cons_self
      obtain ⟨hstop, hle⟩ := source.lt_since_tokenAfter hslept hlate hcut hc hmoment
      have huncut := hevents c
      rw [cutAt_pause_of_lt hstop hle, Option.map_map, Cut.behind_behind] at huncut
      exact huncut

/-- **A token cuts a wait short**, and does nothing else. The moment of its cancellation is known
from the run without it. -/
theorem cutShort {clock : Clock}
    (course : Course source goal pace start fuel handle clock s free) (hfree : clock.token = none)
    (token : Token) (huntied : source.Untied token s free.events) :
    CutShort (source.cancellation? token s free.events) free
      ((poll source goal pace start fuel handle).execute ⟨clock.now, some token⟩ s) := by
  induction course generalizing token with
  | unfollowed =>
    refine cutShort_of_pauses_eq_nil ?_ ?_ _
    · rfl
    · exact ⟨rfl, rfl, rfl⟩
  | @timedOut fuel handle clock s spent =>
    have held : Course source goal pace start (fuel + 1) handle ⟨clock.now, some token⟩ s _ :=
      .timedOut spent
    rw [held.execute_eq]
    refine cutShort_of_pauses_eq_nil ?_ ?_ _
    · rfl
    · exact ⟨rfl, rfl, rfl⟩
  | @settled fuel handle clock s entries result unspent verdict =>
    have held : Course source goal pace start (fuel + 1) handle ⟨clock.now, some token⟩ s _ :=
      .settled unspent verdict
    rw [held.execute_eq]
    refine cutShort_of_pauses_eq_nil ?_ ?_ _
    · simp
    · refine ⟨rfl, rfl, ?_⟩
      simp [Run.ended?]
  | @cancelled fuel handle newer clock s entries moment unspent verdict cut =>
    -- a clock without a token cuts nothing short
    obtain ⟨now, _⟩ := clock
    cases hfree
    rw [source.later_none] at cut
    cases cut
  | @again fuel handle newer clock s entries free unspent verdict _ rest ih =>
    obtain ⟨now, _⟩ := clock
    cases hfree
    have hlate := rest.now_le_stop
    simp only [source.later_none] at huntied hlate ih ⊢
    exact cutShort_again rfl unspent verdict hlate (ih trivial) token huntied

/-- **A token that is cancelled already** lets one question be asked, and no pause begin. -/
theorem questions_of_isCancelled {token : Token}
    (course : Course source goal pace start (fuel + 1) handle ⟨now, some token⟩ s free)
    (unspent : pace.isSpent (now - start) = false) (h : token.isCancelled now = true) :
    questions free.events = [source.question handle now s] ∧ pauses free.events = [] := by
  have hcut := Clock.interruption?_of_isCancelled (source.isCancelled_tokenPast handle s h)
    ((source.question handle now s).stop + pace.interval.slept.nanoseconds)
  cases course with
  | timedOut spent =>
    rw [unspent] at spent
    cases spent
  | settled => simp
  | cancelled _ _ cut =>
    rw [source.later_some] at cut
    cases cut.symm.trans hcut
    simp [source.later_some]
  | again _ _ uncut =>
    rw [source.later_some] at uncut
    cases uncut.symm.trans hcut

end Course

/-- **A token does nothing but cut a run short**: `free` is the run without it, and `held` the run
that begins with it, where the wait asks with `resource` first. -/
structure OnlyCutShort (source : Source S R E) (fuel : Nat) (resource : R) (now : Instant) (s : S)
    (token : Token) (free held : WaitRun S R E) : Prop where
  /-- A token that is never cancelled makes no difference. -/
  uncancelled : source.cancellation? token s free.events = none → Alike free held
  /-- One that is cancelled at `c` cuts the run there, or at the first pause after it, and makes no
  difference if there is none. -/
  cut : source.Untied token s free.events →
    ∀ c, source.cancellation? token s free.events = some c →
      (∀ cut, cutAt c free.events = some cut → EndsAt cut held)
        ∧ (cutAt c free.events = none → Alike free held)
  /-- The cancellation is noticed at once: nothing is slept after it, and only the first question
  can be asked after it. -/
  prompt : source.Untied token s free.events →
    ∀ c, source.cancellation? token s free.events = some c →
      (∀ pause ∈ pauses held.events, pause.2 ≤ c)
        ∧ ∀ question ∈ (questions held.events).tail, question.start ≤ c
  /-- A token that is cancelled already lets one question be asked, and no pause begin. -/
  already : token.isCancelled now = true → 0 < fuel →
    questions held.events = [source.question resource now s] ∧ pauses held.events = []

/-- What is left of a run that is cut short sleeps no longer than to the cancellation. -/
theorem CutShort.stop_le {c : Instant} {free held : WaitRun S R E}
    (h : CutShort (some c) free held) : ∀ pause ∈ pauses held.events, pause.2 ≤ c := by
  rw [CutShort, Option.bind_some] at h
  cases hcut : cutAt c free.events with
  | none =>
    rw [hcut] at h
    rw [h.events_eq]
    exact stop_le_of_cutAt_eq_none hcut
  | some cut =>
    rw [hcut] at h
    rw [h.1]
    exact stop_le_of_cutAt_eq_some hcut

/-- A token does nothing but cut short a wait that begins now. -/
theorem onlyCutShort_pollFromNow (source : Source S R E) (goal : Goal) (pace : Pace) (fuel : Nat)
    (resource : R) (now : Instant) (s : S) (token : Token) :
    OnlyCutShort source fuel resource now s token
      ((Routine.pollFromNow source goal pace fuel resource).execute ⟨now, none⟩ s)
      ((Routine.pollFromNow source goal pace fuel resource).execute ⟨now, some token⟩ s) := by
  have free := course_pollFromNow source goal pace fuel resource ⟨now, none⟩ s
  have held := course_pollFromNow source goal pace fuel resource ⟨now, some token⟩ s
  have hshort := free.cutShort rfl token
  rw [held.execute_eq] at hshort
  refine ⟨fun hnever => ?_, fun huntied c hc => ?_, fun huntied c hc => ?_, fun h hfuel => ?_⟩
  · have h := hshort fun c hc => nomatch hnever.symm.trans hc
    rw [CutShort, hnever] at h
    exact h
  · have h := hshort huntied
    rw [CutShort, hc, Option.bind_some] at h
    refine ⟨fun cut hcut => ?_, fun hcut => ?_⟩
    · rw [hcut] at h
      exact h
    · rw [hcut] at h
      exact h
  · have h := hshort huntied
    rw [hc] at h
    refine ⟨h.stop_le, fun question hmem => ?_⟩
    obtain ⟨pause, hpause, hstop⟩ := held.asked_after_pause question hmem
    exact hstop ▸ h.stop_le pause hpause
  · obtain ⟨fuel, rfl⟩ := Nat.exists_eq_add_of_lt hfuel
    exact held.questions_of_isCancelled (by simp) h

open Routine in
/-- **A token does nothing but cut waits short.** A wait for a status that takes no question does
not notice it. Any other wait for a status and every wait for a deletion goes on as without it, up
to the first moment after its cancellation at which there is or begins a pause. -/
theorem waits_onlyCutShort (source : Source S R E) (target : String) (failures : List String)
    (pace : Pace) (fuel : Nat) (resource : R) (now : Instant) (s : S) (token : Token) :
    ((∀ status, Resource.status resource = some status → Status.agree status target = true) →
      let free := (waitForStatus source target failures pace fuel resource).execute ⟨now, none⟩ s
      free.events = [] ∧ Alike free
        ((waitForStatus source target failures pace fuel resource).execute ⟨now, some token⟩ s))
    ∧ (∀ status, Resource.status resource = some status → Status.agree status target = false →
      OnlyCutShort source fuel resource now s token
        ((waitForStatus source target failures pace fuel resource).execute ⟨now, none⟩ s)
        ((waitForStatus source target failures pace fuel resource).execute ⟨now, some token⟩ s))
    ∧ OnlyCutShort source fuel resource now s token
        ((waitForDelete source pace fuel resource).execute ⟨now, none⟩ s)
        ((waitForDelete source pace fuel resource).execute ⟨now, some token⟩ s) := by
  refine ⟨fun hsilent => ?_, fun status hstatus hagree => ?_, ?_⟩
  · cases hstatus : Resource.status resource with
    | none =>
      rw [waitForStatus_eq_misuse hstatus]
      exact ⟨rfl, rfl, rfl, rfl⟩
    | some status =>
      rw [waitForStatus_eq_pure hstatus (hsilent status hstatus)]
      exact ⟨rfl, rfl, rfl, rfl⟩
  · rw [waitForStatus_eq_pollFromNow hstatus hagree]
    exact onlyCutShort_pollFromNow ..
  · rw [waitForDelete_eq_pollFromNow]
    exact onlyCutShort_pollFromNow ..

open Routine in
/-- A token that is cancelled in the middle of the first pause ends the wait there. -/
theorem waits_onlyCutShort_pause :
    let source : Source Unit Probe FetchError :=
      ⟨fun handle _ s => ({ answer := .ok (.found handle), delay := .ofSeconds 3 }, s)⟩
    let run := fun token? => (waitForDelete source {} 2 ⟨"p", none⟩).execute ⟨0, token?⟩ ()
    let token : Token := ⟨some 4000000000⟩
    OnlyCutShort source 2 ⟨"p", none⟩ 0 () token (run none) (run (some token))
      ∧ (run (some token)).result
        = some (.error (.cancelled "probe" "p" ⟨"p", none⟩), ⟨4000000000, some token⟩) := by
  refine ⟨?_, ?_⟩
  · exact (waits_onlyCutShort _ "ACTIVE" [] {} 2 _ 0 () _).2.2
  · rfl

end ResourceWait
