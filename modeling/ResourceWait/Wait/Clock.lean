import ResourceWait.Duration

/-!
# Time and cancellation

A wait knows what time it is and, if it was given a token, since when that is cancelled, or from
which moment on it will be. Time passes only where something sleeps: a fetch that takes its time, or
the pause between two fetches, which lasts no longer than the longest sleep.

A token cuts a pause short. One cancelled already lets no pause begin, and one cancelled in the middle
ends the pause there; a cancellation at the very moment at which the pause would be over comes too
late for it.
-/

namespace ResourceWait

/-- **A token** that cancels the waits that hold it. -/
structure Token where
  /-- The moment of its cancellation, past or to come. -/
  since : Option Instant
deriving DecidableEq, Repr

namespace Token

/-- A token that nobody has cancelled. -/
def fresh : Token := ⟨none⟩

/-- A token that is cancelled by someone who sleeps for a while first. -/
def cancelledAfter (now : Instant) (d : Duration) : Token := ⟨some (now + d.slept.nanoseconds)⟩

/-- Whether a token is cancelled at a moment. -/
def isCancelled (token : Token) (now : Instant) : Bool :=
  match token.since with
  | some c => c ≤ now
  | none => false

/-- Cancels a token; it stays cancelled since the first time. -/
def cancel (token : Token) (now : Instant) : Token :=
  match token.since with
  | some c => ⟨some (min c now)⟩
  | none => ⟨some now⟩

/-- A token is cancelled once it was cancelled. -/
@[simp] theorem isCancelled_cancel (token : Token) (now : Instant) :
    (token.cancel now).isCancelled now = true := by
  obtain ⟨_ | c⟩ := token
  · exact decide_eq_true (Nat.le_refl now)
  · exact decide_eq_true (Nat.min_le_right c now)

end Token

/-- **A clock**: the time, and the token that the running wait holds. -/
structure Clock where
  /-- The time. -/
  now : Instant
  /-- The token, if there is one. -/
  token : Option Token
deriving DecidableEq, Repr

namespace Clock

/-- Lets time pass. -/
def advance (clock : Clock) (d : Duration) : Clock :=
  { clock with now := clock.now + d.nanoseconds }

/-- The moment at which a sleep ends that begins now, if it may take its time. -/
def wake (clock : Clock) (d : Duration) : Instant := clock.now + d.slept.nanoseconds

/-- Cancels the token, if there is one. -/
def cancel (clock : Clock) : Clock :=
  { clock with token := clock.token.map fun token => token.cancel clock.now }

/-- The moment before `wake` at which a pause that begins now is cut short, if it is. -/
def interruption? (clock : Clock) (wake : Instant) : Option Instant := do
  let token ← clock.token
  let since ← token.since
  if since ≤ clock.now then some clock.now else if since < wake then some since else none

/-- Without a token no pause is cut short. -/
@[simp] theorem interruption?_of_token_eq_none {clock : Clock} (h : clock.token = none)
    (wake : Instant) : clock.interruption? wake = none := by
  simp [interruption?, h]

/-- What cuts a pause short is a cancelled token. -/
theorem isCancelled_of_interruption? {clock : Clock} {wake moment : Instant}
    (h : clock.interruption? wake = some moment) :
    ∃ token, clock.token = some token ∧ token.isCancelled moment = true := by
  obtain ⟨now, _ | ⟨_ | since⟩⟩ := clock
  · cases h
  · cases h
  · refine ⟨⟨some since⟩, rfl, decide_eq_true ?_⟩
    simp only [interruption?, Option.bind_eq_bind, Option.bind_some] at h
    split at h
    · rwa [← Option.some.inj h]
    · split at h
      · exact Nat.le_of_eq (Option.some.inj h)
      · cases h

/-- A token that is cancelled already lets no pause begin. -/
theorem interruption?_of_isCancelled {token : Token} {now : Instant}
    (h : token.isCancelled now = true) (wake : Instant) :
    (⟨now, some token⟩ : Clock).interruption? wake = some now := by
  obtain ⟨_ | since⟩ := token
  · cases h
  · exact if_pos (of_decide_eq_true h)

/-- A pause is cut short where the token is cancelled before the sleep is over. -/
theorem since_of_interruption? {token : Token} {now wake moment : Instant}
    (h : (⟨now, some token⟩ : Clock).interruption? wake = some moment) :
    ∃ since, token.since = some since ∧ (since ≤ now ∨ since < wake) := by
  obtain ⟨_ | since⟩ := token
  · cases h
  · refine ⟨since, rfl, ?_⟩
    simp only [interruption?, Option.bind_eq_bind, Option.bind_some] at h
    split at h
    · rename_i hnow
      exact .inl hnow
    · split at h
      · rename_i hwake
        exact .inr hwake
      · cases h

/-- A pause that is cut short ends where the token is cancelled, or where it begins if that has
happened already. -/
theorem eq_max_of_interruption? {token : Token} {now wake moment : Instant}
    (h : (⟨now, some token⟩ : Clock).interruption? wake = some moment) :
    ∃ since, token.since = some since ∧ moment = max now since := by
  obtain ⟨_ | since⟩ := token
  · cases h
  · refine ⟨since, rfl, ?_⟩
    simp only [interruption?, Option.bind_eq_bind, Option.bind_some] at h
    split at h
    · rename_i hnow
      cases h
      exact (Nat.max_eq_left hnow).symm
    · rename_i hnow
      split at h
      · cases h
        exact (Nat.max_eq_right (Nat.le_of_not_le hnow)).symm
      · cases h

/-- A pause that is cut short ends no later than the sleep would. -/
theorem le_wake_of_interruption? {clock : Clock} {d : Duration} {moment : Instant}
    (h : clock.interruption? (clock.wake d) = some moment) : moment ≤ clock.wake d := by
  obtain ⟨now, _ | ⟨_ | since⟩⟩ := clock
  · cases h
  · cases h
  · simp only [interruption?, Option.bind_eq_bind, Option.bind_some] at h
    split at h
    · cases h
      exact Nat.le_add_right _ _
    · split at h
      · rename_i hwake
        cases h
        exact Nat.le_of_lt hwake
      · cases h

/-- A pause is slept to its end where the token is cancelled no earlier than that. -/
theorem le_since_of_interruption? {token : Token} {now wake since : Instant}
    (h : (⟨now, some token⟩ : Clock).interruption? wake = none) (hsince : token.since = some since) :
    now < since ∧ wake ≤ since := by
  simp only [interruption?, Option.bind_eq_bind, Option.bind_some, hsince] at h
  split at h
  · cases h
  · rename_i hnow
    split at h
    · cases h
    · rename_i hwake
      exact ⟨Nat.lt_of_not_le hnow, Nat.le_of_not_lt hwake⟩

end Clock

end ResourceWait
