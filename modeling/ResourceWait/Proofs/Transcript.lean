import ResourceWait.Routine.Basic

/-!
# Transcripts

The events of a run say what was asked and how long it was slept. This module reads them off: the
questions, each with its answer and the time it took, the pauses, and the log, all in order.

Two relations tie the questions together. `Source.Answers` says that they are the ones a source was
really asked, one after the other from a state on, and that the answers are its own – so a statement
about the questions of a run is one about the source. `Question.Chained` says that each was asked
with what the one before had shown.
-/

namespace ResourceWait

variable {S R E : Type}

/-- **A question put to a source**, and what became of it. -/
structure Question (R E : Type) where
  /-- The handle it was asked with. -/
  handle : R
  /-- When it was asked. -/
  start : Instant
  /-- When it was answered. -/
  stop : Instant
  /-- The answer. -/
  answer : Except E (Observation R)

namespace Question

/-- The event that a question leaves behind. -/
def event (question : Question R E) : Event R E :=
  .fetch question.handle question.start question.stop question.answer

/-- The question with its resources seen as others. -/
def map {R' : Type} (f : R → R') (question : Question R E) : Question R' E :=
  ⟨f question.handle, question.start, question.stop, question.answer.map fun
    | .found resource => .found (f resource)
    | .notFound => .notFound⟩

/-- What the answer showed, if it showed the resource. -/
def shown? (question : Question R E) : Option R :=
  match question.answer with
  | .ok (.found resource) => some resource
  | _ => none

/-- What a question showed is the representation that was found. -/
theorem shown?_eq_some_iff {question : Question R E} {shown : R} :
    question.shown? = some shown ↔ question.answer = .ok (.found shown) := by
  unfold shown?
  constructor
  · intro h
    split at h
    · rename_i hanswer
      cases h
      exact hanswer
    · cases h
  · intro h
    rw [h]

/-- **Each question is asked with what the one before it showed**, and the first with `handle`; so
one that did not show the resource is the last. -/
def Chained : (handle : R) → List (Question R E) → Prop
  | _, [] => True
  | handle, question :: rest =>
    question.handle = handle
      ∧ match question.shown? with
        | some resource => Chained resource rest
        | none => rest = []

/-- A question with none after it is chained, whatever it showed. -/
theorem chained_singleton (question : Question R E) :
    Chained question.handle [question] := by
  refine ⟨rfl, ?_⟩
  split
  · trivial
  · rfl

end Question

namespace Event

/-- The question of an event, if it is one. -/
def question? : Event R E → Option (Question R E)
  | fetch handle start stop answer => some ⟨handle, start, stop, answer⟩
  | _ => none

/-- The two ends of a pause, if an event is one. -/
def pause? : Event R E → Option (Instant × Instant)
  | pause start stop => some (start, stop)
  | _ => none

end Event

/-- **The questions of a transcript**, in order. -/
def questions (events : List (Event R E)) : List (Question R E) :=
  events.filterMap Event.question?

/-- **The pauses of a transcript**, in order. -/
def pauses (events : List (Event R E)) : List (Instant × Instant) :=
  events.filterMap Event.pause?

/-- **The log of a transcript**, in order. -/
def logged (events : List (Event R E)) : List LogEntry :=
  events.filterMap Event.log?

/-! ### Reading a transcript piece by piece -/

@[simp] theorem questions_nil : questions ([] : List (Event R E)) = [] := rfl

@[simp] theorem questions_append (before after : List (Event R E)) :
    questions (before ++ after) = questions before ++ questions after :=
  List.filterMap_append

@[simp] theorem questions_event (question : Question R E) (rest : List (Event R E)) :
    questions (question.event :: rest) = question :: questions rest := rfl

@[simp] theorem questions_pause (start stop : Instant) (rest : List (Event R E)) :
    questions (.pause start stop :: rest) = questions rest := rfl

@[simp] theorem questions_log (entry : LogEntry) (rest : List (Event R E)) :
    questions (.log entry :: rest) = questions rest := rfl

/-- The log asks nothing. -/
@[simp] theorem questions_map_log (entries : List LogEntry) :
    questions (entries.map .log : List (Event R E)) = [] := by
  induction entries with
  | nil => rfl
  | cons entry rest ih => rw [List.map_cons, questions_log, ih]

/-- Seeing resources as others asks the same questions about others. -/
theorem questions_map {R' : Type} (f : R → R') (events : List (Event R E)) :
    questions (events.map (Event.map f)) = (questions events).map (Question.map f) := by
  induction events with
  | nil => rfl
  | cons event rest ih =>
    cases event with
    | fetch => exact congrArg (List.cons _) ih
    | pause => exact ih
    | log => exact ih

/-- Seeing resources as others leaves the questions as many. -/
theorem length_questions_map {R' : Type} (f : R → R') (events : List (Event R E)) :
    (questions (events.map (Event.map f))).length = (questions events).length := by
  rw [questions_map, List.length_map]

@[simp] theorem pauses_nil : pauses ([] : List (Event R E)) = [] := rfl

@[simp] theorem pauses_append (before after : List (Event R E)) :
    pauses (before ++ after) = pauses before ++ pauses after :=
  List.filterMap_append

@[simp] theorem pauses_event (question : Question R E) (rest : List (Event R E)) :
    pauses (question.event :: rest) = pauses rest := rfl

@[simp] theorem pauses_pause (start stop : Instant) (rest : List (Event R E)) :
    pauses (.pause start stop :: rest) = (start, stop) :: pauses rest := rfl

@[simp] theorem pauses_log (entry : LogEntry) (rest : List (Event R E)) :
    pauses (.log entry :: rest) = pauses rest := rfl

/-- The log does not sleep. -/
@[simp] theorem pauses_map_log (entries : List LogEntry) :
    pauses (entries.map .log : List (Event R E)) = [] := by
  induction entries with
  | nil => rfl
  | cons entry rest ih => rw [List.map_cons, pauses_log, ih]

@[simp] theorem logged_nil : logged ([] : List (Event R E)) = [] := rfl

@[simp] theorem logged_append (before after : List (Event R E)) :
    logged (before ++ after) = logged before ++ logged after :=
  List.filterMap_append

@[simp] theorem logged_event (question : Question R E) (rest : List (Event R E)) :
    logged (question.event :: rest) = logged rest := rfl

@[simp] theorem logged_pause (start stop : Instant) (rest : List (Event R E)) :
    logged (.pause start stop :: rest) = logged rest := rfl

@[simp] theorem logged_log (entry : LogEntry) (rest : List (Event R E)) :
    logged (.log entry :: rest) = entry :: logged rest := rfl

/-- Entries of the log are read back as they were written. -/
@[simp] theorem logged_map_log (entries : List LogEntry) :
    logged (entries.map .log : List (Event R E)) = entries := by
  induction entries with
  | nil => rfl
  | cons entry rest ih => rw [List.map_cons, logged_log, ih]

/-! ### The questions of a source -/

namespace Source

/-- What a source replies to a handle at a moment. -/
def reply (source : Source S R E) (handle : R) (now : Instant) (s : S) : Reply R E :=
  (source.fetch handle now s).1

/-- The state that a question leaves a source in. -/
def touch (source : Source S R E) (handle : R) (now : Instant) (s : S) : S :=
  (source.fetch handle now s).2

/-- The question that is put to a source with a handle at a moment. -/
def question (source : Source S R E) (handle : R) (now : Instant) (s : S) : Question R E :=
  ⟨handle, now, now + (source.reply handle now s).delay.nanoseconds,
    (source.reply handle now s).answer⟩

/-- A source answers after it was asked. -/
theorem start_le_stop (source : Source S R E) (handle : R) (now : Instant) (s : S) :
    (source.question handle now s).start ≤ (source.question handle now s).stop :=
  Nat.le_add_right _ _

/-- **The source is asked these questions** one after the other, and gives these answers: it goes
from the first state to the last. -/
inductive Answers (source : Source S R E) : S → List (Question R E) → S → Prop
  /-- Without a question it stays as it is. -/
  | nil (s : S) : Answers source s [] s
  /-- One question, and then the others from the state that it leaves behind. -/
  | cons (handle : R) (now : Instant) {s last : S} {rest : List (Question R E)}
      (others : Answers source (source.touch handle now s) rest last) :
      Answers source s (source.question handle now s :: rest) last

/-- What is asked and then what is asked from there on is asked in all. -/
theorem Answers.append {source : Source S R E} {s between last : S}
    {asked others : List (Question R E)} (h : source.Answers s asked between)
    (h' : source.Answers between others last) : source.Answers s (asked ++ others) last := by
  induction h with
  | nil => exact h'
  | cons handle now _ ih => exact .cons handle now (ih h')

/-- A question is answered no earlier than it is asked. -/
theorem Answers.start_le_stop {source : Source S R E} {s last : S} {asked : List (Question R E)}
    (h : source.Answers s asked last) :
    ∀ question ∈ asked, question.start ≤ question.stop := by
  induction h with
  | nil => simp
  | cons handle now _ ih =>
    rintro question (_ | ⟨_, hmem⟩)
    · exact source.start_le_stop handle now _
    · exact ih question hmem

/-- **A source answers at once**, whatever it is asked. -/
def IsInstant (source : Source S R E) : Prop :=
  ∀ handle now s, (source.reply handle now s).delay = .zero

/-- A source that answers at once answers when it is asked. -/
theorem Answers.stop_eq_start {source : Source S R E} (instant : source.IsInstant) {s last : S}
    {asked : List (Question R E)} (h : source.Answers s asked last) :
    ∀ question ∈ asked, question.stop = question.start := by
  induction h with
  | nil => simp
  | cons handle now _ ih =>
    rintro question (_ | ⟨_, hmem⟩)
    · show now + (source.reply handle now _).delay.nanoseconds = now
      rw [instant handle now]
      rfl
    · exact ih question hmem

end Source

/-- The clock after a reply shows the moment at which the question was answered. -/
@[simp] theorem Routine.clockAfter_now (clock : Clock) (reply : Reply R E) :
    (Routine.clockAfter clock reply).now = clock.now + reply.delay.nanoseconds := by
  unfold Routine.clockAfter
  dsimp only
  split <;> rfl

end ResourceWait
