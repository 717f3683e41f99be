import ResourceWait.Routine.Strand
import ResourceWait.Source.Basic
import ResourceWait.Wait.Clock
import ResourceWait.Wait.Log

/-!
# Routines

A routine is a strand that knows the time: it starts with a clock and ends with one. It has three
things to do. It fetches, which asks the source and takes as long as the reply says; it pauses, which
a cancelled token cuts short; and it writes to its log. Each leaves an event behind, so the events of
a run are a transcript of it.
-/

namespace ResourceWait

/-- **An event of a routine.** -/
inductive Event (R E : Type) where
  /-- The source was asked with a handle at one moment and answered at another. -/
  | fetch (handle : R) (start stop : Instant) (answer : Except E (Observation R))
  /-- There was a pause from one moment to another. -/
  | pause (start stop : Instant)
  /-- The log got an entry. -/
  | log (entry : LogEntry)

namespace Event

variable {R R' E : Type}

/-- The moment and the handle of a fetch. -/
def fetch? : Event R E → Option (Instant × R)
  | fetch handle start _ _ => some (start, handle)
  | _ => none

/-- The entry of the log. -/
def log? : Event R E → Option LogEntry
  | log entry => some entry
  | _ => none

/-- The event with its resources seen as others. -/
def map (f : R → R') : Event R E → Event R' E
  | fetch handle start stop answer =>
    fetch (f handle) start stop (answer.map fun
      | .found resource => .found (f resource)
      | .notFound => .notFound)
  | pause start stop => pause start stop
  | log entry => log entry

end Event

/-- **A routine** over a source with states in `S`, with events in `Ev`. -/
abbrev Routine (S Ev : Type) := StateT Clock (Strand S Ev)

namespace Routine

variable {S Ev Ev' R E α β : Type}

/-- A routine that is not followed any further. -/
def halt : Routine S Ev α := fun _ => .halt

/-- The time. -/
def now : Routine S Ev Instant := fun clock => .finish (clock.now, clock)

/-- Leaves an event behind. -/
def emit (event : Ev) : Routine S Ev Unit := fun clock => .note event (.finish ((), clock))

/-- Writes entries to the log. -/
def log : List LogEntry → Routine S (Event R E) Unit
  | [] => pure ()
  | entry :: rest => do
    emit (.log entry)
    log rest

/-- The clock once a reply has come: its delay has passed, and it may have cancelled the token. -/
def clockAfter (clock : Clock) (reply : Reply R E) : Clock :=
  let later := clock.advance reply.delay
  if reply.cancels then later.cancel else later

/-- **Asks a source** and waits for its reply. -/
def fetch (source : Source S R E) (handle : R) :
    Routine S (Event R E) (Except E (Observation R)) := fun clock =>
  .ask clock.now (fun s => (source.fetch handle clock.now s).2) fun s =>
    let reply := (source.fetch handle clock.now s).1
    let after := clockAfter clock reply
    .note (.fetch handle clock.now after.now reply.answer) (.finish (reply.answer, after))

/-- **Sleeps for an interval**; whether that was not cancelled. A token that is cancelled already lets
no pause begin. -/
def pause (interval : Duration) : Routine S (Event R E) Bool := fun clock =>
  let wake := clock.wake interval
  match clock.interruption? wake with
  | none => .note (.pause clock.now wake) (.finish (true, { clock with now := wake }))
  | some moment =>
    let stopped := .finish (false, { clock with now := moment })
    if clock.now < moment then .note (.pause clock.now moment) stopped else stopped

/-- A routine whose events are read another way. -/
def mapEvents (f : Ev → Ev') (routine : Routine S Ev α) : Routine S Ev' α := fun clock =>
  (routine clock).mapNotes f

/-- **Runs a routine** from a clock, alone with a source. -/
def execute (routine : Routine S Ev α) (clock : Clock) (s : S) : Run S Ev (α × Clock) :=
  (routine clock).run s

/-! ### What the operations do when they are run -/

@[simp] theorem execute_pure (a : α) (clock : Clock) (s : S) :
    (pure a : Routine S Ev α).execute clock s = ⟨[], some (a, clock), s⟩ := rfl

@[simp] theorem execute_halt (clock : Clock) (s : S) :
    (halt : Routine S Ev α).execute clock s = ⟨[], none, s⟩ := rfl

@[simp] theorem execute_now (clock : Clock) (s : S) :
    (now : Routine S Ev Instant).execute clock s = ⟨[], some (clock.now, clock), s⟩ := rfl

@[simp] theorem execute_emit (event : Ev) (clock : Clock) (s : S) :
    (emit event).execute clock s = ⟨[event], some ((), clock), s⟩ := rfl

/-- One routine after another goes on from the clock and the state that the first leaves. -/
theorem execute_bind (x : Routine S Ev α) (f : α → Routine S Ev β) (clock : Clock) (s : S) :
    (x >>= f).execute clock s =
      match (x.execute clock s).result with
      | none => ⟨(x.execute clock s).events, none, (x.execute clock s).source⟩
      | some (a, later) =>
        let second := (f a).execute later (x.execute clock s).source
        { second with events := (x.execute clock s).events ++ second.events } := by
  change ((x clock).bind fun p => f p.1 p.2).run s = _
  rw [Strand.run_bind]
  unfold execute
  cases ((x clock).run s).result <;> rfl

@[simp] theorem execute_map (g : α → β) (x : Routine S Ev α) (clock : Clock) (s : S) :
    (g <$> x).execute clock s =
      { x.execute clock s with
        result := (x.execute clock s).result.map fun p => (g p.1, p.2) } := by
  rw [map_eq_pure_bind, execute_bind]
  rcases h : (x.execute clock s).result with _ | ⟨a, later⟩ <;> simp

/-- A routine whose events are read another way does what it did. -/
theorem execute_mapEvents (f : Ev → Ev') (x : Routine S Ev α) (clock : Clock) (s : S) :
    (x.mapEvents f).execute clock s =
      ⟨(x.execute clock s).events.map f, (x.execute clock s).result, (x.execute clock s).source⟩ :=
  Strand.run_mapNotes f (x clock) s

/-- A fetch leaves itself behind as the only event. -/
theorem execute_fetch (source : Source S R E) (handle : R) (clock : Clock) (s : S) :
    (fetch source handle).execute clock s =
      let reply := (source.fetch handle clock.now s).1
      ⟨[.fetch handle clock.now (clockAfter clock reply).now reply.answer],
        some (reply.answer, clockAfter clock reply), (source.fetch handle clock.now s).2⟩ := rfl

@[simp] theorem execute_log (entries : List LogEntry) (clock : Clock) (s : S) :
    (log entries : Routine S (Event R E) Unit).execute clock s =
      ⟨entries.map .log, some ((), clock), s⟩ := by
  induction entries with
  | nil => rfl
  | cons entry rest ih => simp [log, execute_bind, ih]

/-- A pause that nothing cuts short lasts until the sleep is over. -/
theorem execute_pause_of_interruption?_eq_none {interval : Duration} {clock : Clock}
    (h : clock.interruption? (clock.wake interval) = none) (s : S) :
    (pause interval : Routine S (Event R E) Bool).execute clock s =
      ⟨[.pause clock.now (clock.wake interval)],
        some (true, { clock with now := clock.wake interval }), s⟩ := by
  simp [execute, pause, h, Strand.run]

end Routine

end ResourceWait
