import ResourceWait.Proofs.Interleaving
import ResourceWait.Proofs.Transcript
import ResourceWait.Wait.Poll

/-!
# Callers of a source

A caller has no other way to a source than to ask it: `Strand.AsksOnly` says so of a strand. What it
asks next may hang on the replies that it got, and on nothing else. All that is done with routines is
of this kind, the waits included.

A question is put and replied to in one step. So when several callers share a source, their questions
come in one order overall, whatever order their steps are taken in, and the source answers them as if
one caller had asked them all: `Interleaving.exists_order`. The events of a trace do not show this
order, since a caller notes an answer some time after it has got it.
-/

namespace ResourceWait

namespace Strand

variable {S R E Ev α β : Type} {source : Source S R E}

/-- **A strand that only asks**: it moves the source by questions alone, and how it goes on depends on
the replies to them. -/
inductive AsksOnly (source : Source S R E) : Strand S Ev α → Prop
  /-- It is over. -/
  | finish (value : α) : AsksOnly source (.finish value)
  /-- It is not followed any further. -/
  | halt : AsksOnly source .halt
  /-- Something happens, and then it goes on. -/
  | note (event : Ev) {rest : Strand S Ev α} (goesOn : AsksOnly source rest) :
    AsksOnly source (.note event rest)
  /-- It asks with a handle, and then it goes on, whatever the reply is. -/
  | ask (handle : R) (now : Instant) {next : Reply R E → Strand S Ev α}
      (goesOn : ∀ reply, AsksOnly source (next reply)) :
    AsksOnly source
      (.ask now (source.touch handle now) fun s => next (source.reply handle now s))

/-- One strand and then another only ask if both do. -/
theorem AsksOnly.bind {x : Strand S Ev α} {f : α → Strand S Ev β} (hx : AsksOnly source x)
    (hf : ∀ a, AsksOnly source (f a)) : AsksOnly source (x.bind f) := by
  induction hx with
  | finish value => exact hf value
  | halt => exact .halt
  | note event _ ih => exact .note event ih
  | ask handle now _ ih => exact .ask handle now ih

/-- **What a strand does that only asks**: its questions, as they were replied to, its events and what
it ends with. The states that the replies come from are left open. -/
inductive Conducts (source : Source S R E) :
    Strand S Ev α → List (Question R E) → List Ev → Option α → Prop
  /-- It is over. -/
  | stopped (result : Option α) : Conducts source (stopped result) [] [] result
  /-- Something happens, and then the rest does. -/
  | note (event : Ev) {rest : Strand S Ev α} {asked : List (Question R E)} {events : List Ev}
      {result : Option α} (goesOn : Conducts source rest asked events result) :
    Conducts source (.note event rest) asked (event :: events) result
  /-- It asks with a handle, and goes on from the reply. -/
  | ask (handle : R) (now : Instant) (s : S) {next : Reply R E → Strand S Ev α}
      {asked : List (Question R E)} {events : List Ev} {result : Option α}
      (goesOn : Conducts source (next (source.reply handle now s)) asked events result) :
    Conducts source (.ask now (source.touch handle now) fun s => next (source.reply handle now s))
      (source.question handle now s :: asked) events result

/-- **One step of a strand that only asks** puts at most one question, and leaves a strand that only
asks. What that one does is the rest of what the strand does. -/
theorem AsksOnly.step {strand next : Strand S Ev α} {s s' : S} {events : List Ev}
    (moves : Step strand s events next s') (asksOnly : AsksOnly source strand) :
    AsksOnly source next ∧ ∃ asked : List (Question R E), source.Answers s asked s'
      ∧ ∀ {others : List (Question R E)} {later : List Ev} {result : Option α},
        Conducts source next others later result →
          Conducts source strand (asked ++ others) (events ++ later) result := by
  cases moves with
  | note event rest =>
    cases asksOnly with
    | note _ goesOn => exact ⟨goesOn, [], .nil s, fun rest => .note event rest⟩
  | ask start =>
    cases asksOnly with
    | ask handle _ goesOn =>
      exact ⟨goesOn _, [source.question handle start s], .cons handle start (.nil _),
        fun rest => .ask handle start s rest⟩

/-- **Callers ask in one order overall.** However the steps of callers are put together, their
questions are answered by the source as those of one caller would be, and each caller gets the answers
to its own. -/
theorem Interleaving.exists_order {callers : List (Strand S Ev α)} {s last : S}
    {trace : List (Nat × Ev)} {results : List (Option α)}
    (interleaving : Interleaving callers s trace results last)
    (asksOnly : ∀ caller ∈ callers, AsksOnly source caller) :
    ∃ order : List (Nat × Question R E), source.Answers s (order.map (·.2)) last
      ∧ (∀ entry ∈ order, entry.1 < callers.length)
      ∧ ∀ (i : Nat) caller, callers[i]? = some caller → ∃ result, results[i]? = some result
        ∧ Conducts source caller (eventsAt i order) (eventsAt i trace) result := by
  induction interleaving with
  | finished results s =>
    refine ⟨[], .nil s, by simp, fun i caller hcaller => ?_⟩
    rw [List.getElem?_map, Option.map_eq_some_iff] at hcaller
    obtain ⟨result, hresult, rfl⟩ := hcaller
    exact ⟨result, hresult, .stopped result⟩
  | @step callers s s' last index caller next events trace results found moves _ ih =>
    have hindex := (List.getElem?_eq_some_iff.mp found).1
    obtain ⟨hnext, asked, answers, hrest⟩ := (asksOnly caller (List.mem_of_getElem? found)).step moves
    obtain ⟨order, answers', hcallers, heach⟩ := ih fun other hmem =>
      (List.mem_or_eq_of_mem_set hmem).elim (asksOnly other) fun heq => heq ▸ hnext
    rw [List.length_set] at hcallers
    refine ⟨asked.map (index, ·) ++ order, ?_, fun entry hmem => ?_, fun i other hother => ?_⟩
    · rw [List.map_append, List.map_map]
      exact (List.map_id' asked).symm ▸ answers.append answers'
    · obtain hmem | hmem := List.mem_append.mp hmem
      · obtain ⟨question, -, rfl⟩ := List.mem_map.mp hmem
        exact hindex
      · exact hcallers entry hmem
    · by_cases hi : index = i
      · subst hi
        obtain rfl : caller = other := Option.some.inj (found.symm.trans hother)
        obtain ⟨result, hresult, conducts⟩ := heach index next (List.getElem?_set_self hindex)
        rw [eventsAt_self, eventsAt_self]
        exact ⟨result, hresult, hrest conducts⟩
      · rw [eventsAt_of_ne hi, eventsAt_of_ne hi]
        exact heach i other (by rwa [List.getElem?_set_ne hi])

end Strand

namespace Routine

variable {S R E α β : Type}

/-- **A routine that only asks** a source, from whatever clock it is run. -/
def AsksOnly (source : Source S R E) (routine : Routine S (Event R E) α) : Prop :=
  ∀ clock, Strand.AsksOnly source (routine clock)

namespace AsksOnly

variable {source : Source S R E}

/-! ### The operations of a routine -/

theorem pure (a : α) : AsksOnly source (Pure.pure a : Routine S (Event R E) α) := fun _ => .finish _

theorem halt : AsksOnly source (Routine.halt : Routine S (Event R E) α) := fun _ => .halt

theorem now : AsksOnly source (Routine.now : Routine S (Event R E) Instant) := fun _ => .finish _

theorem emit (event : Event R E) : AsksOnly source (Routine.emit event) :=
  fun _ => .note event (.finish _)

/-- **One routine after another only asks** if both do. -/
theorem bind {x : Routine S (Event R E) α} {f : α → Routine S (Event R E) β}
    (hx : AsksOnly source x) (hf : ∀ a, AsksOnly source (f a)) : AsksOnly source (x >>= f) :=
  fun clock => (hx clock).bind fun ended => hf ended.1 ended.2

theorem log (entries : List LogEntry) :
    AsksOnly source (Routine.log entries : Routine S (Event R E) Unit) := by
  induction entries with
  | nil => exact pure ()
  | cons entry rest ih => exact (emit (.log entry)).bind fun _ => ih

theorem fetch (handle : R) : AsksOnly source (Routine.fetch source handle) := by
  intro clock
  let next (reply : Reply R E) : Strand S (Event R E) (Except E (Observation R) × Clock) :=
    .note (.fetch handle clock.now (clockAfter clock reply).now reply.answer)
      (.finish (reply.answer, clockAfter clock reply))
  have goesOn : ∀ reply, Strand.AsksOnly source (next reply) := fun _ => .note _ (.finish _)
  exact .ask handle clock.now goesOn

theorem pause (interval : Duration) :
    AsksOnly source (Routine.pause interval : Routine S (Event R E) Bool) := by
  intro clock
  unfold Routine.pause
  dsimp only
  split
  · exact .note _ (.finish _)
  · split
    · exact .note _ (.finish _)
    · exact .finish _

/-- Asking nothing but questions is a matter of the pieces of a routine. -/
theorem isPiecewise (source : Source S R E) : IsPiecewise source fun _ => AsksOnly source where
  pure := pure
  halt := halt
  now := now
  log := log
  fetch := fetch
  pause := pause
  bind := bind

variable [Resource R]

/-- A wait for a deletion takes nothing but questions. -/
theorem waitForDelete (pace : Pace) (fuel : Nat) (resource : R) :
    AsksOnly source (Routine.waitForDelete source pace fuel resource) :=
  (isPiecewise source).waitForDelete pace fuel resource

end AsksOnly

end Routine

end ResourceWait
