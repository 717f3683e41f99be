import ResourceWait.Routine.Interleave

/-!
# Orders of strands

Strands side by side can take their steps in any order. One step is a note or a question, and an
`Interleaving` picks a strand for each, until all are over: nothing is said about who is due first,
so whatever decides on the order, it is one of these. The trace of an interleaving has every event
with the index of its strand.

`Strand.interleave` is one of the orders where its fuel suffices: it advances the strand that is due
first by one question, and in the end lets those that ask no more have their last events. That it
takes only steps that an interleaving may take is `Interleaving.of_advance`.
-/

namespace ResourceWait.Strand

variable {S Ev α : Type}

/-- **A step of a strand**: it notes something, or it asks the source. -/
inductive Step : Strand S Ev α → S → List Ev → Strand S Ev α → S → Prop
  /-- Something happens. -/
  | note (event : Ev) (rest : Strand S Ev α) (s : S) : Step (.note event rest) s [event] rest s
  /-- The source is asked. -/
  | ask (start : Instant) (touch : S → S) (next : S → Strand S Ev α) (s : S) :
    Step (.ask start touch next) s [] (next s) (touch s)

/-- A strand that is over, with what it ended with. -/
def stopped : Option α → Strand S Ev α
  | some value => finish value
  | none => halt

/-- **An order of strands**, from a state of the source on: the trace, what the strands end with, and
the state that they leave. -/
inductive Interleaving :
    List (Strand S Ev α) → S → List (Nat × Ev) → List (Option α) → S → Prop
  /-- All are over. -/
  | finished (results : List (Option α)) (s : S) : Interleaving (results.map stopped) s [] results s
  /-- One of them takes a step, and then they go on in some order. -/
  | step {strands : List (Strand S Ev α)} {s s' last : S} {index : Nat} {strand next : Strand S Ev α}
      {events : List Ev} {trace : List (Nat × Ev)} {results : List (Option α)}
      (found : strands[index]? = some strand) (moves : Step strand s events next s')
      (others : Interleaving (strands.set index next) s' trace results last) :
    Interleaving strands s (events.map (index, ·) ++ trace) results last

/-- The events of one strand in a trace. -/
def eventsAt (index : Nat) (trace : List (Nat × Ev)) : List Ev :=
  trace.filterMap fun entry => if entry.1 = index then some entry.2 else none

@[simp] theorem eventsAt_nil (index : Nat) : eventsAt index ([] : List (Nat × Ev)) = [] := rfl

/-- The events of the strand itself. -/
theorem eventsAt_self (index : Nat) (events : List Ev) (trace : List (Nat × Ev)) :
    eventsAt index (events.map (index, ·) ++ trace) = events ++ eventsAt index trace := by
  unfold eventsAt
  induction events with
  | nil => rfl
  | cons event rest ih => simp [ih]

/-- The events of another strand do not count. -/
theorem eventsAt_of_ne {index other : Nat} (h : other ≠ index) (events : List Ev)
    (trace : List (Nat × Ev)) :
    eventsAt index (events.map (other, ·) ++ trace) = eventsAt index trace := by
  unfold eventsAt
  induction events with
  | nil => rfl
  | cons event rest ih => simp [h, ih]

/-! ### Who is due -/

/-- A strand that does not ask any more runs to its end when it is advanced. -/
theorem advance_of_due?_eq_none {strand : Strand S Ev α} (h : strand.due? = none) (s : S) :
    strand.advance s = ((strand.run s).events, stopped (strand.run s).result, s) := by
  induction strand with
  | finish value => rfl
  | halt => rfl
  | note event rest ih => rw [advance, run, ih h]
  | ask start touch next => cases h

/-- Where nobody is found to be due, nobody is. -/
theorem due?_eq_none_of_go {index : Nat} {earliest : Option (Instant × Nat)}
    {strands : List (Strand S Ev α)} (h : first?.go index earliest strands = none) :
    earliest = none ∧ ∀ strand ∈ strands, strand.due? = none := by
  induction strands generalizing index earliest with
  | nil => exact ⟨h, by simp⟩
  | cons strand rest ih =>
    obtain ⟨hnone, hrest⟩ := ih h
    split at hnone
    · split at hnone <;> cases hnone
    · cases hnone
    · exact ⟨hnone, List.forall_mem_cons.mpr ⟨‹_›, hrest⟩⟩

/-- Whoever is found to be due was so before, or is one of those that were looked at. -/
theorem due?_of_go {index : Nat} {earliest : Option (Instant × Nat)}
    {strands : List (Strand S Ev α)} {first : Instant × Nat}
    (h : first?.go index earliest strands = some first) :
    earliest = some first ∨ ∃ i strand, first.2 = index + i ∧ strands[i]? = some strand
      ∧ strand.due? = some first.1 := by
  induction strands generalizing index earliest with
  | nil => exact .inl h
  | cons strand rest ih =>
    obtain hearliest | ⟨i, other, hindex, hother, hdue⟩ := ih h
    · split at hearliest
      · split at hearliest
        · cases hearliest
          exact .inr ⟨0, strand, rfl, rfl, ‹_›⟩
        · exact .inl hearliest
      · cases hearliest
        exact .inr ⟨0, strand, rfl, rfl, ‹_›⟩
      · exact .inl hearliest
    · exact .inr ⟨i + 1, other, by rw [hindex, Nat.succ_add_eq_add_succ], hother, hdue⟩

/-- Where nobody is due first, nobody asks any more. -/
theorem due?_of_first?_eq_none {strands : List (Strand S Ev α)} (h : first? strands = none) :
    ∀ strand ∈ strands, strand.due? = none :=
  (due?_eq_none_of_go (Option.map_eq_none_iff.mp h)).2

/-- Who is due first is one of the strands, and asks. -/
theorem due?_of_first? {strands : List (Strand S Ev α)} {index : Nat}
    (h : first? strands = some index) :
    ∃ strand t, strands[index]? = some strand ∧ strand.due? = some t := by
  obtain ⟨first, hfirst, rfl⟩ := Option.map_eq_some_iff.mp h
  obtain hnone | ⟨i, strand, hi, hstrand, hdue⟩ := due?_of_go hfirst
  · cases hnone
  · rw [hi, Nat.zero_add]
    exact ⟨strand, first.1, hstrand, hdue⟩

/-! ### The order of `interleave` -/

/-- **To advance a strand** is to let it take steps. -/
theorem Interleaving.of_advance {strands : List (Strand S Ev α)} {index : Nat}
    {strand : Strand S Ev α} (found : strands[index]? = some strand) {s last : S}
    {trace : List (Nat × Ev)} {results : List (Option α)}
    (others : Interleaving (strands.set index (strand.advance s).2.1) (strand.advance s).2.2 trace
      results last) :
    Interleaving strands s ((strand.advance s).1.map (index, ·) ++ trace) results last := by
  obtain ⟨hindex, hget⟩ := List.getElem?_eq_some_iff.mp found
  induction strand generalizing strands with
  | finish value =>
    rwa [advance, ← hget, List.set_getElem_self] at others
  | halt =>
    rwa [advance, ← hget, List.set_getElem_self] at others
  | note event rest ih =>
    have hset : (strands.set index rest)[index]? = some rest := List.getElem?_set_self hindex
    show Interleaving strands s ([event].map (index, ·)
      ++ ((rest.advance s).1.map (index, ·) ++ trace)) results last
    refine .step found (.note event rest s) (ih hset ?_ ?_ ?_)
    · rwa [List.set_set]
    · simpa using hindex
    · simp
  | ask start touch next => exact .step found (.ask start touch next s) others

/-- To let a strand that asks no more run to its end is to let it take steps. -/
theorem Interleaving.of_run {strands : List (Strand S Ev α)} {index : Nat} {strand : Strand S Ev α}
    (found : strands[index]? = some strand) (h : strand.due? = none) {s last : S}
    {trace : List (Nat × Ev)} {results : List (Option α)}
    (others : Interleaving (strands.set index (stopped (strand.run s).result)) s trace results last) :
    Interleaving strands s ((strand.run s).events.map (index, ·) ++ trace) results last := by
  have hevents : (strand.advance s).1 = (strand.run s).events := by
    rw [advance_of_due?_eq_none h]
  rw [← hevents]
  refine .of_advance found ?_
  rwa [advance_of_due?_eq_none h]

/-- Strands that ask no more have their last events one after the other. -/
theorem Interleaving.of_due?_eq_none (before : List (Option α)) (strands : List (Strand S Ev α))
    (h : ∀ strand ∈ strands, strand.due? = none) (s : S) :
    Interleaving (before.map stopped ++ strands) s
      (((strands.map (·.run s)).zipIdx before.length).map
        fun (run, index) => run.events.map (index, ·)).flatten
      (before ++ strands.map fun strand => (strand.run s).result) s := by
  induction strands generalizing before with
  | nil => simpa using Interleaving.finished before s
  | cons strand rest ih =>
    obtain ⟨hstrand, hrest⟩ := List.forall_mem_cons.mp h
    have found : (before.map stopped ++ strand :: rest)[before.length]? = some strand := by simp
    refine .of_run found hstrand ?_
    simpa using ih (before ++ [(strand.run s).result]) hrest

/-- Strands of which nobody asks any more settle in one of their orders. -/
theorem interleaving_settle {strands : List (Strand S Ev α)}
    (h : ∀ strand ∈ strands, strand.due? = none) (s : S) :
    Interleaving strands s (settle strands s).1 (settle strands s).2 s := by
  have hsettle := Interleaving.of_due?_eq_none [] strands h s
  rw [settle, List.map_map]
  exact hsettle

end ResourceWait.Strand
