import ResourceWait.Routine.Strand

/-!
# Strands side by side

Several strands on one source, started together. Whoever is due first asks first, and of those due at
the same moment the one that stands first in the list. A strand only ever waits for its own time, so
apart from the answers it gets it does not notice the others.
-/

namespace ResourceWait

namespace Strand

variable {S Ev α : Type}

/-- When a strand asks next, if it asks again. -/
def due? : Strand S Ev α → Option Instant
  | finish _ => none
  | halt => none
  | note _ rest => rest.due?
  | ask start _ _ => some start

/-- A strand up to and with its next question: what happens before that, the rest of the strand, and
the state of the source behind it. -/
def advance : Strand S Ev α → S → List Ev × Strand S Ev α × S
  | finish value, s => ([], finish value, s)
  | halt, s => ([], halt, s)
  | note event rest, s =>
    let (events, rest, s) := rest.advance s
    (event :: events, rest, s)
  | ask _ touch next, s => ([], next s, touch s)

/-- The index of the strand that is due first. -/
def first? (strands : List (Strand S Ev α)) : Option Nat :=
  go 0 none strands |>.map (·.2)
where
  /-- The earliest so far of the strands before an index, and of those from it on. -/
  go (index : Nat) (earliest : Option (Instant × Nat)) :
      List (Strand S Ev α) → Option (Instant × Nat)
    | [] => earliest
    | strand :: rest =>
      let earliest := match strand.due?, earliest with
        | some t, some (u, i) => if t < u then some (t, index) else some (u, i)
        | some t, none => some (t, index)
        | none, earliest => earliest
      go (index + 1) earliest rest

/-- One question of the strand at an index; its events bear the index. -/
def stepAt (index : Nat) (strands : List (Strand S Ev α)) (s : S) :
    List (Nat × Ev) × List (Strand S Ev α) × S :=
  match strands[index]? with
  | none => ([], strands, s)
  | some strand =>
    let (events, rest, s) := strand.advance s
    (events.map (index, ·), strands.set index rest, s)

/-- What happens in strands that ask no more, and their values. -/
def settle (strands : List (Strand S Ev α)) (s : S) : List (Nat × Ev) × List (Option α) :=
  let runs := strands.map (·.run s)
  ((runs.zipIdx.map fun (run, index) => run.events.map (index, ·)).flatten, runs.map (·.result))

/-- **Runs strands side by side**: the events of all with the index of their strand, the values that
they end with, and the state that the source is left in. `fuel` bounds the questions. -/
def interleave : (fuel : Nat) → List (Strand S Ev α) → S → List (Nat × Ev) × List (Option α) × S
  | 0, strands, s => ([], strands.map fun _ => none, s)
  | fuel + 1, strands, s =>
    match first? strands with
    | none =>
      let (events, results) := settle strands s
      (events, results, s)
    | some index =>
      let (events, strands, s) := stepAt index strands s
      let (later, results, s) := interleave fuel strands s
      (events ++ later, results, s)

end Strand

end ResourceWait
