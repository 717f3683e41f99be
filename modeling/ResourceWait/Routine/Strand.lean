import ResourceWait.Duration

/-!
# Strands

A strand is what one caller does with a source that it may share with others, spelled out as a tree:
it asks, and how it goes on depends on the state that the source was in. Between two questions it
notes what happens. A strand says when it asks, so that strands can be interleaved, and it ends with
a value or halts without one, where it was not followed any further.

`Strand.run` has one strand alone with a source. `Strand.run_bind` says that a strand followed by
another runs as the one and then, from the state this leaves, the other, with the notes of both in
order.
-/

namespace ResourceWait

/-- **A strand** over a source with states in `S`, with notes in `Ev`, that ends with a value in
`α`. -/
inductive Strand (S Ev α : Type) where
  /-- The end. -/
  | finish (value : α)
  /-- As far as the strand was followed. -/
  | halt
  /-- Something happens, and then the rest does. -/
  | note (event : Ev) (rest : Strand S Ev α)
  /-- The source is asked: it moves by `touch`, and the strand goes on by `next`, both from the state
  that the source was in. -/
  | ask (start : Instant) (touch : S → S) (next : S → Strand S Ev α)

/-- **What came of running a strand.** -/
structure Run (S Ev α : Type) where
  /-- What happened, in order. -/
  events : List Ev
  /-- The value that the strand ended with, if it ended. -/
  result : Option α
  /-- The state that the source was left in. -/
  source : S

namespace Strand

variable {S Ev Ev' α β γ : Type}

/-- One strand and then another. -/
def bind : Strand S Ev α → (α → Strand S Ev β) → Strand S Ev β
  | finish value, f => f value
  | halt, _ => halt
  | note event rest, f => note event (rest.bind f)
  | ask start touch next, f => ask start touch fun s => (next s).bind f

instance : Monad (Strand S Ev) where
  pure := finish
  bind := bind

@[simp] theorem pure_eq (a : α) : (pure a : Strand S Ev α) = finish a := rfl

@[simp] theorem bind_eq (x : Strand S Ev α) (f : α → Strand S Ev β) : x >>= f = x.bind f := rfl

@[simp] theorem finish_bind (a : α) (f : α → Strand S Ev β) : (finish a).bind f = f a := rfl

@[simp] theorem halt_bind (f : α → Strand S Ev β) : (halt : Strand S Ev α).bind f = halt := rfl

@[simp] theorem note_bind (e : Ev) (x : Strand S Ev α) (f : α → Strand S Ev β) :
    (note e x).bind f = note e (x.bind f) := rfl

@[simp] theorem ask_bind (t : Instant) (touch : S → S) (next : S → Strand S Ev α)
    (f : α → Strand S Ev β) : (ask t touch next).bind f = ask t touch fun s => (next s).bind f :=
  rfl

/-- Nothing comes after a strand that goes on with its end. -/
@[simp] theorem bind_finish (x : Strand S Ev α) : x.bind finish = x := by
  induction x with
  | finish => rfl
  | halt => rfl
  | note e x ih => simp [ih]
  | ask t touch next ih => simp [ih]

/-- Strands in a row do not depend on how they are grouped. -/
theorem bind_assoc (x : Strand S Ev α) (f : α → Strand S Ev β) (g : β → Strand S Ev γ) :
    (x.bind f).bind g = x.bind fun a => (f a).bind g := by
  induction x with
  | finish => rfl
  | halt => rfl
  | note e x ih => simp [ih]
  | ask t touch next ih => simp [ih]

instance : LawfulMonad (Strand S Ev) :=
  LawfulMonad.mk' _ (fun x => bind_finish x) (fun _ _ => rfl) (fun x f g => bind_assoc x f g)

/-- A strand whose notes are read another way. -/
def mapNotes (f : Ev → Ev') : Strand S Ev α → Strand S Ev' α
  | finish value => finish value
  | halt => halt
  | note event rest => note (f event) (rest.mapNotes f)
  | ask start touch next => ask start touch fun s => (next s).mapNotes f

/-- **Runs a strand** alone with a source. -/
def run : Strand S Ev α → S → Run S Ev α
  | finish value, s => ⟨[], some value, s⟩
  | halt, s => ⟨[], none, s⟩
  | note event rest, s =>
    let r := rest.run s
    { r with events := event :: r.events }
  | ask _ touch next, s => (next s).run (touch s)

/-- **One strand after another** runs as the first does and then, from the state this leaves and
with the value it ends with, as the second. -/
theorem run_bind (x : Strand S Ev α) (f : α → Strand S Ev β) (s : S) :
    (x.bind f).run s =
      match (x.run s).result with
      | none => ⟨(x.run s).events, none, (x.run s).source⟩
      | some a =>
        let second := (f a).run (x.run s).source
        { second with events := (x.run s).events ++ second.events } := by
  induction x generalizing s with
  | finish => rfl
  | halt => rfl
  | note e x ih =>
    simp only [note_bind, run, ih]
    cases (x.run s).result <;> rfl
  | ask t touch next ih => simpa only [ask_bind, run] using ih s (touch s)

/-- A strand whose notes are read another way runs as it did. -/
theorem run_mapNotes (f : Ev → Ev') (x : Strand S Ev α) (s : S) :
    (x.mapNotes f).run s = ⟨(x.run s).events.map f, (x.run s).result, (x.run s).source⟩ := by
  induction x generalizing s with
  | finish => rfl
  | halt => rfl
  | note e x ih => simp only [mapNotes, run, ih, List.map_cons]
  | ask t touch next ih => exact ih s (touch s)

end Strand

end ResourceWait
