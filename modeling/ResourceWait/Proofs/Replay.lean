import ResourceWait.Proofs.Callers
import ResourceWait.Proofs.Rehearsal

/-!
# The replay of a script

A script answers questions in the order in which they come, whoever asks them and about whatever. So
what it answers, its count and its list of ids are all fixed by how many questions there were before:
the `k`-th question takes the `k`-th step, and the last step over and over once there are no more.
`Script.Replays` says so of the questions that a script was asked, and `Script.replays` that it is so
of all there can be, those of one caller and those of many together.

The invariant is the one of a wait on a script, that it was played so far, with the ids added.
-/

namespace ResourceWait

/-- What a step answers, whatever it is asked with. -/
def ScriptStep.answer {R : Type} : ScriptStep R → Except FetchError (Observation R)
  | .found resource => .ok (.found resource)
  | .notFound => .ok .notFound
  | .error message => .error ⟨message⟩

namespace Script

open Strand

variable {R : Type}

/-- **A script is built from steps** by adding one after the other. -/
inductive BuiltFrom : List (ScriptStep R) → Script R → Prop
  /-- At first it has none. -/
  | empty : BuiltFrom [] empty
  /-- One that shows a resource is added. -/
  | thenFound {steps : List (ScriptStep R)} {script : Script R} (built : BuiltFrom steps script)
      (resource : R) : BuiltFrom (steps ++ [.found resource]) (script.thenFound resource)
  /-- One that reports an absence is added. -/
  | thenNotFound {steps : List (ScriptStep R)} {script : Script R} (built : BuiltFrom steps script) :
    BuiltFrom (steps ++ [.notFound]) script.thenNotFound
  /-- One that fails is added. -/
  | thenError {steps : List (ScriptStep R)} {script : Script R} (built : BuiltFrom steps script)
      (message : String) : BuiltFrom (steps ++ [.error message]) (script.thenError message)

/-- A script with one more step has played as much as before. -/
theorem Played.thenStep {steps : List (ScriptStep R)} {k : Nat} {script : Script R}
    (h : Played steps k script) (step : ScriptStep R) :
    Played (steps ++ [step]) k (script.thenStep step) where
  steps_eq := by
    rw [Script.thenStep, h.steps_eq, List.push_toArray]
  count_eq := h.count_eq

/-- A script that was built from steps has them in order, and was asked nothing yet. -/
theorem BuiltFrom.played {steps : List (ScriptStep R)} {script : Script R}
    (built : BuiltFrom steps script) : Played steps 0 script ∧ script.askedIds = #[] := by
  induction built with
  | empty => exact ⟨⟨rfl, rfl⟩, rfl⟩
  | thenFound _ resource ih => exact ⟨ih.1.thenStep (.found resource), ih.2⟩
  | thenNotFound _ ih => exact ⟨ih.1.thenStep .notFound, ih.2⟩
  | thenError _ message ih => exact ⟨ih.1.thenStep (.error message), ih.2⟩

/-- The step that a script answers its `k`-th question with is its `k`-th, or the last if there is no
such step. -/
theorem stepAt_eq_orElse (steps : List (ScriptStep R)) (k : Nat) :
    stepAt steps k = (steps[k]? <|> steps.getLast?) := by
  rcases Nat.lt_or_ge k steps.length with hlt | hge
  · rw [stepAt, show min k (steps.length - 1) = k by omega]
    simp [hlt]
  · rw [stepAt, show min k (steps.length - 1) = steps.length - 1 by omega]
    simp [hge, List.getLast?_eq_getElem?]

variable [Resource R]

/-- A script answers with a step what the step does. -/
theorem answerOf_some (handle : R) (step : ScriptStep R) :
    answerOf handle (some step) = step.answer := by
  cases step <;> rfl

/-- **Questions play a script on**: each is answered with its next step. -/
theorem Played.of_answers {steps : List (ScriptStep R)} {n : Nat} {script last : Script R}
    {asked : List (Question R FetchError)} (answers : source.Answers script asked last)
    (played : Played steps n script) :
    Played steps (n + asked.length) last
      ∧ ∀ (k : Nat) question, asked[k]? = some question →
        question.answer = answerOf question.handle (stepAt steps (n + k)) := by
  induction answers generalizing n with
  | nil => exact ⟨played, by simp⟩
  | @cons handle now script _ rest _ ih =>
    obtain ⟨hplayed, hanswers⟩ := ih (played.touch handle now)
    refine ⟨by rwa [List.length_cons, ← Nat.succ_add_eq_add_succ], ?_⟩
    rintro (_ | k) question hk
    · cases hk
      exact played.answer_eq handle now
    · rw [← Nat.succ_add_eq_add_succ]
      exact hanswers k question hk

/-- Questions add the ids of their handles to the list of a script, in their order. -/
theorem askedIds_of_answers {script last : Script R} {asked : List (Question R FetchError)}
    (answers : source.Answers script asked last) :
    last.askedIds.toList
      = script.askedIds.toList ++ asked.map fun question => Resource.id question.handle := by
  induction answers with
  | nil => simp
  | cons handle now _ ih =>
    rw [ih]
    simp [Source.touch, source, Source.question]

/-- **The replay of a script**: the questions that it was asked, in order, and how it is left. -/
structure Replays (steps : List (ScriptStep R)) (asked : List (Question R FetchError))
    (last : Script R) : Prop where
  /-- The `k`-th question is answered with the `k`-th step, or with the last if there is no such step;
  and if there is none at all, the script fails and says what it was asked for. -/
  answer_eq : ∀ (k : Nat) question, asked[k]? = some question →
    question.answer = answerOf question.handle (steps[k]? <|> steps.getLast?)
  /-- Every step before the last is taken once, in order and leaving none out, and then the last over
  and over. -/
  answers_eq : ∀ earlier final, steps = earlier ++ [final] →
    asked.map (·.answer) = (earlier.map ScriptStep.answer).take asked.length
      ++ List.replicate (asked.length - earlier.length) final.answer
  /-- Every question counts, whatever it was answered. -/
  count_eq : last.count = asked.length
  /-- The ids are those of the handles, in the order of the questions. -/
  askedIds_eq : last.askedIds.toList = asked.map fun question => Resource.id question.handle
  /-- There are as many ids as questions. -/
  size_askedIds : last.askedIds.size = last.count

/-- Answers that go through steps and then stay with the last are these steps and then the last. -/
theorem answers_eq_take_append {earlier : List (ScriptStep R)} {final : ScriptStep R}
    {asked : List (Question R FetchError)}
    (h : ∀ (k : Nat) question, asked[k]? = some question → question.answer
      = answerOf question.handle ((earlier ++ [final])[k]? <|> (earlier ++ [final]).getLast?)) :
    asked.map (·.answer) = (earlier.map ScriptStep.answer).take asked.length
      ++ List.replicate (asked.length - earlier.length) final.answer := by
  refine List.ext_getElem (by simp; omega) fun k hk _ => ?_
  rw [List.length_map] at hk
  have hanswer := h k asked[k] (List.getElem?_eq_getElem hk)
  rw [List.getElem_map, hanswer]
  rcases Nat.lt_or_ge k earlier.length with hlt | hge
  · have hstep : (earlier ++ [final])[k]? = some earlier[k] := by
      rw [List.getElem?_append_left hlt, List.getElem?_eq_getElem hlt]
    rw [hstep, List.getElem_append_left (by simp; omega)]
    simp [answerOf_some]
  · have hstep : ((earlier ++ [final])[k]? <|> (earlier ++ [final]).getLast?) = some final := by
      rw [List.getLast?_concat, List.getElem?_append_right hge]
      cases k - earlier.length <;> rfl
    rw [hstep, List.getElem_append_right (by simp; omega), answerOf_some]
    simp

/-- A script that was built from steps replays them. -/
theorem BuiltFrom.replays_of_answers {steps : List (ScriptStep R)} {script last : Script R}
    (built : BuiltFrom steps script) {asked : List (Question R FetchError)}
    (answers : source.Answers script asked last) : Replays steps asked last := by
  obtain ⟨played, hids⟩ := built.played
  obtain ⟨hplayed, hanswers⟩ := played.of_answers answers
  have hids' := askedIds_of_answers answers
  have hcount : last.count = asked.length := by
    rw [hplayed.count_eq, Nat.zero_add]
  rw [hids, List.nil_append] at hids'
  simp only [Nat.zero_add, stepAt_eq_orElse] at hanswers
  refine ⟨hanswers, ?_, hcount, hids', ?_⟩
  · rintro earlier final rfl
    exact answers_eq_take_append hanswers
  · rw [← Array.length_toList, hids', List.length_map, hcount]

/-- **A script replays its steps**, whoever asks. One caller is answered with its steps in order and
then with the last again and again. So are callers that share it, in whatever order they take their
steps: there is one order of all their questions in which the script replays, and it holds the
questions that each of them puts. -/
theorem replays {steps : List (ScriptStep R)} {script : Script R} (built : BuiltFrom steps script) :
    (∀ asked last, source.Answers script asked last → Replays steps asked last)
    ∧ ∀ {Ev α : Type} (callers : List (Strand (Script R) Ev α)),
      (∀ caller ∈ callers, AsksOnly source caller) →
      ∀ trace results last, Interleaving callers script trace results last →
        ∃ order : List (Nat × Question R FetchError),
          source.Answers script (order.map (·.2)) last
          ∧ Replays steps (order.map (·.2)) last
          ∧ (∀ entry ∈ order, entry.1 < callers.length)
          ∧ ∀ (i : Nat) caller, callers[i]? = some caller → ∃ result, results[i]? = some result
            ∧ Conducts source caller (eventsAt i order) (eventsAt i trace) result := by
  refine ⟨fun asked last answers => built.replays_of_answers answers, ?_⟩
  intro Ev α callers asksOnly trace results last interleaving
  obtain ⟨order, answers, hcallers, heach⟩ := interleaving.exists_order asksOnly
  exact ⟨order, answers, built.replays_of_answers answers, hcallers, heach⟩

/-- Two waits for deletions share a script that shows a probe and then is busy. The second asks first,
and again about what it was shown, so that the first gets the step in between. -/
theorem replays_shared :
    let script := ((empty : Script Probe).thenFound ⟨"r", none⟩).thenError "busy"
    let wait (id : String) := Routine.waitForDelete source ⟨.zero, none⟩ 2 ⟨id, none⟩ ⟨0, none⟩
    let last : Script Probe := { script with count := 3, askedIds := #["q", "p", "r"] }
    ∃ trace results, Interleaving [wait "p", wait "q"] script trace results last
      ∧ ∃ order : List (Nat × Question Probe FetchError),
        Replays [.found ⟨"r", none⟩, .error "busy"] (order.map (·.2)) last ∧ order.length = 3 := by
  intro script wait last
  have built : BuiltFrom [.found ⟨"r", none⟩, .error "busy"] script :=
    (BuiltFrom.empty.thenFound (⟨"r", none⟩ : Probe)).thenError "busy"
  have asksOnly : ∀ caller ∈ [wait "p", wait "q"], AsksOnly source caller := by
    have hwait : ∀ id : String, Routine.AsksOnly source
        (Routine.waitForDelete source ⟨.zero, none⟩ 2 (⟨id, none⟩ : Probe)) :=
      fun id => Routine.AsksOnly.waitForDelete _ _ _
    exact List.forall_mem_cons.mpr
      ⟨hwait "p" ⟨0, none⟩, List.forall_mem_singleton.mpr (hwait "q" ⟨0, none⟩)⟩
  let first := (wait "q").advance script
  let second := (wait "p").advance first.2.2
  let third := first.2.1.advance second.2.2
  have settled : ∀ strand ∈ [second.2.1, third.2.1], strand.due? = none :=
    List.forall_mem_cons.mpr ⟨rfl, List.forall_mem_singleton.mpr rfl⟩
  have interleaving : Interleaving [wait "p", wait "q"] script _ _ last :=
    .of_advance (show [wait "p", wait "q"][1]? = some (wait "q") from rfl) <|
      .of_advance (show [wait "p", first.2.1][0]? = some (wait "p") from rfl) <|
        .of_advance (show [second.2.1, first.2.1][1]? = some first.2.1 from rfl) <|
          interleaving_settle settled third.2.2
  obtain ⟨order, -, replay, -⟩ := (replays built).2 _ asksOnly _ _ last interleaving
  have hcount := replay.count_eq
  rw [List.length_map] at hcount
  exact ⟨_, _, interleaving, order, replay, hcount.symm⟩

end Script

end ResourceWait
