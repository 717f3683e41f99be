import ResourceWait.Proofs.Course
import ResourceWait.Proofs.Interleaving

/-!
# Strands that are foretold

A source that many share may still reply to each id by nothing but the number of questions there were
about it: `Source.RepliesByTally`. What a strand does that asks about one id is then foretold by that
number, whoever else asks about other ids in between. `Strand.Foretold` says so in a way that follows
the strand: at a question it speaks of every state that has been asked about the id so often, not just
of the one at hand.

So a plan for each strand, its events to come, its result and the questions it has left, is an
invariant of all their interleavings if they ask about different ids: a step takes the head off the
plan of the strand that moves, and the plans of the others stay. At the end nothing is left of any,
which is `Interleaving.foretold`.
-/

namespace ResourceWait

/-- **A tally**: how many questions there were about each id. -/
def Tally : Type := String → Nat

namespace Tally

/-- The tally before the first question. -/
def zero : Tally := fun _ => 0

/-- The tally after one more question about an id. -/
def asked (tally : Tally) (id : String) : Tally := fun other =>
  if other = id then tally id + 1 else tally other

@[simp] theorem asked_self (tally : Tally) (id : String) : tally.asked id id = tally id + 1 :=
  if_pos rfl

/-- A question leaves the tally of other ids as it is. -/
theorem asked_of_ne (tally : Tally) {id other : String} (h : other ≠ id) :
    tally.asked id other = tally other :=
  if_neg h

end Tally

variable {S R E Ev Ev' α β : Type}

/-- **A source replies by the tally**: in the states that `After` relates to a tally, its reply to an
id is the one that the table has for the number of questions there were about it, each question is
one more, and what it shows has the id that was asked about. -/
structure Source.RepliesByTally [Resource R] (source : Source S R E) (After : Tally → S → Prop)
    (table : String → Nat → Reply R E) : Prop where
  /-- The reply is that of the table. -/
  reply_eq : ∀ {tally s}, After tally s → ∀ handle now,
    source.reply handle now s = table (Resource.id handle) (tally (Resource.id handle))
  /-- A question counts for the id it is about. -/
  after_touch : ∀ {tally s}, After tally s → ∀ handle now,
    After (tally.asked (Resource.id handle)) (source.touch handle now s)
  /-- What is shown has the id that was asked about. -/
  keepsId : ∀ {id n shown}, (table id n).answer = .ok (.found shown) → Resource.id shown = id

/-- **A source answers by the tally**: to an id it gives the answers that the table has for it, one
after the other, and takes the time that the table says. Whether an answer cancels a token is left
open. -/
structure Source.AnswersByTally [Resource R] (source : Source S R E) (After : Tally → S → Prop)
    (table : String → Nat → Reply R E) : Prop where
  /-- The answer is that of the table. -/
  answer_eq : ∀ {tally s}, After tally s → ∀ handle now, (source.reply handle now s).answer
    = (table (Resource.id handle) (tally (Resource.id handle))).answer
  /-- So is the time that it takes. -/
  delay_eq : ∀ {tally s}, After tally s → ∀ handle now, (source.reply handle now s).delay
    = (table (Resource.id handle) (tally (Resource.id handle))).delay
  /-- A question counts for the id it is about. -/
  after_touch : ∀ {tally s}, After tally s → ∀ handle now,
    After (tally.asked (Resource.id handle)) (source.touch handle now s)
  /-- What is shown has the id that was asked about. -/
  keepsId : ∀ {id n shown}, (table id n).answer = .ok (.found shown) → Resource.id shown = id

/-- A source that replies by the tally answers by it. -/
theorem Source.RepliesByTally.answersByTally [Resource R] {source : Source S R E}
    {After : Tally → S → Prop} {table : String → Nat → Reply R E}
    (replies : source.RepliesByTally After table) : source.AnswersByTally After table where
  answer_eq after handle now := by rw [replies.reply_eq after]
  delay_eq after handle now := by rw [replies.reply_eq after]
  after_touch := replies.after_touch
  keepsId := replies.keepsId

namespace Strand

/-- **The plan of a strand**: what it is going to do. -/
structure Plan (Ev α : Type) where
  /-- The events to come. -/
  events : List Ev
  /-- What it ends with. -/
  result : Option α
  /-- How many questions it has left. -/
  asks : Nat

namespace Plan

/-- The plan with an event before it. -/
def noting (event : Ev) (plan : Plan Ev α) : Plan Ev α := { plan with events := event :: plan.events }

/-- The plan with a question before it. -/
def asking (plan : Plan Ev α) : Plan Ev α := { plan with asks := plan.asks + 1 }

/-- One plan and then another. -/
def andThen (first : Plan Ev α) (second : Plan Ev β) : Plan Ev β :=
  ⟨first.events ++ second.events, second.result, first.asks + second.asks⟩

/-- The plan of a strand that is over. -/
def stopped (result : Option α) : Plan Ev α := ⟨[], result, 0⟩

end Plan

/-- **A strand is foretold** from the point on where there were `n` questions about an id. -/
inductive Foretold (After : Tally → S → Prop) (id : String) :
    Nat → Strand S Ev α → Plan Ev α → Prop
  /-- It is over. -/
  | stopped (n : Nat) (result : Option α) : Foretold After id n (stopped result) (.stopped result)
  /-- Something happens, and then it goes on as foretold. -/
  | note {n : Nat} (event : Ev) {rest : Strand S Ev α} {plan : Plan Ev α}
      (goesOn : Foretold After id n rest plan) :
    Foretold After id n (.note event rest) (plan.noting event)
  /-- It asks about the id, and then it goes on as foretold, whatever state answered the question. -/
  | ask {n : Nat} {start : Instant} {touch : S → S} {next : S → Strand S Ev α} {plan : Plan Ev α}
      (moves : ∀ tally s, After tally s → tally id = n → After (tally.asked id) (touch s))
      (goesOn : ∀ tally s, After tally s → tally id = n → Foretold After id (n + 1) (next s) plan) :
    Foretold After id n (.ask start touch next) plan.asking

namespace Foretold

variable {After : Tally → S → Prop} {id : String} {n : Nat}

/-- A plan may be spelled another way. -/
theorem cast {strand : Strand S Ev α} {plan plan' : Plan Ev α}
    (h : Foretold After id n strand plan) (hplan : plan = plan') : Foretold After id n strand plan' :=
  hplan ▸ h

/-- A strand that is over has nothing left to do. -/
theorem eq_stopped {result : Option α} {plan : Plan Ev α}
    (h : Foretold After id n (Strand.stopped result) plan) : plan = .stopped result := by
  generalize hstrand : (Strand.stopped result : Strand S Ev α) = strand at h
  cases h with
  | stopped _ other =>
    cases result <;> cases other <;> cases hstrand <;> rfl
  | note => cases result <;> cases hstrand
  | ask => cases result <;> cases hstrand

/-- The plan of a strand that notes something. -/
theorem of_note {event : Ev} {rest : Strand S Ev α} {plan : Plan Ev α}
    (h : Foretold After id n (.note event rest) plan) :
    ∃ later, plan = later.noting event ∧ Foretold After id n rest later := by
  generalize hstrand : Strand.note event rest = strand at h
  cases h with
  | stopped _ result => cases result <;> cases hstrand
  | note _ goesOn =>
    cases hstrand
    exact ⟨_, rfl, goesOn⟩
  | ask => cases hstrand

/-- The plan of a strand that asks. -/
theorem of_ask {start : Instant} {touch : S → S} {next : S → Strand S Ev α} {plan : Plan Ev α}
    (h : Foretold After id n (.ask start touch next) plan) {tally : Tally} {s : S}
    (after : After tally s) (hn : tally id = n) :
    After (tally.asked id) (touch s)
      ∧ ∃ later, plan = later.asking ∧ Foretold After id (n + 1) (next s) later := by
  generalize hstrand : Strand.ask start touch next = strand at h
  cases h with
  | stopped _ result => cases result <;> cases hstrand
  | note => cases hstrand
  | ask moves goesOn =>
    cases hstrand
    exact ⟨moves tally s after hn, _, rfl, goesOn tally s after hn⟩

/-- A strand does alone what it is foretold to do. -/
theorem run_eq {strand : Strand S Ev α} {plan : Plan Ev α} (h : Foretold After id n strand plan)
    {tally : Tally} {s : S} (after : After tally s) (hn : tally id = n) :
    (strand.run s).events = plan.events ∧ (strand.run s).result = plan.result := by
  induction h generalizing tally s with
  | stopped n result => cases result <;> exact ⟨rfl, rfl⟩
  | note event _ ih =>
    obtain ⟨hevents, hresult⟩ := ih after hn
    exact ⟨congrArg (event :: ·) hevents, hresult⟩
  | ask moves _ ih =>
    exact ih tally s after hn (moves tally s after hn) (by rw [Tally.asked_self, hn])

/-- A strand that asks has one question less in its plan once it is advanced. -/
theorem advance {strand : Strand S Ev α} {plan : Plan Ev α}
    (h : Foretold After id n strand plan) {t : Instant} (hdue : strand.due? = some t) {tally : Tally}
    {s : S} (after : After tally s) (hn : tally id = n) :
    ∃ later, After (tally.asked id) (strand.advance s).2.2
      ∧ Foretold After id (n + 1) (strand.advance s).2.1 later ∧ plan.asks = later.asks + 1 := by
  induction strand generalizing plan with
  | finish => cases hdue
  | halt => cases hdue
  | note event rest ih =>
    obtain ⟨plan, rfl, hrest⟩ := h.of_note
    obtain ⟨later, hlater⟩ := ih hrest hdue
    exact ⟨later, hlater⟩
  | ask start touch next =>
    obtain ⟨hmoved, later, rfl, hrest⟩ := h.of_ask after hn
    exact ⟨later, hmoved, hrest, rfl⟩

/-- A strand and then another are foretold by the plan of the one and then that of the other. -/
theorem bind {x : Strand S Ev α} {f : α → Strand S Ev β} {plan : Plan Ev α} {second : Plan Ev β}
    (hx : Foretold After id n x plan) {a : α} (ha : plan.result = some a)
    (hf : Foretold After id (n + plan.asks) (f a) second) :
    Foretold After id n (x.bind f) (plan.andThen second) := by
  induction hx with
  | stopped n result =>
    obtain rfl : result = some a := ha
    have hplan : (Plan.stopped (some a) : Plan Ev α).andThen second = second := by
      simp [Plan.andThen, Plan.stopped]
    rw [hplan]
    exact hf
  | note event _ ih => exact .note event (ih ha hf)
  | @ask n _ _ _ plan moves _ ih =>
    have hplan : plan.asking.andThen second = (plan.andThen second).asking := by
      simp [Plan.asking, Plan.andThen, Nat.add_right_comm]
    have hf' : Foretold After id (n + 1 + plan.asks) (f a) second := by
      rwa [Nat.add_assoc, Nat.add_comm 1]
    rw [hplan]
    exact .ask moves fun tally s after hn => ih tally s after hn ha hf'

/-- A strand that ends without a value is as foretold whatever would come after it. -/
theorem bind_of_result_eq_none {x : Strand S Ev α} (f : α → Strand S Ev β) {plan : Plan Ev α}
    (hx : Foretold After id n x plan) (hnone : plan.result = none) :
    Foretold After id n (x.bind f) ⟨plan.events, none, plan.asks⟩ := by
  induction hx with
  | stopped n result =>
    obtain rfl : result = none := hnone
    exact .stopped n none
  | note event _ ih => exact .note event (ih hnone)
  | ask moves _ ih => exact .ask moves fun tally s after hn => ih tally s after hn hnone

/-- A strand whose notes are read another way is foretold by the plan read that way. -/
theorem mapNotes (f : Ev → Ev') {x : Strand S Ev α} {plan : Plan Ev α}
    (hx : Foretold After id n x plan) :
    Foretold After id n (x.mapNotes f) ⟨plan.events.map f, plan.result, plan.asks⟩ := by
  induction hx with
  | stopped n result =>
    cases result with
    | none => exact .stopped n none
    | some a => exact .stopped n (some a)
  | note event _ ih => exact .note (f event) ih
  | ask moves _ ih => exact .ask moves ih

end Foretold

/-! ### Interleavings of strands that are foretold -/

/-- **Strands are foretold** by plans, from a tally on, each for an id of its own. -/
def AllForetold (After : Tally → S → Prop) (ids : List String) (tally : Tally)
    (strands : List (Strand S Ev α)) (plans : Nat → Plan Ev α) : Prop :=
  ∀ (i : Nat) (strand : Strand S Ev α) (id : String), strands[i]? = some strand → ids[i]? = some id →
    Foretold After id (tally id) strand (plans i)

/-- Plans with the one at an index replaced. -/
def replan (plans : Nat → Plan Ev α) (index : Nat) (plan : Plan Ev α) : Nat → Plan Ev α := fun i =>
  if i = index then plan else plans i

@[simp] theorem replan_self (plans : Nat → Plan Ev α) (index : Nat) (plan : Plan Ev α) :
    replan plans index plan index = plan := if_pos rfl

/-- The other plans stay. -/
theorem replan_of_ne (plans : Nat → Plan Ev α) {index i : Nat} (h : i ≠ index) (plan : Plan Ev α) :
    replan plans index plan i = plans i := if_neg h

/-- Among different ids each has one index. -/
theorem index_unique {ids : List String} (distinct : ids.Nodup) {i j : Nat} {id : String}
    (hi : ids[i]? = some id) (hj : ids[j]? = some id) : i = j :=
  (List.getElem?_inj (List.getElem?_eq_some_iff.mp hi).1 distinct).mp (hi.trans hj.symm)

namespace AllForetold

variable {After : Tally → S → Prop} {ids : List String} {tally : Tally}
variable {strands : List (Strand S Ev α)} {plans : Nat → Plan Ev α}

/-- Strands stay foretold where one of them moves that is foretold on its own, and nothing else of the
tally changes. -/
theorem set (h : AllForetold After ids tally strands plans) {index : Nat} {id : String}
    (hid : ids[index]? = some id) {next : Strand S Ev α} {plan : Plan Ev α} {tally' : Tally}
    (hnext : Foretold After id (tally' id) next plan) (distinct : ids.Nodup)
    (hothers : ∀ other, other ≠ id → tally' other = tally other) :
    AllForetold After ids tally' (strands.set index next) (replan plans index plan) := by
  intro i strand other hstrand hother
  by_cases hi : i = index
  · subst hi
    obtain rfl : id = other := Option.some.inj (hid.symm.trans hother)
    obtain ⟨-, rfl⟩ : _ ∧ next = strand := by simpa [List.getElem?_set] using hstrand
    rwa [replan_self]
  · rw [List.getElem?_set_ne (Ne.symm hi)] at hstrand
    have hne : other ≠ id := fun heq => hi (index_unique distinct hother (heq ▸ hid))
    rw [replan_of_ne plans hi, hothers other hne]
    exact h i strand other hstrand hother

/-- **A step takes the head off one plan**: strands that are foretold stay so, and nothing else of
the tally changes. -/
theorem step (h : AllForetold After ids tally strands plans) (distinct : ids.Nodup) {s s' : S}
    (after : After tally s) {index : Nat} {id : String} (hid : ids[index]? = some id)
    {strand next : Strand S Ev α} {events : List Ev} (found : strands[index]? = some strand)
    (moves : Step strand s events next s') :
    ∃ tally' plan, After tally' s'
      ∧ AllForetold After ids tally' (strands.set index next) (replan plans index plan)
      ∧ (plans index).events = events ++ plan.events
      ∧ (plans index).result = plan.result
      ∧ tally id + (plans index).asks = tally' id + plan.asks
      ∧ ∀ other, other ≠ id → tally' other = tally other := by
  have hplan := h index strand id found hid
  cases moves with
  | note event =>
    obtain ⟨plan, hnoting, hrest⟩ := hplan.of_note
    refine ⟨tally, plan, after, h.set hid hrest distinct fun _ _ => rfl, ?_, ?_, ?_, fun _ _ => rfl⟩
    all_goals rw [hnoting]; rfl
  | ask start touch next =>
    obtain ⟨hmoved, plan, hasking, hrest⟩ := hplan.of_ask after rfl
    have hself : tally.asked id id = tally id + 1 := tally.asked_self id
    have hothers : ∀ other, other ≠ id → tally.asked id other = tally other :=
      fun _ hother => tally.asked_of_ne hother
    refine ⟨tally.asked id, plan, hmoved, h.set hid (hself.symm ▸ hrest) distinct hothers, ?_, ?_, ?_,
      hothers⟩
    · rw [hasking]; rfl
    · rw [hasking]; rfl
    · rw [hasking, hself]
      exact (Nat.succ_add_eq_add_succ _ _).symm

/-- To advance a strand that asks takes one question off its plan. -/
theorem advance (h : AllForetold After ids tally strands plans) (distinct : ids.Nodup) {s : S}
    (after : After tally s) {index : Nat} {id : String} (hid : ids[index]? = some id)
    {strand : Strand S Ev α} (found : strands[index]? = some strand) {t : Instant}
    (hdue : strand.due? = some t) :
    ∃ tally' plan, After tally' (strand.advance s).2.2
      ∧ AllForetold After ids tally' (strands.set index (strand.advance s).2.1)
        (replan plans index plan)
      ∧ (plans index).asks = plan.asks + 1 := by
  obtain ⟨plan, hmoved, hrest, hasks⟩ := (h index strand id found hid).advance hdue after rfl
  refine ⟨tally.asked id, plan, hmoved, h.set hid ?_ distinct fun _ hother => tally.asked_of_ne hother,
    hasks⟩
  rwa [tally.asked_self]

/-- Where all strands have stopped, there is nothing left in the plans but what they stopped with. -/
theorem eq_stopped {results : List (Option α)}
    (h : AllForetold After ids tally (results.map stopped : List (Strand S Ev α)) plans)
    (hlength : results.length = ids.length) {i : Nat} {id : String} (hid : ids[i]? = some id) :
    ∃ result, results[i]? = some result ∧ plans i = .stopped result := by
  have hi : i < results.length := hlength ▸ (List.getElem?_eq_some_iff.mp hid).1
  refine ⟨results[i], List.getElem?_eq_getElem hi, ?_⟩
  exact (h i (stopped results[i]) id (by simp [hi]) hid).eq_stopped

end AllForetold

/-- How many questions the first strands have left by their plans. -/
def questionsLeft (plans : Nat → Plan Ev α) : Nat → Nat
  | 0 => 0
  | n + 1 => questionsLeft plans n + (plans n).asks

/-- A plan that is not among the first ones does not count. -/
theorem questionsLeft_replan_of_le (plans : Nat → Plan Ev α) {index n : Nat} (h : n ≤ index)
    (plan : Plan Ev α) : questionsLeft (replan plans index plan) n = questionsLeft plans n := by
  induction n with
  | zero => rfl
  | succ n ih =>
    rw [questionsLeft, questionsLeft, ih (Nat.le_of_succ_le h), replan_of_ne plans (Nat.ne_of_lt h)]

/-- One question less in one of the plans is one less in all. -/
theorem questionsLeft_replan (plans : Nat → Plan Ev α) {index n : Nat} (h : index < n)
    {plan : Plan Ev α} (hasks : (plans index).asks = plan.asks + 1) :
    questionsLeft plans n = questionsLeft (replan plans index plan) n + 1 := by
  induction n with
  | zero => exact absurd h (Nat.not_lt_zero _)
  | succ n ih =>
    rw [questionsLeft, questionsLeft]
    obtain hlt | rfl := Nat.lt_succ_iff_lt_or_eq.mp h
    · rw [ih hlt, replan_of_ne plans (Ne.symm (Nat.ne_of_lt hlt)), Nat.add_right_comm]
    · rw [questionsLeft_replan_of_le plans (Nat.le_refl _), replan_self, hasks, Nat.add_assoc]

/-- **Strands that are foretold interleave to their end** if there is fuel for their questions. -/
theorem interleaving_interleave {fuel : Nat} {strands : List (Strand S Ev α)} {s : S}
    {After : Tally → S → Prop} {ids : List String} (distinct : ids.Nodup)
    (hlength : strands.length = ids.length) {tally : Tally} (after : After tally s)
    {plans : Nat → Plan Ev α} (h : AllForetold After ids tally strands plans)
    (hfuel : questionsLeft plans ids.length < fuel) :
    Interleaving strands s (interleave fuel strands s).1 (interleave fuel strands s).2.1
      (interleave fuel strands s).2.2 := by
  induction fuel generalizing strands s tally plans with
  | zero => exact absurd hfuel (Nat.not_lt_zero _)
  | succ fuel ih =>
    rw [interleave]
    cases hfirst : first? strands with
    | none => exact interleaving_settle (due?_of_first?_eq_none hfirst) s
    | some index =>
      obtain ⟨strand, t, found, hdue⟩ := due?_of_first? hfirst
      have hindex : index < ids.length := hlength ▸ (List.getElem?_eq_some_iff.mp found).1
      obtain ⟨tally', plan, after', h', hasks⟩ :=
        h.advance distinct after (List.getElem?_eq_getElem hindex) found hdue
      simp only [stepAt, found]
      refine .of_advance found (ih ?_ after' h' ?_)
      · rwa [List.length_set]
      · rw [questionsLeft_replan plans hindex hasks] at hfuel
        exact Nat.lt_of_succ_lt_succ hfuel

/-- **What an interleaving makes of strands that are foretold**: each does what it was foretold to do
and ends with what it was foretold to end with, and the tally counts as many questions more for its id
as it had left. Ids that none of them asks about keep their tally. -/
theorem Interleaving.foretold {strands : List (Strand S Ev α)} {s last : S}
    {trace : List (Nat × Ev)} {results : List (Option α)}
    (order : Interleaving strands s trace results last) {After : Tally → S → Prop}
    {ids : List String} (distinct : ids.Nodup) (hlength : strands.length = ids.length)
    {tally : Tally} (after : After tally s) {plans : Nat → Plan Ev α}
    (h : AllForetold After ids tally strands plans) :
    results.length = ids.length
      ∧ (∀ i, i < ids.length → eventsAt i trace = (plans i).events
        ∧ results[i]? = some (plans i).result)
      ∧ ∃ tally', After tally' last
        ∧ (∀ i id, ids[i]? = some id → tally' id = tally id + (plans i).asks)
        ∧ ∀ id, id ∉ ids → tally' id = tally id := by
  induction order generalizing tally plans with
  | finished results s =>
    have hresults : results.length = ids.length := by rwa [List.length_map] at hlength
    refine ⟨hresults, fun i hi => ?_, tally, after, fun i id hid => ?_, fun _ _ => rfl⟩
    · obtain ⟨result, hresult, hplan⟩ := h.eq_stopped hresults (List.getElem?_eq_getElem hi)
      rw [hplan, hresult]
      exact ⟨rfl, rfl⟩
    · obtain ⟨result, -, hplan⟩ := h.eq_stopped hresults hid
      rw [hplan]
      rfl
  | @step strands s s' last index strand next events trace results found moves _ ih =>
    have hindex : index < ids.length := hlength ▸ (List.getElem?_eq_some_iff.mp found).1
    have hid : ids[index]? = some ids[index] := List.getElem?_eq_getElem hindex
    obtain ⟨tally₁, plan, after₁, h₁, hevents, hresult, hasks, htally₁⟩ :=
      h.step distinct after hid found moves
    obtain ⟨hresults, hdone, tally', after', htally', hothers⟩ :=
      ih (by rwa [List.length_set]) after₁ h₁
    refine ⟨hresults, fun i hi => ?_, tally', after', fun i id hi => ?_, fun id hnot => ?_⟩
    · obtain ⟨htrace, hresult'⟩ := hdone i hi
      by_cases heq : i = index
      · subst heq
        rw [replan_self] at htrace hresult'
        rw [eventsAt_self, htrace, hresult', hevents, hresult]
        exact ⟨rfl, rfl⟩
      · rw [replan_of_ne plans heq] at htrace hresult'
        rw [eventsAt_of_ne (Ne.symm heq)]
        exact ⟨htrace, hresult'⟩
    · by_cases heq : i = index
      · subst heq
        obtain rfl : ids[i] = id := Option.some.inj (hid.symm.trans hi)
        rw [htally' i _ hid, replan_self, hasks]
      · have hne : id ≠ ids[index] := by
          rintro rfl
          exact heq ((List.getElem?_inj hindex distinct).mp (hid.trans hi.symm)).symm
        rw [htally' i id hi, replan_of_ne plans heq, htally₁ id hne]
    · have hne : id ≠ ids[index] := by
        rintro rfl
        exact hnot (List.getElem_mem hindex)
      rw [hothers id hnot, htally₁ id hne]

end Strand

end ResourceWait
