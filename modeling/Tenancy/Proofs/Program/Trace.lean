import Mathlib.Data.List.Induction
import Tenancy.Program.World

/-!
# Traces of runs

The trace of a run lists what passes between a program and the world it runs in: notes, calls with what came of them, and
calls that were not made because their context was done. A trace determines the notes of its run (`notes_run`), and it leads
from the state in which the run begins to the one in which it ends (`leads_trace`). What holds in every state on the way is
proved by `Leads.induction`, one event at a time.
-/

namespace Tenancy

/-- What passes between a program and its world. -/
inductive Event where
  /-- A note that the program leaves. -/
  | noted (note : Note)
  /-- A call that is not made, because its context is done. -/
  | refused (ctx : Context) (c : Call) (cause : Interruption)
  /-- A call under a live context, and what comes of it. -/
  | answered (ctx : Context) (c : Call) (reply : Except (Refusal c.Fault) c.Value)
  /-- A call outside any context, and what comes of it. -/
  | insisted (c : Call) (reply : Except c.Fault c.Value)
  /-- A question for the health of components under a live context, their reports, and the notes they leave. -/
  | surveyed (ctx : Context) (components : List Component) (reports : List (Component × PingReport)) (notes : List Note)

/-- The notes that an event leaves: a call that is made is noted, one that is not made is not. -/
def Event.notes : Event → List Note
  | noted n => [n]
  | refused _ _ _ => []
  | answered _ c _ => [.called c]
  | insisted c _ => [.called c]
  | surveyed _ _ _ notes => notes

namespace Program

variable {σ α β : Type}

/-- What passes between a program and its world in a run, in order. -/
def trace (w : World σ) : Program α → σ → List Event
  | done _, _ => []
  | noted n next, s => .noted n :: next.trace w s
  | asked ctx c next, s =>
    match w.interruption? s ctx with
    | some cause => .refused ctx c cause :: (next (.error (.interrupted cause))).trace w s
    | none =>
      let (r, s) := w.answer s ctx c
      .answered ctx c r :: (next r).trace w s
  | insisted c next, s =>
    let (r, s) := w.insist s c
    .insisted c r :: (next r).trace w s
  | timed next, s => (next (w.time s)).trace w s
  | surveyed ctx cs next, s =>
    match w.interruption? s ctx with
    | some cause => (next (cs.map fun c => (c, .failed (.interruption cause)))).trace w s
    | none =>
      let (reports, notes, s) := w.survey s ctx cs
      .surveyed ctx cs reports notes :: (next reports).trace w s

/-- The notes of a run are those of its trace. -/
theorem notes_run (w : World σ) (p : Program α) (s : σ) : (p.run w s).notes = (p.trace w s).flatMap Event.notes := by
  induction p generalizing s with
  | done a => rfl
  | noted n next ih => simp [run, trace, Outcome.after, Event.notes, ih]
  | asked ctx c next ih =>
    cases hi : w.interruption? s ctx with
    | some cause => simp [run, trace, hi, Event.notes, ih]
    | none => simp [run, trace, hi, Outcome.after, Event.notes, ih]
  | insisted c next ih => simp [run, trace, Outcome.after, Event.notes, ih]
  | timed next ih => simp only [run, trace, ih]
  | surveyed ctx cs next ih =>
    cases hi : w.interruption? s ctx with
    | some cause => simp only [run, trace, hi, ih]
    | none => simp [run, trace, hi, Outcome.after, Event.notes, ih]

end Program

/-! ## Runs one after the other -/

namespace Outcome

variable {σ α : Type}

@[simp] theorem after_value (o : Outcome σ α) (notes : List Note) : (o.after notes).value = o.value := rfl

@[simp] theorem after_state (o : Outcome σ α) (notes : List Note) : (o.after notes).state = o.state := rfl

end Outcome

namespace Program

variable {σ α β : Type} {w : World σ}

/-- A program that goes on with the value of another one does so in the state in which that one ends. -/
theorem run_bind (w : World σ) (p : Program α) (f : α → Program β) (s : σ) :
    (p >>= f).run w s = ((f (p.run w s).value).run w (p.run w s).state).after (p.run w s).notes := by
  change (p.bind f).run w s = _
  induction p generalizing s with
  | done a => rfl
  | noted n next ih => simp [bind, run, ih, Outcome.after]
  | asked ctx c next ih =>
    cases hi : w.interruption? s ctx with
    | some cause => simp [bind, run, hi, ih]
    | none => simp [bind, run, hi, ih, Outcome.after]
  | insisted c next ih => simp [bind, run, ih, Outcome.after]
  | timed next ih => simp [bind, run, ih]
  | surveyed ctx cs next ih =>
    cases hi : w.interruption? s ctx with
    | some cause => simp [bind, run, hi, ih]
    | none => simp [bind, run, hi, ih, Outcome.after]

/-- A program that goes on with the value of another one leaves its events after those of that one. -/
theorem trace_bind (w : World σ) (p : Program α) (f : α → Program β) (s : σ) :
    (p >>= f).trace w s = p.trace w s ++ (f (p.run w s).value).trace w (p.run w s).state := by
  change (p.bind f).trace w s = _
  induction p generalizing s with
  | done a => rfl
  | noted n next ih => simp [bind, run, trace, ih]
  | asked ctx c next ih =>
    cases hi : w.interruption? s ctx with
    | some cause => simp [bind, run, trace, hi, ih]
    | none => simp [bind, run, trace, hi, ih]
  | insisted c next ih => simp [bind, run, trace, ih]
  | timed next ih => simp [bind, run, trace, ih]
  | surveyed ctx cs next ih =>
    cases hi : w.interruption? s ctx with
    | some cause => simp [bind, run, trace, hi, ih]
    | none => simp [bind, run, trace, hi, ih]

/-- A program that leaves the state of the world as it is. -/
def Keeps (w : World σ) (p : Program α) : Prop := ∀ s, (p.run w s).state = s

/-- Programs that keep a world do so one after the other. -/
theorem keeps_forM {f : β → Program Unit} (h : ∀ b, (f b).Keeps w) (items : List β) : (items.forM f).Keeps w := by
  induction items with
  | nil => exact fun s => rfl
  | cons b rest ih =>
    intro s
    rw [List.forM_eq_forM, List.forM_cons, run_bind, Outcome.after_state, h b s]
    exact ih s

end Program

namespace World

variable {σ : Type}

/-- In a world, an event leads from a state to the next one. -/
def Moves (w : World σ) (s : σ) : Event → σ → Prop
  | .noted _, s' => s' = s
  | .refused ctx _ cause, s' => w.interruption? s ctx = some cause ∧ s' = s
  | .answered ctx c reply, s' => w.interruption? s ctx = none ∧ w.answer s ctx c = (reply, s')
  | .insisted c reply, s' => w.insist s c = (reply, s')
  | .surveyed ctx cs reports notes, s' => w.interruption? s ctx = none ∧ w.survey s ctx cs = (reports, notes, s')

/-- In a world, events lead one after the other from a state to a later one. -/
def Leads (w : World σ) : σ → List Event → σ → Prop
  | s, [], s' => s' = s
  | s, e :: es, s' => ∃ s₁, w.Moves s e s₁ ∧ w.Leads s₁ es s'

theorem Leads.nil (w : World σ) (s : σ) : w.Leads s [] s := rfl

/-- One event leads where it moves. -/
theorem leads_singleton {w : World σ} {s s' : σ} {e : Event} : w.Leads s [e] s' ↔ w.Moves s e s' := by
  constructor
  · rintro ⟨s₁, hm, rfl⟩
    exact hm
  · intro hm
    exact ⟨s', hm, rfl⟩

/-- Events lead to a state when the first of them lead to one from which the others do. -/
theorem leads_append {w : World σ} {s s' : σ} {es es' : List Event} :
    w.Leads s (es ++ es') s' ↔ ∃ s₁, w.Leads s es s₁ ∧ w.Leads s₁ es' s' := by
  induction es generalizing s with
  | nil => simp [Leads]
  | cons e es ih =>
    simp only [List.cons_append, Leads, ih]
    constructor
    · rintro ⟨s₁, hm, s₂, h, h'⟩
      exact ⟨s₂, ⟨s₁, hm, h⟩, h'⟩
    · rintro ⟨s₂, ⟨s₁, hm, h⟩, h'⟩
      exact ⟨s₁, hm, s₂, h, h'⟩

/-- Where an event stands among others, it leads from a state that those before it lead to. -/
theorem leads_middle {w : World σ} {s s' : σ} {before after : List Event} {e : Event} :
    w.Leads s (before ++ e :: after) s' ↔ ∃ s₁ s₂, w.Leads s before s₁ ∧ w.Moves s₁ e s₂ ∧ w.Leads s₂ after s' := by
  rw [leads_append]
  constructor
  · rintro ⟨s₁, h, s₂, hm, h'⟩
    exact ⟨s₁, s₂, h, hm, h'⟩
  · rintro ⟨s₁, s₂, h, hm, h'⟩
    exact ⟨s₁, h, s₂, hm, h'⟩

/-- The trace of a run leads from its first state to its last one. -/
theorem leads_trace {α : Type} (w : World σ) (p : Program α) (s : σ) : w.Leads s (p.trace w s) (p.run w s).state := by
  induction p generalizing s with
  | done a => rfl
  | noted n next ih => exact ⟨s, rfl, ih s⟩
  | asked ctx c next ih =>
    cases hi : w.interruption? s ctx with
    | some cause =>
      simp only [Program.run, Program.trace, hi]
      exact ⟨s, ⟨hi, rfl⟩, ih _ s⟩
    | none =>
      simp only [Program.run, Program.trace, hi]
      exact ⟨_, ⟨hi, rfl⟩, ih _ _⟩
  | insisted c next ih => exact ⟨_, rfl, ih _ _⟩
  | timed next ih => exact ih _ s
  | surveyed ctx cs next ih =>
    cases hi : w.interruption? s ctx with
    | some cause =>
      simp only [Program.run, Program.trace, hi]
      exact ih _ s
    | none =>
      simp only [Program.run, Program.trace, hi]
      exact ⟨_, ⟨hi, rfl⟩, ih _ _⟩

/-- What holds at first, and after each event before which it has held all along, holds in every state on the way. -/
theorem Leads.induction {w : World σ} {s : σ} {P : σ → Prop} {es : List Event} (h₀ : P s)
    (step : ∀ before e after s₁ s₂, es = before ++ e :: after → w.Leads s before s₁ →
      (∀ earlier s₀, earlier <+: before → w.Leads s earlier s₀ → P s₀) → w.Moves s₁ e s₂ → P s₂) :
    ∀ before s', before <+: es → w.Leads s before s' → P s' := by
  have all_along : ∀ before, before <+: es → ∀ earlier s₀, earlier <+: before → w.Leads s earlier s₀ → P s₀ := by
    -- from the end: what is known of all earlier states is what the step asks for at the last event
    intro before
    induction before using List.reverseRecOn with
    | nil =>
      rintro - earlier s₀ hearlier hl
      obtain rfl := List.prefix_nil.mp hearlier
      cases hl
      exact h₀
    | append_singleton before e ih =>
      intro hes earlier s₀ hearlier hl
      obtain ⟨after, hafter⟩ := hes
      have hes : es = before ++ e :: after := by rw [← hafter, List.append_assoc, List.singleton_append]
      have hbefore := ih ⟨_, hes.symm⟩
      rcases List.prefix_concat_iff.mp hearlier with rfl | hearlier
      · obtain ⟨s₁, hb, he⟩ := leads_append.mp hl
        exact step before e after s₁ s₀ hes hb hbefore (leads_singleton.mp he)
      · exact hbefore earlier s₀ hearlier hl
  exact fun before s' hes hl => all_along before hes before s' (List.prefix_refl before) hl

end World

end Tenancy
