import Tenancy.Proofs.Program.Ensures

/-!
# Programs step by step

A program can be taken one step at a time, so that other programs have their turn in between. A step passes one event between
the program and its world, or none: the question for the time leaves no trace, and neither do components that are not asked
because their context is done. Taken to its end, a program leaves the trace and the outcome of its run (`exists_steps_run`).
-/

namespace Tenancy

/-- What a step of a program brings: what passes between the program and its world, what is left of the program, and the state
of the world afterwards. -/
structure Advance (σ α : Type) where
  events : List Event
  rest : Program α
  state : σ

namespace Program

variable {σ α : Type}

/-- Takes one step of a program in a world. A program that has ended stays as it is. -/
def advance (w : World σ) : Program α → σ → Advance σ α
  | done a, s => ⟨[], done a, s⟩
  | noted n next, s => ⟨[.noted n], next, s⟩
  | asked ctx c next, s =>
    match w.interruption? s ctx with
    | some cause => ⟨[.refused ctx c cause], next (.error (.interrupted cause)), s⟩
    | none =>
      let (r, s) := w.answer s ctx c
      ⟨[.answered ctx c r], next r, s⟩
  | insisted c next, s =>
    let (r, s) := w.insist s c
    ⟨[.insisted c r], next r, s⟩
  | timed next, s => ⟨[], next (w.time s), s⟩
  | surveyed ctx cs next, s =>
    match w.interruption? s ctx with
    | some cause => ⟨[], next (cs.map fun c => (c, .failed (.interruption cause))), s⟩
    | none =>
      let (reports, notes, s) := w.survey s ctx cs
      ⟨[.surveyed ctx cs reports notes], next reports, s⟩

/-- Takes some steps of a program, one after the other. -/
def steps (w : World σ) : Nat → Program α → σ → Advance σ α
  | 0, p, s => ⟨[], p, s⟩
  | n + 1, p, s =>
    let first := p.advance w s
    let later := first.rest.steps w n first.state
    ⟨first.events ++ later.events, later.rest, later.state⟩

variable (w : World σ) (p : Program α) (s : σ)

/-- Step by step, a program comes to its end, and leaves the trace, the value and the state of its run. -/
theorem exists_steps_run : ∃ n, p.steps w n s = ⟨p.trace w s, done (p.run w s).value, (p.run w s).state⟩ := by
  induction p generalizing s with
  | done a => exact ⟨0, rfl⟩
  | noted note next ih =>
    obtain ⟨n, hn⟩ := ih s
    exact ⟨n + 1, by simp [steps, advance, hn, trace, run]⟩
  | asked ctx c next ih =>
    cases hi : w.interruption? s ctx with
    | some cause =>
      obtain ⟨n, hn⟩ := ih (.error (.interrupted cause)) s
      exact ⟨n + 1, by simp [steps, advance, hi, hn, trace, run]⟩
    | none =>
      obtain ⟨n, hn⟩ := ih (w.answer s ctx c).1 (w.answer s ctx c).2
      exact ⟨n + 1, by simp [steps, advance, hi, hn, trace, run]⟩
  | insisted c next ih =>
    obtain ⟨n, hn⟩ := ih (w.insist s c).1 (w.insist s c).2
    exact ⟨n + 1, by simp [steps, advance, hn, trace, run]⟩
  | timed next ih =>
    obtain ⟨n, hn⟩ := ih (w.time s) s
    exact ⟨n + 1, by simp [steps, advance, hn, trace, run]⟩
  | surveyed ctx cs next ih =>
    cases hi : w.interruption? s ctx with
    | some cause =>
      obtain ⟨n, hn⟩ := ih (cs.map fun c => (c, .failed (.interruption cause))) s
      exact ⟨n + 1, by simp [steps, advance, hi, hn, trace, run]⟩
    | none =>
      obtain ⟨n, hn⟩ := ih (w.survey s ctx cs).1 (w.survey s ctx cs).2.2
      exact ⟨n + 1, by simp [steps, advance, hi, hn, trace, run]⟩

/-- A step leaves the state as it is, or comes with one event that leads to the next state. -/
theorem moves_advance : (p.advance w s).events = [] ∧ (p.advance w s).state = s ∨
    ∃ e, (p.advance w s).events = [e] ∧ w.Moves s e (p.advance w s).state := by
  cases p with
  | done a => exact .inl ⟨rfl, rfl⟩
  | noted n next => exact .inr ⟨_, rfl, rfl⟩
  | asked ctx c next =>
    cases hi : w.interruption? s ctx with
    | some cause => simp only [advance, hi]; exact .inr ⟨_, rfl, hi, rfl⟩
    | none => simp only [advance, hi]; exact .inr ⟨_, rfl, hi, rfl⟩
  | insisted c next => exact .inr ⟨_, rfl, rfl⟩
  | timed next => exact .inl ⟨rfl, rfl⟩
  | surveyed ctx cs next =>
    cases hi : w.interruption? s ctx with
    | some cause => exact .inl (by simp [advance, hi])
    | none => simp only [advance, hi]; exact .inr ⟨_, rfl, hi, rfl⟩

/-- What a program ensures is still ensured after a step of it. -/
theorem Ensures.advance {w : World σ} {p : Program α} {past : List Event} {Q : List Event → α → Prop} (h : p.Ensures past Q)
    (s : σ) : (p.advance w s).rest.Ensures (past ++ (p.advance w s).events) Q := by
  cases p with
  | done a => simpa [Program.advance] using h
  | noted n next => exact h
  | asked ctx c next =>
    cases hi : w.interruption? s ctx with
    | some cause => simpa only [Program.advance, hi] using h.1 cause
    | none => simpa only [Program.advance, hi] using h.2 _
  | insisted c next => exact h _
  | timed next => simpa [Program.advance] using h (w.time s)
  | surveyed ctx cs next =>
    cases hi : w.interruption? s ctx with
    | some cause => simpa only [Program.advance, hi, List.append_nil] using h.1 cause
    | none => simpa only [Program.advance, hi] using h.2 _ _

end Program

end Tenancy
