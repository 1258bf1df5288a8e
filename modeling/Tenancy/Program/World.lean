import Tenancy.Program.Basic

/-!
# Running programs

A world says how the collaborators answer, what the time is, and which contexts are done. A call under a context that is
already done is not made at all. A run leaves the notes of the program, among them every call that was made.
-/

namespace Tenancy

open Time

/-- The behaviour of everything outside a program, with states of a type. -/
structure World (σ : Type) where
  /-- The date and time. -/
  time : σ → Instant
  /-- Why a context is done; nothing while it is live. -/
  interruption? : σ → Context → Option Interruption
  /-- A call under a context that is live when it begins. -/
  answer : σ → Context → (c : Call) → Except (Refusal c.Fault) c.Value × σ
  /-- A call outside any context. -/
  insist : σ → (c : Call) → Except c.Fault c.Value × σ
  /-- The reports of components under a context that is live when they are asked, and the notes they leave. -/
  survey : σ → Context → List Component → List (Component × PingReport) × List Note × σ

/-- How a run ends: the notes it left, its value, and the state of the world. -/
structure Outcome (σ α : Type) where
  notes : List Note
  value : α
  state : σ

namespace Outcome

variable {σ α : Type}

/-- The outcome of a run that has left notes before. -/
def after (earlier : List Note) (o : Outcome σ α) : Outcome σ α := { o with notes := earlier ++ o.notes }

end Outcome

namespace Program

variable {σ α : Type}

/-- Runs a program in a world. -/
def run (w : World σ) : Program α → σ → Outcome σ α
  | done a, s => ⟨[], a, s⟩
  | noted n next, s => (next.run w s).after [n]
  | asked ctx c next, s =>
    match w.interruption? s ctx with
    | some cause => (next (.error (.interrupted cause))).run w s
    | none =>
      let (r, s) := w.answer s ctx c
      ((next r).run w s).after [.called c]
  | insisted c next, s =>
    let (r, s) := w.insist s c
    ((next r).run w s).after [.called c]
  | timed next, s => (next (w.time s)).run w s
  | surveyed ctx cs next, s =>
    match w.interruption? s ctx with
    | some cause => (next (cs.map fun c => (c, .failed (.interruption cause)))).run w s
    | none =>
      let (reports, notes, s) := w.survey s ctx cs
      ((next reports).run w s).after notes

end Program

end Tenancy
