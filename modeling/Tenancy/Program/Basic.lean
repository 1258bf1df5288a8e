import Tenancy.Context
import Tenancy.Health
import Tenancy.Program.Call
import Tenancy.Telemetry.Span

/-!
# Programs

An operation of the platform is a program: a tree of calls to collaborators, notes and questions about the time, in which
each answer leads on. A program says nothing about the collaborators; running it in a world does.
-/

namespace Tenancy

open Telemetry Time

/-- What a program leaves behind in the order in which it happens. -/
inductive Note where
  | span (note : SpanNote)
  | record (record : SpanRecord)
  | logged (level : Level) (logger message : String)
  | called (c : Call)
deriving DecidableEq

/-- How a component answers when it is asked for its health. -/
inductive PingReport where
  | healthy
  | failed (cause : Failure)
  | crashed
deriving DecidableEq, Repr

/-- A program that ends with a value. -/
inductive Program (α : Type) where
  /-- Ends with a value. -/
  | done (value : α)
  /-- Leaves a note. -/
  | noted (note : Note) (next : Program α)
  /-- Makes a call under a context. -/
  | asked (ctx : Context) (c : Call) (next : Except (Refusal c.Fault) c.Value → Program α)
  /-- Makes a call outside any context. -/
  | insisted (c : Call) (next : Except c.Fault c.Value → Program α)
  /-- Asks for the time. -/
  | timed (next : Instant → Program α)
  /-- Asks components for their health, all at once and each under the context; the reports come in the order in which they
  are taken in. -/
  | surveyed (ctx : Context) (components : List Component) (next : List (Component × PingReport) → Program α)

namespace Program

variable {α β : Type}

/-- The program that goes on with the value of another one. -/
def bind : Program α → (α → Program β) → Program β
  | done a, f => f a
  | noted n next, f => noted n (next.bind f)
  | asked ctx c next, f => asked ctx c fun r => (next r).bind f
  | insisted c next, f => insisted c fun r => (next r).bind f
  | timed next, f => timed fun t => (next t).bind f
  | surveyed ctx cs next, f => surveyed ctx cs fun r => (next r).bind f

instance : Monad Program where
  pure := done
  bind := bind

theorem bind_done (p : Program α) : p.bind done = p := by
  induction p with
  | done _ => rfl
  | noted n next ih => simp only [bind, ih]
  | asked ctx c next ih => simp only [bind, ih]
  | insisted c next ih => simp only [bind, ih]
  | timed next ih => simp only [bind, ih]
  | surveyed ctx cs next ih => simp only [bind, ih]

theorem bind_assoc {γ : Type} (p : Program α) (f : α → Program β) (g : β → Program γ) :
    (p.bind f).bind g = p.bind fun a => (f a).bind g := by
  induction p with
  | done _ => rfl
  | noted n next ih => simp only [bind, ih]
  | asked ctx c next ih => simp only [bind, ih]
  | insisted c next ih => simp only [bind, ih]
  | timed next ih => simp only [bind, ih]
  | surveyed ctx cs next ih => simp only [bind, ih]

instance : LawfulMonad Program :=
  LawfulMonad.mk' Program (fun p => bind_done p) (fun _ _ => rfl) (fun p f g => bind_assoc p f g)

/-- Leaves a note. -/
def note (n : Note) : Program Unit := noted n (done ())

/-- Makes a call under a context. -/
def ask (ctx : Context) (c : Call) : Program (Except (Refusal c.Fault) c.Value) := asked ctx c done

/-- Makes a call outside any context. -/
def insist (c : Call) : Program (Except c.Fault c.Value) := insisted c done

/-- The time. -/
def time : Program Instant := timed done

/-- The health of components. -/
def survey (ctx : Context) (components : List Component) : Program (List (Component × PingReport)) :=
  surveyed ctx components done

end Program

/-- A part of an operation that may fail with a cause. -/
abbrev Step (α : Type) := ExceptT Failure Program α

namespace Step

/-- Makes a call under a context, and fails when there is no answer. -/
def ask (ctx : Context) (c : Call) : Step c.Value :=
  ExceptT.mk ((fun r => r.mapError c.refused) <$> Program.ask ctx c)

/-- Makes a call outside any context, and fails when there is no answer. -/
def insist (c : Call) : Step c.Value :=
  ExceptT.mk ((fun r => r.mapError c.failure) <$> Program.insist c)

/-- Fails unless a condition holds. -/
def demand (met : Bool) (cause : Failure) : Step Unit := if met then pure () else throw cause

/-- Goes on with the value of another operation, whose failure is the cause. -/
def ofOperation {α : Type} (p : Program (Except ServiceError α)) : Step α :=
  ExceptT.mk ((fun r => r.mapError ServiceError.toFailure) <$> p)

end Step

end Tenancy
