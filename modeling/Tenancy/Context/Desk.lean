import Tenancy.Context.Timeline

/-!
# Contexts under names

A desk keeps contexts under names, on one timeline. Each step derives a context from another one, cancels one, lets time
pass, or runs work under one. A name that nothing is kept under stands for a new context.
-/

namespace Tenancy

/-- Contexts under names, and their timeline. -/
structure Desk where
  timeline : Timeline := {}
  contexts : List (String × Context) := []
deriving Repr, Inhabited

/-- A step on the contexts of a desk. -/
inductive Desk.Step where
  | fresh (name : String)
  | withUser (name : String) (user : Id)
  | withDeadline (name : String) (deadline : Nat)
  | withTimeout (name : String) (timeout : Nat)
  | child (name parent : String)
  | clone (name source : String)
  | cancel (name : String)
  | advance (wait : Nat)
  /-- Runs work that takes some milliseconds; the context is cancelled after some others. -/
  | run (name : String) (wait : Nat) (cancelAfter : Option Nat)
deriving Repr

namespace Desk

/-- The context under a name. -/
def context? (d : Desk) (name : String) : Option Context := (d.contexts.find? fun c => c.1 == name).map Prod.snd

/-- The context under a name, or a new one. -/
def named (d : Desk) (name : String) : Context × Desk :=
  match d.context? name with
  | some ctx => (ctx, d)
  | none =>
    let (ctx, timeline) := d.timeline.fresh
    (ctx, { d with timeline })

/-- Keeps a context under a name. -/
def put (d : Desk) (name : String) (ctx : Context) : Desk :=
  { d with contexts := (d.contexts.filter fun c => c.1 != name) ++ [(name, ctx)] }

/-- Keeps what becomes of the context under a name. -/
def derive (d : Desk) (name : String) (f : Context → Context) : Desk :=
  let (ctx, d) := d.named name
  d.put name (f ctx)

/-- The desk after a step, and how work that was run has ended. -/
def step (d : Desk) : Step → Desk × Option Race
  | .fresh name =>
    let (ctx, timeline) := d.timeline.fresh
    (({ d with timeline } : Desk).put name ctx, none)
  | .withUser name user => (d.derive name fun ctx => ctx.withUser user, none)
  | .withDeadline name deadline => (d.derive name fun ctx => ctx.withDeadline deadline, none)
  | .withTimeout name timeout => (d.derive name fun ctx => ctx.withTimeout d.timeline.now timeout, none)
  | .child name parent =>
    let (ctx, d) := d.named parent
    let (ctx, timeline) := d.timeline.child ctx
    (({ d with timeline } : Desk).put name ctx, none)
  | .clone name source =>
    let (ctx, d) := d.named source
    (d.put name ctx, none)
  | .cancel name =>
    let (ctx, d) := d.named name
    ({ d with timeline := d.timeline.cancel ctx }, none)
  | .advance wait => ({ d with timeline := d.timeline.advance wait }, none)
  | .run name wait cancelAfter =>
    let (ctx, d) := d.named name
    let timeline := (cancelAfter.map (d.timeline.cancelAfter ctx)).getD d.timeline
    let (race, timeline) := timeline.race ctx wait
    ({ d with timeline }, some race)

end Desk

end Tenancy
