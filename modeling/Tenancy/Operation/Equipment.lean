import Tenancy.Program.Basic

/-!
# What operations are equipped with

Every service has a logger, a tracer, and perhaps a store of permissions. With these each operation runs in a span of its
own, asks whether its principal may do what it does, and joins its own kind with the cause of every failure.
-/

namespace Tenancy

open Telemetry

/-- A logger, by the name under which it logs. -/
structure Logger where
  name : String := "elemo"
deriving DecidableEq, Repr, Inhabited

/-- Something outside the program that a service is given; the name tells two of them apart. -/
structure Endpoint where
  name : String
deriving DecidableEq, Repr, Inhabited

/-- What the operations of a service are equipped with. -/
structure Equipment where
  logger : Logger := {}
  tracer : Tracer := .silent
  permissions : Option Endpoint := none
deriving DecidableEq, Repr, Inhabited

namespace Equipment

variable {α : Type}

/-- Leaves a moment of a span with the tracer. -/
def leave (e : Equipment) (note : SpanNote) : Program Unit :=
  match e.tracer with
  | .silent => pure ()
  | .recording => Program.note (.span note)
  | .structured => note.records.forM fun r => Program.note (.record r)

/-- Runs a body in a span; the span ends whatever the value of the body is. -/
def span (e : Equipment) (ctx : Context) (name : String) (body : Program α) : Program α := do
  e.leave (.started name ctx.principal)
  let value ← body
  e.leave (.ended name)
  return value

/-- Leaves an event in a span. -/
def event (e : Equipment) (span message : String) : Program Unit := e.leave (.event span message)

/-- Logs a message. -/
def log (e : Equipment) (level : Level) (message : String) : Program Unit :=
  Program.note (.logged level e.logger.name message)

/-- An operation: its body runs in a span, and a failure of the body is the cause of the operation's own. -/
def operation (e : Equipment) (ctx : Context) (name : String) (kind : ErrorKind) (body : Step α) :
    Program (Except ServiceError α) :=
  e.span ctx name ((fun r => r.mapError (.join kind)) <$> body.run)

/-- Asks a question about access between two events of a span; only a plain yes counts. -/
def check (e : Equipment) (ctx : Context) (span : String) (c : AccessCall) : Program Bool := do
  e.event span "check permission"
  let answer ← Program.ask ctx (.access c)
  e.event span "permission checked"
  return match answer with
    | .ok yes => yes
    | .error _ => false

/-- Whether a subject holds one of the kinds, or all of them, on a target; not without a store of permissions. -/
def holds (e : Equipment) (ctx : Context) (span : String) (subject target : Id) (kinds : List PermissionKind) :
    Program Bool :=
  match e.permissions with
  | some _ => e.check ctx span (.hasPermission subject target (PermissionKind.withAll kinds))
  | none => return false

/-- Whether the principal holds one of the kinds, or all of them, on a target; not without a principal. -/
def permitted (e : Equipment) (ctx : Context) (span : String) (target : Id) (kinds : List PermissionKind) :
    Program Bool :=
  match ctx.principal with
  | some principal => e.holds ctx span principal target kinds
  | none => return false

/-- Fails unless there is a principal who holds one of the kinds on a target. -/
def authorize (e : Equipment) (ctx : Context) (span : String) (target : Id) (kinds : List PermissionKind) :
    Step Unit := do
  Step.demand ctx.principal.isSome (.kind .noUser)
  Step.demand (← e.permitted ctx span target kinds) (.kind .noPermission)

end Equipment

namespace Step

/-- Fails unless an id names a single resource of a type. -/
def demandId (id : Id) (kind : ResourceType) : Step Unit := demand (id.names kind) (.service .invalidId)

/-- Fails when a record breaks rules, with the complaint about records of its type. -/
def demandValid (kind : ErrorKind) (broken : Violations) : Step Unit :=
  demand broken.isEmpty (.joined kind (.invalid broken))

/-- The principal, who must be there. -/
def principal (ctx : Context) : Step Id :=
  match ctx.principal with
  | some principal => pure principal
  | none => throw (.kind .noUser)

/-- An offset that is not negative and a limit that is positive. -/
def page (offset limit : Int) : Step (Nat × Nat) :=
  if offset < 0 ∨ limit ≤ 0 then throw (.kind .invalidPagination) else pure (offset.toNat, limit.toNat)

end Step

end Tenancy
