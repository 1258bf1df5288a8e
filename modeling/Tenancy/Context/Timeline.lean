import Tenancy.Context

/-!
# Contexts in time

A timeline knows the time, the tokens that have been given out and cancelled, and the cancellations still to come. Work
that is run under a context races with the cancellation of its token and with its deadline: cancellation wins over the
deadline, and the deadline over the work, when they come at the same time.
-/

namespace Tenancy

/-- The time in milliseconds, and what has become of the tokens. -/
structure Timeline where
  now : Nat := 0
  issued : Nat := 0
  cancelled : List Nat := []
  pending : List (Nat × Nat) := []
deriving DecidableEq, Repr, Inhabited

/-- How a race for the completion of work ends. -/
inductive Race where
  | refused (cause : Interruption)
  | stopped (cause : Interruption)
  | finished
deriving DecidableEq, Repr

namespace Timeline

/-- A new context. -/
def fresh (t : Timeline) : Context × Timeline := ({ token := ⟨[t.issued]⟩ }, { t with issued := t.issued + 1 })

/-- A context with a token below that of another one. -/
def child (t : Timeline) (ctx : Context) : Context × Timeline := (ctx.child t.issued, { t with issued := t.issued + 1 })

/-- Cancels the token of a context. -/
def cancel (t : Timeline) (ctx : Context) : Timeline := { t with cancelled := ctx.token.lineage.take 1 ++ t.cancelled }

/-- Has the token of a context cancelled after some milliseconds. -/
def cancelAfter (t : Timeline) (ctx : Context) (wait : Nat) : Timeline :=
  { t with pending := t.pending ++ (ctx.token.lineage.take 1).map fun number => (t.now + wait, number) }

/-- Whether a token, or one that it descends from, is cancelled. -/
def isCancelled (t : Timeline) (token : Token) : Bool := token.lineage.any fun number => t.cancelled.contains number

/-- Why a context is done; nothing while it is live. -/
def interruption? (t : Timeline) (ctx : Context) : Option Interruption :=
  if t.isCancelled ctx.token then some .canceled else if ctx.isDue t.now then some .deadlineExceeded else none

/-- Moves on to a time, with the cancellations due until then. -/
def moveTo (t : Timeline) (time : Nat) : Timeline :=
  { t with
    now := max t.now time
    cancelled := ((t.pending.filter fun p => p.1 ≤ time).map Prod.snd) ++ t.cancelled
    pending := t.pending.filter fun p => ¬ p.1 ≤ time }

/-- Moves on by some milliseconds. -/
def advance (t : Timeline) (wait : Nat) : Timeline := t.moveTo (t.now + wait)

/-- When the first cancellation to come reaches a token. -/
def cancelTime? (t : Timeline) (token : Token) : Option Nat :=
  ((t.pending.filter fun p => token.lineage.contains p.2).map Prod.fst).min?

/-- When and why a live context will be done. -/
def stop? (t : Timeline) (ctx : Context) : Option (Nat × Interruption) :=
  match t.cancelTime? ctx.token, ctx.deadline with
  | some c, some d => if c ≤ d then some (c, .canceled) else some (d, .deadlineExceeded)
  | some c, none => some (c, .canceled)
  | none, some d => some (d, .deadlineExceeded)
  | none, none => none

/-- How and when work that takes some milliseconds ends under a context. Work that takes no time ends before anything to
come. -/
def raceEnd (t : Timeline) (ctx : Context) (wait : Nat) : Race × Nat :=
  match t.interruption? ctx with
  | some cause => (.refused cause, t.now)
  | none =>
    match t.stop? ctx with
    | some (time, cause) => if wait = 0 ∨ t.now + wait < time then (.finished, t.now + wait) else (.stopped cause, time)
    | none => (.finished, t.now + wait)

/-- How work that takes some milliseconds ends under a context, and the timeline then. While work takes no time, nothing
else comes to pass. -/
def race (t : Timeline) (ctx : Context) (wait : Nat) : Race × Timeline :=
  let (result, time) := t.raceEnd ctx wait
  (result, if wait = 0 then t else t.moveTo time)

end Timeline

end Tenancy
