import Tenancy.Failure
import Tenancy.Id

/-!
# Contexts

A context travels through every operation of a service. It says on whose behalf the operation runs, by which token it
can be cancelled, and until when it may run. Deriving a context from another one keeps what it does not replace, and never
lets it run longer.
-/

namespace Tenancy

/-- What a context can be cancelled by: its own number, then the numbers of the tokens that it descends from. -/
structure Token where
  lineage : List Nat
deriving DecidableEq, Repr, Inhabited

/-- The token with a number of its own below another one. -/
def Token.child (t : Token) (number : Nat) : Token := ⟨number :: t.lineage⟩

/-- The circumstances under which an operation runs. Deadlines are in milliseconds on the clock of the process. -/
structure Context where
  principal : Option Id := none
  token : Token
  deadline : Option Nat := none
deriving DecidableEq, Repr, Inhabited

namespace Context

/-- The context on behalf of a user. -/
def withUser (ctx : Context) (user : Id) : Context := { ctx with principal := some user }

/-- The context until a deadline, or until its own one, if that is earlier. -/
def withDeadline (ctx : Context) (deadline : Nat) : Context :=
  { ctx with deadline := some ((ctx.deadline.map (min deadline)).getD deadline) }

/-- The context for some milliseconds from now. -/
def withTimeout (ctx : Context) (now timeout : Nat) : Context := ctx.withDeadline (now + timeout)

/-- The context with a new token below its own one. -/
def child (ctx : Context) (number : Nat) : Context := { ctx with token := ctx.token.child number }

/-- Whether the deadline has come. -/
def isDue (ctx : Context) (now : Nat) : Bool := ctx.deadline.any fun d => d ≤ now

end Context

end Tenancy
