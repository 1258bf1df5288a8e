import Tenancy.Id
import Tenancy.Telemetry.Filter
import Tenancy.Text.Quoted

/-!
# Spans

Every operation of a service runs in a span of its own, from a start to an end with events in between. What becomes of
them is the tracer's choice: a silent one drops them, a recording one keeps them as they are, and a structured one hands
them to the telemetry of the process as records.
-/

namespace Tenancy.Telemetry

/-- A moment in the life of a span. -/
inductive SpanNote where
  | started (span : String) (principal : Option Id)
  | event (span message : String)
  | ended (span : String)
deriving DecidableEq, Repr

/-- What reaches the telemetry of the process. -/
inductive SpanRecord where
  | opened (span : String)
  | acting (span : String) (principal : Id)
  | entry (level : Level) (span message : String)
  | closed (span : String)
deriving DecidableEq, Repr

/-- The name that all spans of operations have in the telemetry of the process; the name of the operation is a field. -/
def SpanRecord.spanName : String := "operation"

/-- The level of the spans of operations. -/
def SpanRecord.spanLevel : Level := .info

/-- The records that a moment leaves; an end is noted at the lowest level before the span is closed. -/
def SpanNote.records : SpanNote → List SpanRecord
  | started span none => [.opened span]
  | started span (some principal) => [.opened span, .acting span principal]
  | event span message => [.entry .info span message]
  | ended span => [.entry .trace span "span ended", .closed span]

/-- The text that shows a span. -/
def SpanNote.shownSpan (span : String) : String := "SpanGuard \x7b name: " ++ Text.shown span ++ " \x7d"

/-- What becomes of the moments of a span. -/
inductive Tracer where
  | silent
  | recording
  | structured
deriving DecidableEq, Repr, Inhabited

/-- A trace of one span: its start, its events and its end. -/
def SpanNote.life (span : String) (principal : Option Id) (events : List String) : List SpanNote :=
  .started span principal :: events.map (.event span) ++ [.ended span]

end Tenancy.Telemetry
