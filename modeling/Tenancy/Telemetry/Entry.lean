import Tenancy.Json.Basic
import Tenancy.Telemetry.Span

/-!
# Telemetry entries

An entry of a logger or a span as it is written out: as a line of text, or as an object.
-/

namespace Tenancy.Telemetry

open Text

/-- The span that an entry belongs to, with its fields. -/
structure SpanScope where
  operation : String
  principal : Option Id
deriving DecidableEq, Repr

/-- An entry with its place of origin. -/
structure Entry where
  level : Level
  target : String
  message : String
  service : Option String := none
  scope : Option SpanScope := none
deriving DecidableEq, Repr

namespace Entry

/-- The entry of a logger that a service owns. -/
def logged (level : Level) (service message : String) : Entry where
  level
  target := "elemo_core::telemetry::logger"
  message
  service

/-- The entry that a second installation of the telemetry leaves. -/
def alreadyInstalled : Entry where
  level := .debug
  target := "elemo_core::telemetry"
  message := "tracing subscriber already installed"

/-- The entries of a span with its events. -/
def ofSpan (operation : String) (principal : Option Id) (events : List String) : List Entry :=
  ((SpanNote.life operation principal events).flatMap SpanNote.records).filterMap fun
    | .entry level _ message =>
      some { level, target := "elemo_core::telemetry::tracer", message, scope := some ⟨operation, principal⟩ }
    | _ => none

/-- A span with its fields in a line of text. -/
def scopeText (s : SpanScope) : String :=
  let principal := (s.principal.map fun id => " principal=" ++ id.text).getD ""
  SpanRecord.spanName ++ "\x7bname=" ++ s.operation ++ principal ++ "\x7d: "

/-- The name of a level, with blanks before it up to five characters. -/
def levelText (l : Level) : String :=
  let name := Labelled.label l
  String.ofList (List.replicate (5 - name.length) ' ') ++ name

/-- A character of a message in a line of text: one that a terminal could take for a command is escaped. -/
def messageChar (c : Char) : List Char :=
  let n := c.toNat
  if c == '\x07' || c == '\x08' || c == '\x0c' || c == '\x1b' || c == '\x7f' then '\\' :: 'x' :: Hex.write 2 n
  else if 0x80 ≤ n && n ≤ 0x9f then codePointEscape c
  else [c]

/-- An entry as a line of text, without its time. -/
def line (e : Entry) : String :=
  levelText e.level ++ " " ++ (e.scope.map scopeText).getD "" ++ e.target ++ ": " ++
    String.ofList (e.message.toList.flatMap messageChar) ++ (e.service.map fun s => " service=" ++ shown s).getD ""

/-- A span with its fields in JSON; the name of the span stands where the field of that name would. -/
def scopeJson (s : SpanScope) : Json :=
  .object (("name", .string SpanRecord.spanName) ::
    (s.principal.map fun id => ("principal", Json.string id.text)).toList)

/-- An entry as an object, without its time. Its span is named but never entered, so no span encloses it. -/
def toJson (e : Entry) : Json :=
  .object ([("level", .string (Labelled.label e.level)), ("message", .string e.message)] ++
    (e.service.map fun s => ("service", Json.string s)).toList ++ [("target", .string e.target)] ++
    match e.scope with
    | some s => [("span", scopeJson s), ("spans", .array [])]
    | none => [])

/-- Whether a format asks for objects. -/
def isStructured (format : String) : Bool := format == "json"

/-- The entries that a filter lets through, in order. -/
def admitted (f : Filter) (entries : List Entry) : List Entry := entries.filter fun e => f.admits e.target e.level

end Entry

end Tenancy.Telemetry
