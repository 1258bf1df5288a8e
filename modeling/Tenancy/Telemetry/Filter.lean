import Tenancy.Labels
import Tenancy.Text.Alphanumeric
import Tenancy.Text.Chars

/-!
# Levels and filters of telemetry

A filter is a list of directives, each a level for the targets that begin with a name. The directive with the longest
name that fits a target decides, the later one of two that are equally long. A target that no directive fits is silent.
A directive may ask for entries inside a span by naming the span in brackets. The spans of this library are named but
never entered, so such a directive lets nothing through.
-/

namespace Tenancy.Telemetry

open Text

/-- How urgent an entry is, from the least to the most. -/
inductive Level where
  | trace
  | debug
  | info
  | warn
  | error
deriving DecidableEq, Repr, Inhabited

instance : Labelled Level where
  all := [.trace, .debug, .info, .warn, .error]
  label
    | .trace => "TRACE"
    | .debug => "DEBUG"
    | .info => "INFO"
    | .warn => "WARN"
    | .error => "ERROR"

/-- The least level that is let through; nothing when none is. -/
abbrev Threshold := Option Level

/-- Whether a threshold lets a level through. -/
def Threshold.admits (t : Threshold) (l : Level) : Bool :=
  match t with
  | some least => Labelled.rank least ≤ Labelled.rank l
  | none => false

/-- The value of a numeral of decimal digits, after a plus sign or alone. -/
def unsigned? (cs : List Char) : Option Nat :=
  let digits := (dropMarker? ['+'] cs).getD cs
  if digits.isEmpty ∨ ¬ digits.all Char.isDigit then none
  else some (digits.foldl (fun n c => 10 * n + (c.toNat - 48)) 0)

/-- Reads a threshold: a level in any case, `off`, or a number from 0 for `off` to 5 for every level. -/
def Threshold.parse? (s : String) : Option Threshold :=
  match unsigned? s.toList with
  | some 0 => some none
  | some 1 => some (some .error)
  | some 2 => some (some .warn)
  | some 3 => some (some .info)
  | some 4 => some (some .debug)
  | some 5 => some (some .trace)
  | some _ => none
  | none =>
    match lower s with
    | "off" => some none
    | name => (Labelled.all.find? fun l : Level => lower (Labelled.label l) == name).map some

/-- A threshold for the targets whose names begin with a text; for those inside a span only, when `inSpan`. -/
structure Directive where
  target : String
  threshold : Threshold
  inSpan : Bool := false
deriving DecidableEq, Repr

/-- Whether a directive may begin with a character. -/
def opensDirective (c : Char) : Bool := isAlphanumeric c || c == '-' || c == ':' || c == '_'

/-- The rest after the span, with a field or without, whose opening bracket has been taken. -/
def afterSpan? (cs : List Char) : Option (List Char) :=
  match cs.dropWhile fun c => c != ']' && c != '\x7b' with
  | ']' :: rest => some rest
  | '\x7b' :: rest =>
    if rest.head? = some '\x7d' then none
    else dropMarker? ['\x7d', ']'] (rest.dropWhile (· != '\x7d'))
  | _ => none

/-- The threshold after a target or span: everything when the level is left out, with the equals sign or without. -/
def levelAfter? (cs : List Char) : Option Threshold :=
  match cs with
  | [] | ['='] => some (some .trace)
  | '=' :: level => Threshold.parse? (String.ofList level)
  | _ => none

/-- Reads a directive: a threshold for every target, or a target, a span in brackets or both, with an equals sign and a
threshold or without. A blank in front is a fault where a threshold or a span follows. -/
def Directive.parse? (s : String) : Option Directive :=
  let cs := s.toList
  let isMark (c : Char) := c == '=' || c == '['
  let target := cs.takeWhile fun c => !isMark c
  match trimStart cs, cs.dropWhile fun c => !isMark c with
  | c :: _, [] =>
    if ¬ opensDirective c then none
    else some (((Threshold.parse? s).map fun t => ⟨"", t, false⟩).getD ⟨s, some .trace, false⟩)
  | _, mark :: rest =>
    let inSpan := mark = '['
    if ¬ (target.head?.map opensDirective).getD inSpan then none
    else do
      let level ← if inSpan then afterSpan? rest else some (mark :: rest)
      return ⟨String.ofList target, ← levelAfter? level, inSpan⟩
  | [], [] => none

/-- Whether a directive is about the entries of a target. -/
def Directive.fits (d : Directive) (target : String) : Bool :=
  !d.inSpan && d.target.toList.isPrefixOf target.toList

/-- Directives, of which the most specific one decides. -/
structure Filter where
  directives : List Directive
deriving DecidableEq, Repr

namespace Filter

/-- The filter of directives; errors only, when there are none. -/
def ofDirectives : List Directive → Filter
  | [] => ⟨[⟨"", some .error, false⟩]⟩
  | ds => ⟨ds⟩

/-- The texts of the directives in a list with commas. -/
def parts (s : String) : List String := ((splitAll ',' s.toList).filter fun cs => !cs.isEmpty).map String.ofList

/-- Reads a filter that has no faulty directive. -/
def parse? (s : String) : Option Filter := ((parts s).mapM Directive.parse?).map ofDirectives

/-- Reads a filter, passing over faulty directives. -/
def parseLenient (s : String) : Filter := ofDirectives ((parts s).filterMap Directive.parse?)

/-- The filter of a process: the one its environment asks for, when that can be read, and otherwise its own. -/
def choose (asked : Option String) (own : String) : Filter := (asked.bind parse?).getD (parseLenient own)

/-- The more specific one of two directives; the second when they are equally so. -/
def moreSpecific (best : Option Directive) (d : Directive) : Option Directive :=
  match best with
  | some b => if d.target.length < b.target.length then some b else some d
  | none => some d

/-- The directive that decides on a target. -/
def deciding? (f : Filter) (target : String) : Option Directive :=
  (f.directives.filter fun d => d.fits target).foldl moreSpecific none

/-- Whether entries of a target and level are let through. -/
def admits (f : Filter) (target : String) (l : Level) : Bool :=
  match f.deciding? target with
  | some d => d.threshold.admits l
  | none => false

end Filter

end Tenancy.Telemetry
