import Tenancy.Mail.Address
import Tenancy.Net.Url

/-!
# Validation of records

A record type lists its text fields with the rules that each must keep. A field that is not set keeps every rule. The
violations of a record are its failing fields with the rules that they break.
-/

namespace Tenancy

/-- A rule on a text. -/
inductive Rule where
  | length (least greatest : Option Nat)
  | email
  | url
deriving DecidableEq, Repr

namespace Rule

/-- Whether a text keeps the rule; its length is counted in characters. -/
def holds : Rule → String → Bool
  | length least greatest, s => least.all (· ≤ s.length) && greatest.all (s.length ≤ ·)
  | email, s => Mail.Address.isAddress s
  | url, s => Net.Url.isUrl s

/-- The name of the rule. -/
def code : Rule → String
  | length _ _ => "length"
  | email => "email"
  | url => "url"

end Rule

/-- A text field of a record, with its rules. -/
structure RuledField (α : Type) where
  name : String
  value : α → Option String
  rules : List Rule

/-- The rules of a field that a record breaks. -/
def RuledField.broken {α : Type} (f : RuledField α) (a : α) : List Rule :=
  match f.value a with
  | none => []
  | some s => f.rules.filter fun r => !r.holds s

/-- Failing fields with the rules they break. -/
abbrev Violations := List (String × List Rule)

/-- The violations of a record. -/
def violations {α : Type} (fields : List (RuledField α)) (a : α) : Violations :=
  (fields.map fun f => (f.name, f.broken a)).filter fun entry => !entry.2.isEmpty

end Tenancy
