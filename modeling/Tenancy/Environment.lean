import Tenancy.Text.Quoted

/-!
# Environments

The variables that a program is started with. A value is a string of bytes and need not be text.
-/

namespace Tenancy

open Text

/-- Variables with their values. -/
structure Environment where
  entries : List (String × List UInt8)

/-- Why a variable has no text. -/
inductive VariableError where
  | absent
  | notText (bytes : List UInt8)
deriving DecidableEq, Repr

/-- The wording of the error. -/
def VariableError.text : VariableError → String
  | absent => "environment variable not found"
  | notText bytes => "environment variable was not valid unicode: " ++ shownByteString bytes

namespace Environment

/-- The bytes of a variable. -/
def bytes? (env : Environment) (name : String) : Option (List UInt8) :=
  (env.entries.find? fun entry => entry.1 == name).map Prod.snd

/-- The text of a value. -/
def textOf? (bytes : List UInt8) : Option String := (decodeUtf8? bytes.length bytes).map String.ofList

/-- The text of a variable. -/
def read (env : Environment) (name : String) : Except VariableError String :=
  match env.bytes? name with
  | none => .error .absent
  | some bytes =>
    match textOf? bytes with
    | some s => .ok s
    | none => .error (.notText bytes)

/-- The text of a variable, when it has one. -/
def text? (env : Environment) (name : String) : Option String := (env.read name).toOption

/-- The environment with a variable set. -/
def set (env : Environment) (name value : String) : Environment :=
  ⟨(name, value.toUTF8.toList) :: env.entries.filter fun entry => entry.1 != name⟩

end Environment

end Tenancy
