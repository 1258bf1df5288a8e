import Tenancy.Environment
import Tenancy.Text.Alphanumeric
import Tenancy.Text.Chars

/-!
# Environment files

A file of lines `name=value` that sets variables which are not set yet. Values may be quoted and then span lines, a
backslash takes the next character as it is, and `$name` or a name in braces after `$` stands for the value of a variable. A
comment begins with `#`, after a blank or at the beginning of a line. The first faulty line ends the reading; the
lines before it count. A value with a null character cannot be set and spoils the whole file.
-/

namespace Tenancy.Environment.File

open Text

/-- Where a line stands as to quotes, escapes and comments. -/
inductive Mode where
  | plain
  | blank
  | escape
  | strong
  | strongEscape
  | weak
  | weakEscape
deriving DecidableEq, Repr

/-- What a character outside quotes leads to. -/
def Mode.outside (c : Char) : Mode :=
  if c = '\\' then .escape else if c = '"' then .weak else if c = '\'' then .strong else .plain

/-- The mode after a character. -/
def Mode.next (m : Mode) (c : Char) : Mode :=
  match m with
  | .plain => if isBlank c ∧ c ≠ '\n' ∧ c ≠ '\r' then .blank else Mode.outside c
  | .blank => Mode.outside c
  | .escape => .plain
  | .strong => if c = '\\' then .strongEscape else if c = '\'' then .plain else .strong
  | .strongEscape => .strong
  | .weak => if c = '\\' then .weakEscape else if c = '"' then .plain else .weak
  | .weakEscape => .weak

/-- Reads to the end of a physical line or to a comment; answers what was read, last character first, and the mode, which
is nothing at a comment. -/
def scanLine : Mode → (taken : List Char) → List Char → List Char × Option Mode
  | m, taken, [] => (taken, some m)
  | m, taken, c :: cs => if m = .blank ∧ c = '#' then (taken, none) else scanLine (m.next c) (c :: taken) cs

/-- The physical line at the head of a text, with its line break, and the rest. -/
def splitLine (cs : List Char) : List Char × List Char :=
  match splitFirst? '\n' cs with
  | some (line, rest) => (line ++ ['\n'], rest)
  | none => (cs, [])

/-- The text without one line break at its end. -/
def dropBreak (reversed : List Char) : List Char :=
  match reversed with
  | '\n' :: '\r' :: rest => rest.reverse
  | '\n' :: rest => rest.reverse
  | rest => rest.reverse

/-- The logical lines of a file, each as text or as nothing when it is never finished; `fuel` bounds the physical lines. -/
def linesFrom : (fuel : Nat) → Mode → (taken : List Char) → List Char → List (Option (List Char))
  | 0, _, _, _ => []
  | fuel + 1, m, taken, cs =>
    if cs.isEmpty then if m = .plain then [] else [none]
    else
      let (line, rest) := splitLine cs
      if taken.isEmpty ∧ (trimStart line).head? = some '#' then some [] :: linesFrom fuel .plain [] rest
      else
        match scanLine m taken line with
        | (read, none) => some read.reverse :: linesFrom fuel .plain [] rest
        | (read, some .plain) => some (dropBreak read) :: linesFrom fuel .plain [] rest
        | (read, some m) => linesFrom fuel m read rest

/-- The logical lines of a file; a byte order mark at its beginning is dropped. -/
def lines (text : String) : List (Option (List Char)) :=
  let cs := text.toList
  let cs :=
    match cs with
    | '\ufeff' :: rest => rest
    | _ => cs
  linesFrom (cs.length + 2) .plain [] cs

/-- Reads a variable name. -/
def name? (cs : List Char) : Option (List Char × List Char) :=
  match cs with
  | c :: _ =>
    if c.isAlpha ∨ c = '_' then
      let inName (c : Char) := c.isAlphanum || c == '_' || c == '.'
      some (cs.takeWhile inName, cs.dropWhile inName)
    else none
  | [] => none

/-- Whether a value is being read inside a name that stands for another value. -/
inductive Reference where
  | none
  | bare
  | braced
deriving DecidableEq, Repr

/-- How far a value has been read. -/
structure Progress where
  strong : Bool := false
  weak : Bool := false
  escaped : Bool := false
  ended : Bool := false
  reference : Reference := .none
  name : List Char := []
  output : List Char := []

/-- The value of a name: of the environment first, else of an earlier line. -/
def lookup (env : Environment) (earlier : List (String × String)) (name : List Char) : List Char :=
  let name := String.ofList name
  match env.text? name with
  | some s => s.toList
  | none => (((earlier.find? fun entry => entry.1 == name).map Prod.snd).getD "").toList

/-- The value with the referenced value in place of the name; names and values are held last character first. -/
def Progress.resolve (value : List Char → List Char) (p : Progress) : Progress :=
  { p with reference := .none, name := [], output := (value p.name.reverse).reverse ++ p.output }

/-- Takes one character of a value; nothing at a fault. -/
def Progress.step (value : List Char → List Char) (p : Progress) (c : Char) : Option Progress :=
  let push (p : Progress) : Progress := { p with output := c :: p.output }
  if p.ended then if c = ' ' ∨ c = '\t' then some p else none
  else if p.escaped then
    if ['\\', '\'', '"', '$', ' '].contains c then some (push { p with escaped := false })
    else if c = 'n' then some { p with escaped := false, output := '\n' :: p.output }
    else none
  else if p.strong then some (if c = '\'' then { p with strong := false } else push p)
  else
    match p.reference with
    | .bare =>
      if isAlphanumeric c then some { p with name := c :: p.name }
      else if c = '\x7b' ∧ p.name.isEmpty then some { p with reference := .braced }
      else
        let p := p.resolve value
        some (if c = '$' then { p with reference := .bare } else push p)
    | .braced =>
      if isAlphanumeric c then some { p with name := c :: p.name }
      else some (if c = '\x7d' then p.resolve value else { p with name := c :: p.name })
    | .none =>
      if c = '$' then some { p with reference := .bare }
      else if p.weak then
        some (if c = '"' then { p with weak := false } else if c = '\\' then { p with escaped := true } else push p)
      else if c = '\'' then some { p with strong := true }
      else if c = '"' then some { p with weak := true }
      else if c = '\\' then some { p with escaped := true }
      else if c = ' ' ∨ c = '\t' then some { p with ended := true }
      else some (push p)

/-- Reads a value; nothing at a fault. A comment ends it once a blank has ended the value itself. -/
def readValue (value : List Char → List Char) : Progress → List Char → Option (List Char)
  | p, [] =>
    if p.reference = .braced ∨ p.strong ∨ p.weak then none else some (p.resolve value).output.reverse
  | p, c :: cs =>
    if p.ended ∧ c = '#' then readValue value p []
    else
      match p.step value c with
      | some p => readValue value p cs
      | none => none

/-- Takes the equals sign at the head of a text. -/
def equalsSign? (cs : List Char) : Option (List Char) :=
  match cs with
  | '=' :: rest => some rest
  | _ => none

/-- The name of a line and the text after the equals sign; `export` may stand before the name. -/
def nameAndRest? (cs : List Char) : Option (List Char × List Char) := do
  let (name, rest) ← name? cs
  let rest := trimStart rest
  match equalsSign? rest with
  | some rest => some (name, rest)
  | none =>
    if name = "export".toList then
      let (name, rest) ← name? rest
      let rest ← equalsSign? (trimStart rest)
      some (name, rest)
    else none

/-- What has been set so far, and the values that lines gave to names. -/
structure Loaded where
  env : Environment
  earlier : List (String × String)

/-- Why the reading of a file ends before its last line. -/
inductive Halt where
  | faultyLine
  | unsettableValue
deriving DecidableEq, Repr

/-- The variables with one more, unless it is set; the value of a variable cannot hold a null character. -/
def Loaded.add (l : Loaded) (name value : String) : Except Halt Loaded :=
  let earlier := (name, value) :: l.earlier
  if (l.env.text? name).isSome then .ok ⟨l.env, earlier⟩
  else if value.toList.contains '\x00' then .error .unsettableValue
  else .ok ⟨l.env.set name value, earlier⟩

/-- The name and the value that a logical line gives it; nothing at a fault. -/
def assignment? (value : List Char → List Char) (cs : List Char) : Option (String × String) := do
  let (name, rest) ← nameAndRest? cs
  let rest := trimStart rest
  let read ← if rest.isEmpty ∨ rest.head? = some '#' then some [] else readValue value {} rest
  return (String.ofList name, String.ofList read)

/-- Takes in one logical line. -/
def Loaded.line (l : Loaded) (cs : List Char) : Except Halt Loaded :=
  let cs := trim cs
  if cs.isEmpty ∨ cs.head? = some '#' then .ok l
  else
    match assignment? (lookup l.env l.earlier) cs with
    | some (name, value) => l.add name value
    | none => .error .faultyLine

/-- Takes in lines up to the first faulty one; nothing when a value cannot be set. -/
def Loaded.lines : Loaded → List (Option (List Char)) → Option Loaded
  | l, [] => some l
  | l, none :: _ => some l
  | l, some line :: rest =>
    match l.line line with
    | .ok l => Loaded.lines l rest
    | .error .faultyLine => some l
    | .error .unsettableValue => none

/-- The environment with the variables of a file that it does not set itself; nothing when a value cannot be set. -/
def load (env : Environment) (text : String) : Option Environment :=
  (Loaded.lines ⟨env, []⟩ (lines text)).map Loaded.env

end Tenancy.Environment.File
