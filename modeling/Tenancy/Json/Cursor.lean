/-!
# Places in a text

A reader of JSON text remembers what is left of the text and where it stands, so that every complaint names a line
and a column. Columns count bytes from the last line break.
-/

namespace Tenancy.Json

/-- A line and a column of a text. -/
structure Place where
  line : Nat
  column : Nat
deriving DecidableEq, Repr

/-- A complaint about a text, with the place it is about. -/
structure Fault where
  message : String
  place : Place
deriving DecidableEq, Repr

/-- The wording of a complaint with its place. -/
def Fault.text (f : Fault) : String :=
  f.message ++ " at line " ++ toString f.place.line ++ " column " ++ toString f.place.column

/-- What is left of a text, and where it begins. -/
structure Cursor where
  rest : List Char
  place : Place
deriving Repr

namespace Cursor

/-- The beginning of a text. -/
def ofString (s : String) : Cursor := ⟨s.toList, ⟨1, 0⟩⟩

/-- The place after a character. -/
def after (c : Char) (p : Place) : Place :=
  if c = '\n' then ⟨p.line + 1, 0⟩ else ⟨p.line, p.column + c.utf8Size⟩

/-- One character further. -/
def advance (here : Cursor) : Cursor :=
  match here.rest with
  | [] => here
  | c :: rest => ⟨rest, after c here.place⟩

/-- The place of the first byte that is left, counted as read. -/
def peekPlace (here : Cursor) : Place :=
  match here.rest with
  | [] => here.place
  | '\n' :: _ => ⟨here.place.line + 1, 0⟩
  | _ :: _ => ⟨here.place.line, here.place.column + 1⟩

/-- The place `count` bytes further. -/
def placeAfterBytes : (count : Nat) → List Char → Place → Place
  | 0, _, p => p
  | _, [], p => p
  | count, c :: rest, p =>
    if c.utf8Size ≤ count then placeAfterBytes (count - c.utf8Size) rest (after c p)
    else ⟨p.line, p.column + count⟩

/-- The blanks of JSON. -/
def isBlank (c : Char) : Bool := c == ' ' || c == '\n' || c == '\t' || c == '\r'

/-- The first character that is not blank. -/
def skipBlanksFrom : List Char → Place → Cursor
  | [], p => ⟨[], p⟩
  | c :: rest, p => if isBlank c then skipBlanksFrom rest (after c p) else ⟨c :: rest, p⟩

/-- Further to the first character that is not blank. -/
def skipBlanks (here : Cursor) : Cursor := skipBlanksFrom here.rest here.place

/-- A complaint about what has been read so far. -/
def fault {α : Type} (here : Cursor) (message : String) : Except Fault α := .error ⟨message, here.place⟩

/-- A complaint about the next character. -/
def peekFault {α : Type} (here : Cursor) (message : String) : Except Fault α := .error ⟨message, here.peekPlace⟩

/-- Reads a given word whose first character has been recognised. -/
def word : List Char → Cursor → Except Fault Cursor
  | [], here => .ok here
  | w :: ws, here =>
    match here.rest with
    | [] => here.fault "EOF while parsing a value"
    | c :: _ => if c = w then word ws here.advance else here.peekFault "expected ident"

end Cursor

end Tenancy.Json
