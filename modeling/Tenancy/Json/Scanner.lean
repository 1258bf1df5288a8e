import Tenancy.Json.Numeral
import Tenancy.Text.Chars

/-!
# Reading JSON text

The reader goes through the text once, from left to right, and stops at the first fault. Values can be read or only
passed over; what is passed over is checked for its form alone.
-/

namespace Tenancy.Json

namespace Quoted

/-- Complaint about a text that ends inside a string. -/
def unfinished : String := "EOF while parsing a string"

/-- The number written by the next four hexadecimal digits. -/
def fourDigits (here : Cursor) : Except Fault (Nat × Cursor) :=
  let digits := here.rest.take 4
  if Text.byteLength digits < 4 then
    .error ⟨unfinished, Cursor.placeAfterBytes 4 here.rest here.place⟩
  else
    match Text.Hex.read? digits with
    | some n =>
      if digits.length = 4 then .ok (n, ⟨here.rest.drop 4, Cursor.placeAfterBytes 4 here.rest here.place⟩)
      else .error ⟨"invalid escape", Cursor.placeAfterBytes 4 here.rest here.place⟩
    | none => .error ⟨"invalid escape", Cursor.placeAfterBytes 4 here.rest here.place⟩

/-- Takes an expected character of the second half of a surrogate pair. -/
def expectSecond (c : Char) (here : Cursor) : Except Fault Cursor :=
  match here.rest with
  | [] => here.fault unfinished
  | d :: _ => if c = d then .ok here.advance else here.peekFault "unexpected end of hex escape"

/-- The character of an escape by number; a high surrogate needs a low one after it. -/
def numbered (here : Cursor) : Except Fault (Char × Cursor) := do
  let (n, here) ← fourDigits here
  if 0xDC00 ≤ n ∧ n ≤ 0xDFFF then here.fault "lone leading surrogate in hex escape"
  else if 0xD800 ≤ n ∧ n ≤ 0xDBFF then
    let here ← expectSecond '\\' here
    let here ← expectSecond 'u' here
    let (m, here) ← fourDigits here
    if 0xDC00 ≤ m ∧ m ≤ 0xDFFF then
      return (Char.ofNat ((n - 0xD800) * 0x400 + (m - 0xDC00) + 0x10000), here)
    else here.fault "lone leading surrogate in hex escape"
  else return (Char.ofNat n, here)

/-- The character that a one-letter escape stands for. -/
def escaped? : Char → Option Char
  | '"' => some '"'
  | '\\' => some '\\'
  | '/' => some '/'
  | 'b' => some '\x08'
  | 'f' => some '\x0c'
  | 'n' => some '\n'
  | 'r' => some '\r'
  | 't' => some '\t'
  | _ => none

/-- Reads the rest of a string after its opening quote; `strict` also checks surrogates, and counts a control character
at which the reading stops as read. -/
def body (strict : Bool) : (fuel : Nat) → (taken : List Char) → Cursor → Except Fault (String × Cursor)
  | 0, _, here => here.fault unfinished
  | fuel + 1, taken, here =>
    match here.rest with
    | [] => here.fault unfinished
    | '"' :: _ => .ok (String.ofList taken.reverse, here.advance)
    | '\\' :: _ =>
      let letter := here.advance
      match letter.rest with
      | [] => letter.fault unfinished
      | 'u' :: _ =>
        if strict then
          match numbered letter.advance with
          | .error f => .error f
          | .ok (c, here) => body strict fuel (c :: taken) here
        else
          match fourDigits letter.advance with
          | .error f => .error f
          | .ok (_, here) => body strict fuel taken here
      | e :: _ =>
        match escaped? e with
        | some c => body strict fuel (c :: taken) letter.advance
        | none => letter.peekFault "invalid escape"
    | c :: _ =>
      if c.toNat < 32 then
        let message := "control character (\\u0000-\\u001F) found while parsing a string"
        if strict then here.peekFault message else here.fault message
      else body strict fuel (c :: taken) here.advance

/-- The number of characters up to the closing quote and with it, added to `count`; a backslash takes the next
character along. -/
def extent : (count : Nat) → List Char → Nat
  | count, [] => count + 1
  | count, '"' :: _ => count + 1
  | count, '\\' :: _ :: cs => extent (count + 2) cs
  | count, _ :: cs => extent (count + 1) cs

/-- Reads a string; the next character is its opening quote. -/
def read (here : Cursor) : Except Fault (String × Cursor) :=
  let inside := here.advance
  body true (extent 0 inside.rest) [] inside

/-- Passes over a string. -/
def skip (here : Cursor) : Except Fault Cursor :=
  let inside := here.advance
  (body false (extent 0 inside.rest) [] inside).map Prod.snd

end Quoted

/-- Complaint about a text that ends before a value. -/
def noValue : String := "EOF while parsing a value"

/-- Complaint about a text that ends inside a list. -/
def openList : String := "EOF while parsing a list"

/-- Complaint about a text that ends inside an object. -/
def openObject : String := "EOF while parsing an object"

/-- Reads the colon between a key and its value. -/
def colon (here : Cursor) : Except Fault Cursor :=
  let here := here.skipBlanks
  match here.rest with
  | ':' :: _ => .ok here.advance
  | [] => here.peekFault openObject
  | _ => here.peekFault "expected `:`"

/-- Goes to the next element of a list, or to the bracket that ends it. -/
def nextElement? (first : Bool) (here : Cursor) : Except Fault (Option Cursor × Cursor) :=
  let here := here.skipBlanks
  match here.rest with
  | [] => here.peekFault openList
  | ']' :: _ => .ok (none, here)
  | c :: _ =>
    if first then .ok (some here, here)
    else if c = ',' then
      let here := here.advance.skipBlanks
      match here.rest with
      | [] => here.peekFault noValue
      | ']' :: _ => here.peekFault "trailing comma"
      | _ => .ok (some here, here)
    else here.peekFault "expected `,` or `]`"

/-- Goes to the next key of an object, or to the brace that ends it. -/
def nextKey? (first : Bool) (here : Cursor) : Except Fault (Option Cursor × Cursor) :=
  let here := here.skipBlanks
  match here.rest with
  | [] => here.peekFault openObject
  | '\x7d' :: _ => .ok (none, here)
  | c :: _ =>
    if first then if c = '"' then .ok (some here, here) else here.peekFault "key must be a string"
    else if c = ',' then
      let here := here.advance.skipBlanks
      match here.rest with
      | [] => here.peekFault noValue
      | '"' :: _ => .ok (some here, here)
      | '\x7d' :: _ => here.peekFault "trailing comma"
      | _ => here.peekFault "key must be a string"
    else here.peekFault "expected `,` or `\x7d`"

mutual

/-- Reads any value, at most `depth` lists and objects deep. -/
def anyValue : (fuel depth : Nat) → Cursor → Except Fault (Json × Cursor)
  | 0, _, here => here.fault noValue
  | fuel + 1, depth, here =>
    let here := here.skipBlanks
    match here.rest with
    | [] => here.peekFault noValue
    | 'n' :: _ => (Cursor.word "null".toList here).map fun here => (.null, here)
    | 't' :: _ => (Cursor.word "true".toList here).map fun here => (.bool true, here)
    | 'f' :: _ => (Cursor.word "false".toList here).map fun here => (.bool false, here)
    | '"' :: _ => (Quoted.read here).map fun (s, here) => (.string s, here)
    | '[' :: _ =>
      if depth ≤ 1 then here.peekFault "recursion limit exceeded"
      else (anyItems fuel (depth - 1) true [] here.advance).map fun (items, here) => (.array items, here)
    | '\x7b' :: _ =>
      if depth ≤ 1 then here.peekFault "recursion limit exceeded"
      else (anyFields fuel (depth - 1) true [] here.advance).map fun (fields, here) => (.object fields, here)
    | c :: _ => if c = '-' ∨ c.isDigit then Numeral.read here else here.peekFault "expected value"

/-- Reads the items of a list and the bracket that ends it. -/
def anyItems : (fuel depth : Nat) → (first : Bool) → List Json → Cursor → Except Fault (List Json × Cursor)
  | 0, _, _, _, here => here.fault openList
  | fuel + 1, depth, first, taken, here =>
    match nextElement? first here with
    | .error f => .error f
    | .ok (none, here) => .ok (taken.reverse, here.advance)
    | .ok (some here, _) =>
      match anyValue fuel depth here with
      | .error f => .error f
      | .ok (item, here) => anyItems fuel depth false (item :: taken) here

/-- Reads the fields of an object and the brace that ends it. -/
def anyFields : (fuel depth : Nat) → (first : Bool) → List (String × Json) → Cursor →
    Except Fault (List (String × Json) × Cursor)
  | 0, _, _, _, here => here.fault openObject
  | fuel + 1, depth, first, taken, here =>
    match nextKey? first here with
    | .error f => .error f
    | .ok (none, here) => .ok (taken.reverse, here.advance)
    | .ok (some here, _) =>
      match Quoted.read here with
      | .error f => .error f
      | .ok (name, here) =>
        match colon here with
        | .error f => .error f
        | .ok here =>
          match anyValue fuel depth here with
          | .error f => .error f
          | .ok (value, here) => anyFields fuel depth false ((name, value) :: taken) here

end

/-- The deepest nesting that is read. -/
def deepest : Nat := 128

/-- Reads the next value, which stands inside `outer` lists and objects. -/
def readValueIn (outer : Nat) (here : Cursor) : Except Fault (Json × Cursor) :=
  anyValue (2 * here.rest.length + 2) (deepest - outer) here

/-- Reads the next value, which stands alone. -/
def readValue (here : Cursor) : Except Fault (Json × Cursor) := readValueIn 0 here

/-- Reads the value of a field of the outermost object. -/
def readFieldValue (here : Cursor) : Except Fault (Json × Cursor) := readValueIn 1 here

/-- Passes over the rest of the lists and objects that are open, innermost first (true for an object); `wantsValue` says
that a value is next, `comma` that a comma may be. -/
def skipRest : (fuel : Nat) → (nested : List Bool) → (wantsValue comma : Bool) → Cursor → Except Fault Cursor
  | 0, _, _, _, here => here.fault noValue
  | fuel + 1, nested, true, _, here =>
    let here := here.skipBlanks
    let scalar (step : Except Fault Cursor) : Except Fault Cursor :=
      match step with
      | .error f => .error f
      | .ok here => skipRest fuel nested false true here
    match here.rest with
    | [] => here.peekFault noValue
    | 'n' :: _ => scalar (Cursor.word "null".toList here)
    | 't' :: _ => scalar (Cursor.word "true".toList here)
    | 'f' :: _ => scalar (Cursor.word "false".toList here)
    | '"' :: _ => scalar (Quoted.skip here)
    | '[' :: _ => skipRest fuel (false :: nested) false false here.advance
    | '\x7b' :: _ => skipRest fuel (true :: nested) false false here.advance
    | c :: _ => if c = '-' ∨ c.isDigit then scalar (Numeral.skip here) else here.peekFault "expected value"
  | _ + 1, [], false, _, here => .ok here
  | fuel + 1, inObject :: outer, false, comma, here =>
    let here := here.skipBlanks
    let element (here : Cursor) : Except Fault Cursor :=
      if ¬ inObject then skipRest fuel (inObject :: outer) true true here
      else
        let here := here.skipBlanks
        match here.rest with
        | '"' :: _ =>
          match (Quoted.skip here).bind colon with
          | .error f => .error f
          | .ok here => skipRest fuel (inObject :: outer) true true here
        | [] => here.peekFault openObject
        | _ => here.peekFault "key must be a string"
    match here.rest with
    | [] => here.peekFault (if inObject then openObject else openList)
    | c :: _ =>
      if c = ',' ∧ comma then element here.advance
      else if c = (if inObject then '\x7d' else ']') then skipRest fuel outer false true here.advance
      else if comma then
        here.peekFault (if inObject then "expected `,` or `\x7d`" else "expected `,` or `]`")
      else element here

/-- Passes over the next value. -/
def skipValue (here : Cursor) : Except Fault Cursor :=
  skipRest (3 * here.rest.length + 3) [] true false here

/-- Nothing but blanks may follow the value. -/
def finish (here : Cursor) : Except Fault Unit :=
  let here := here.skipBlanks
  match here.rest with
  | [] => .ok ()
  | _ => here.peekFault "trailing characters"

/-- Reads a whole text as one value. -/
def parse (s : String) : Except Fault Json := do
  let (j, here) ← readValue (Cursor.ofString s)
  finish here
  return j

end Tenancy.Json
