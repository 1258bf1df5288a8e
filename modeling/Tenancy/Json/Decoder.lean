import Tenancy.Json.Scanner
import Tenancy.Labels

/-!
# Decoding records from JSON

A decoder says how a type is read from a JSON value and how it is read from JSON text. From a value, the fields of an
object are judged in the order in which the object holds them, and missing fields are reported after that in the order
of declaration. From text, the first fault in reading order is reported with its place. A record can also be read from
a list that holds its fields in the order of declaration.
-/

namespace Tenancy.Json

/-- Reads one value from a text; the value is already judged. -/
abbrev Scan := Cursor → Except Fault (Json × Cursor)

/-- How a value reaches its decoder: at once, or set aside until every field of an object for two records is read. -/
inductive Arrival where
  | direct
  | setAside
deriving DecidableEq, Repr

/-- How a type is read from a value and from text. -/
structure Decoder (α : Type) where
  judge : Arrival → Json → Except String α
  scan : Scan

/-- Reads a value that stands alone. -/
def Decoder.ofJson {α : Type} (d : Decoder α) (j : Json) : Except String α := d.judge .direct j

/-- Complaint about a value of the wrong type. -/
def wrongType (j : Json) (expected : String) : String := "invalid type: " ++ j.describe ++ ", expected " ++ expected

/-- Complaint about a value of the right type that is not admissible. -/
def wrongValue (found expected : String) : String := "invalid value: " ++ found ++ ", expected " ++ expected

/-- Complaint about a field that is not there. -/
def missingField (name : String) : String := "missing field `" ++ name ++ "`"

/-- Complaint about a field that is there twice. -/
def duplicateField (name : String) : String := "duplicate field `" ++ name ++ "`"

/-- Complaint about a list of the wrong length. -/
def wrongLength (found : Nat) (expected : String) : String :=
  "invalid length " ++ toString found ++ ", expected " ++ expected

/-- Complaint about the value that comes next in a text, which is not of the expected type. -/
def typeFault {α : Type} (expected : String) (here : Cursor) : Except Fault α :=
  let complain (step : Except Fault (Json × Cursor)) : Except Fault α :=
    match step with
    | .error f => .error f
    | .ok (j, here) => here.fault (wrongType j expected)
  match here.rest with
  | [] => here.peekFault noValue
  | 'n' :: _ => complain ((Cursor.word "null".toList here).map fun here => (.null, here))
  | 't' :: _ => complain ((Cursor.word "true".toList here).map fun here => (.bool true, here))
  | 'f' :: _ => complain ((Cursor.word "false".toList here).map fun here => (.bool false, here))
  | '"' :: _ => complain ((Quoted.read here).map fun (s, here) => (.string s, here))
  | '[' :: _ => here.fault (wrongType (.array []) expected)
  | '\x7b' :: _ => here.fault (wrongType (.object []) expected)
  | c :: _ => if c = '-' ∨ c.isDigit then complain (Numeral.read here) else here.peekFault "expected value"

/-- A judgement on a value just read, placed where the reader stands. -/
def judged {α : Type} (verdict : Except String α) (j : Json) (here : Cursor) : Except Fault (Json × Cursor) :=
  match verdict with
  | .error message => here.fault message
  | .ok _ => .ok (j, here)

namespace Decoder

variable {α β : Type}

/-- Reads a value of type `α` as `f` makes it a `β`. -/
def map (f : α → β) (d : Decoder α) : Decoder β := ⟨fun arrival j => (d.judge arrival j).map f, d.scan⟩

/-- A type whose values are written as strings. -/
def ofText (expected : String) (parse : String → Except String α) : Decoder α where
  judge
    | _, .string s => parse s
    | _, j => .error (wrongType j expected)
  scan here :=
    let here := here.skipBlanks
    match here.rest with
    | '"' :: _ =>
      match Quoted.read here with
      | .error f => .error f
      | .ok (s, here) => judged (parse s) (.string s) here
    | _ => typeFault expected here

/-- Any string. -/
def text : Decoder String := ofText "a string" .ok

/-- Whether a value is an unsigned number of 32 bits, and which. -/
def natural32OfJson : Json → Except String UInt32
  | .integer n =>
    if 0 ≤ n ∧ n < 4294967296 then .ok (UInt32.ofNat n.toNat)
    else .error (wrongValue ((Json.integer n).describe) "u32")
  | j => .error (wrongType j "u32")

/-- An unsigned number of 32 bits. -/
def natural32 : Decoder UInt32 where
  judge _ := natural32OfJson
  scan here :=
    let here := here.skipBlanks
    match here.rest with
    | [] => here.peekFault noValue
    | c :: _ =>
      if c = '-' ∨ c.isDigit then
        match Numeral.read here with
        | .error f => .error f
        | .ok (j, here) => judged (natural32OfJson j) j here
      else typeFault "u32" here

/-- The labels of alternatives as a complaint lists them. -/
def alternatives (labels : List String) : String :=
  match labels.map fun l => "`" ++ l ++ "`" with
  | [] => "there are no variants"
  | [a] => "expected " ++ a
  | [a, b] => "expected " ++ a ++ " or " ++ b
  | all => "expected one of " ++ String.intercalate ", " all

/-- The alternative with a given label. -/
def ofLabel [Labelled α] (s : String) : Except String α :=
  match Labelled.ofLabel? s with
  | some a => .ok a
  | none =>
    .error ("unknown variant `" ++ s ++ "`, " ++ alternatives ((Labelled.all (α := α)).map Labelled.label))

/-- Whether a value says nothing: null, and among values that were set aside also an object without fields. -/
def isUnit : Arrival → Json → Bool
  | _, .null => true
  | .setAside, .object [] => true
  | _, _ => false

/-- An alternative, written as its label or as an object that maps the label to null. -/
def judgeChoice [Labelled α] (arrival : Arrival) : Json → Except String α
  | .string s => ofLabel s
  | .object [(s, content)] =>
    match ofLabel s with
    | .error message => .error message
    | .ok a => if isUnit arrival content then .ok a else .error (wrongType content "unit")
  | .object _ => .error (wrongValue "map" "map with a single key")
  | j => .error (wrongType j "string or map")

/-- Reads an alternative from text. -/
def scanChoice (α : Type) [Labelled α] : Scan := fun here =>
  let here := here.skipBlanks
  match here.rest with
  | [] => here.peekFault noValue
  | '"' :: _ =>
    match Quoted.read here with
    | .error f => .error f
    | .ok (s, here) => judged (ofLabel (α := α) s) (.string s) here
  | '\x7b' :: _ => do
    let here := here.advance.skipBlanks
    let (label, here) ←
      match here.rest with
      | '"' :: _ => do
        let (s, here) ← Quoted.read here
        judged (ofLabel (α := α) s) (.string s) here
      | _ => typeFault "variant identifier" here
    let here := (← colon here).skipBlanks
    let here ←
      match here.rest with
      | 'n' :: _ => Cursor.word "null".toList here
      | _ => typeFault "unit" here
    let here := here.skipBlanks
    match here.rest with
    | '\x7d' :: _ => .ok (label, here.advance)
    | [] => here.fault openObject
    | _ => here.fault "expected value"
  | _ => here.peekFault "expected value"

/-- One of a closed set of alternatives. -/
def choice [Labelled α] : Decoder α := ⟨judgeChoice, scanChoice α⟩

/-- A value that may be null. -/
def nullable (d : Decoder α) : Decoder (Option α) where
  judge
    | _, .null => .ok none
    | arrival, j => (d.judge arrival j).map some
  scan here :=
    let here := here.skipBlanks
    match here.rest with
    | 'n' :: _ => (Cursor.word "null".toList here).map fun here => (.null, here)
    | _ => d.scan here

/-- Reads the elements of a list up to the closing bracket. -/
def scanElements (scan : Scan) : (fuel : Nat) → (first : Bool) → List Json → Scan
  | 0, _, _, here => here.fault openList
  | fuel + 1, first, taken, here =>
    match nextElement? first here with
    | .error f => .error f
    | .ok (none, here) => .ok (.array taken.reverse, here.advance)
    | .ok (some here, _) =>
      match scan here with
      | .error f => .error f
      | .ok (item, here) => scanElements scan fuel false (item :: taken) here

/-- A list of values. -/
def list (d : Decoder α) : Decoder (List α) where
  judge
    | arrival, .array items => items.mapM (d.judge arrival)
    | _, j => .error (wrongType j "a sequence")
  scan here :=
    let here := here.skipBlanks
    match here.rest with
    | '[' :: _ => scanElements d.scan (here.rest.length + 1) true [] here.advance
    | _ => typeFault "a sequence" here

/-- Reads the entries of a map up to the closing brace. -/
def scanEntries (keys values : Scan) : (fuel : Nat) → (first : Bool) → List (String × Json) → Scan
  | 0, _, _, here => here.fault openObject
  | fuel + 1, first, taken, here =>
    match nextKey? first here with
    | .error f => .error f
    | .ok (none, here) => .ok (.object taken.reverse, here.advance)
    | .ok (some here, _) =>
      match keys here with
      | .error f => .error f
      | .ok (key, here) =>
        match (colon here).bind values with
        | .error f => .error f
        | .ok (value, here) =>
          let name :=
            match key with
            | .string s => s
            | _ => ""
          scanEntries keys values fuel false ((name, value) :: taken) here

/-- A map from alternatives to values, as the list of its entries. -/
def table [Labelled α] (d : Decoder β) : Decoder (List (α × β)) where
  judge
    | arrival, .object fields => fields.mapM fun (name, value) => do return (← ofLabel name, ← d.judge arrival value)
    | _, j => .error (wrongType j "a map")
  scan here :=
    let here := here.skipBlanks
    match here.rest with
    | '\x7b' :: _ => scanEntries (scanChoice α) d.scan (here.rest.length + 1) true [] here.advance
    | _ => typeFault "a map" here

end Decoder

/-- What one field of a record must be. -/
structure Field where
  name : String
  check : Arrival → Json → Except String Unit
  scan : Scan
  optional : Bool
  defaulted : Bool

/-- The fields of a record in order of declaration, and how the record is made of their values. -/
structure Fields (α : Type) where
  specs : List Field
  build : Arrival → List (Option Json) → Except String α

namespace Fields

variable {α β : Type}

/-- A record without fields. -/
def pure (a : α) : Fields α := ⟨[], fun _ _ => .ok a⟩

/-- A record with the fields of both. -/
def seq (f : Fields (α → β)) (x : Fields α) : Fields β where
  specs := f.specs ++ x.specs
  build arrival slots := do
    let g ← f.build arrival (slots.take f.specs.length)
    let a ← x.build arrival (slots.drop f.specs.length)
    return g a

instance : Applicative Fields where
  pure := Fields.pure
  seq f x := Fields.seq f (x ())

/-- A field that must be there. -/
def required (name : String) (d : Decoder α) : Fields α where
  specs := [⟨name, fun arrival j => (d.judge arrival j).map fun _ => (), d.scan, false, false⟩]
  build
    | arrival, some j :: _ => d.judge arrival j
    | _, _ => .error (missingField name)

/-- A field that may be absent or null. -/
def optional (name : String) (d : Decoder α) : Fields (Option α) where
  specs := [⟨name, fun arrival j => (d.nullable.judge arrival j).map fun _ => (), d.nullable.scan, true, false⟩]
  build
    | arrival, some j :: _ => d.nullable.judge arrival j
    | _, _ => .ok none

/-- A field that has a value of its own when absent. -/
def defaulted (name : String) (d : Decoder α) (default : α) : Fields α where
  specs := [⟨name, fun arrival j => (d.judge arrival j).map fun _ => (), d.scan, false, true⟩]
  build
    | arrival, some j :: _ => d.judge arrival j
    | _, _ => .ok default

/-- Puts the known fields of an object into their places, judging each in turn. -/
def fill (arrival : Arrival) (specs : List Field) : (slots : List (Option Json)) → List (String × Json) →
    Except String (List (Option Json))
  | slots, [] => .ok slots
  | slots, (name, value) :: rest =>
    match specs.findIdx? fun f => f.name == name with
    | none => fill arrival specs slots rest
    | some i =>
      match specs[i]?, slots[i]? with
      | some f, some none =>
        match f.check arrival value with
        | .error message => .error message
        | .ok _ => fill arrival specs (slots.set i (some value)) rest
      | _, _ => .error (duplicateField name)

/-- Places without values. -/
def blank (fs : Fields α) : List (Option Json) := List.replicate fs.specs.length none

/-- Reads a record from the fields of an object. -/
def ofFields (arrival : Arrival) (fs : Fields α) (fields : List (String × Json)) : Except String α :=
  match fill arrival fs.specs fs.blank fields with
  | .error message => .error message
  | .ok slots => fs.build arrival slots

/-- Judges the items of a list as the fields of a record; answers the places and the items left over. -/
def fillItems (arrival : Arrival) (expected : String) : (index : Nat) → List Field → List Json →
    Except String (List (Option Json) × List Json)
  | _, [], items => .ok ([], items)
  | index, f :: specs, [] =>
    if f.defaulted then
      (fillItems arrival expected (index + 1) specs []).map fun (slots, rest) => (none :: slots, rest)
    else .error (wrongLength index expected)
  | index, f :: specs, item :: items =>
    match f.check arrival item with
    | .error message => .error message
    | .ok _ =>
      (fillItems arrival expected (index + 1) specs items).map fun (slots, rest) => (some item :: slots, rest)

/-- A number of elements in words. -/
def elements (count : Nat) : String := toString count ++ (if count = 1 then " element" else " elements")

/-- What a record of this name is called in complaints. -/
def title (name : String) : String := "struct " ++ name

/-- What a record of this name and length is called in complaints about a list. -/
def sizedTitle (name : String) (size : Nat) : String :=
  title name ++ " with " ++ elements size

/-- What is called for where a list has more items than a record has fields. -/
def fewerItems (arrival : Arrival) (size : Nat) : String :=
  match arrival with
  | .direct => "fewer elements in array"
  | .setAside => elements size ++ " in sequence"

/-- Reads a record from a list of its fields. -/
def ofItems (arrival : Arrival) (name : String) (fs : Fields α) (items : List Json) : Except String α :=
  match fillItems arrival (sizedTitle name fs.specs.length) 0 fs.specs items with
  | .error message => .error message
  | .ok (slots, rest) =>
    if rest.isEmpty then fs.build arrival slots
    else .error (wrongLength items.length (fewerItems arrival fs.specs.length))

/-- The place after an object whose reading was broken off: behind its closing brace when that is next. -/
def afterObject (here : Cursor) : Cursor :=
  let here := here.skipBlanks
  match here.rest with
  | '\x7d' :: _ => here.advance
  | _ => here

/-- The place after a list whose reading was broken off: behind its closing bracket when that is next. -/
def afterList (here : Cursor) : Cursor :=
  let here := here.skipBlanks
  match here.rest with
  | ']' :: _ => here.advance
  | ',' :: _ => here.advance.skipBlanks
  | _ => here

/-- Reads the fields of an object from text up to the closing brace. Unknown fields are passed over, or read when
`keep` is set; answers the values in their places, the other fields read, and the cursor before the brace. -/
def scanFields (specs : List Field) (keep : Bool) : (fuel : Nat) → (first : Bool) → (slots : List (Option Json)) →
    (others : List (String × Json)) → Cursor → Except Fault (List (Option Json) × List (String × Json) × Cursor)
  | 0, _, _, _, here => here.fault openObject
  | fuel + 1, first, slots, others, here =>
    match nextKey? first here with
    | .error f => .error f
    | .ok (none, here) => .ok (slots, others.reverse, here)
    | .ok (some here, _) =>
      match Quoted.read here with
      | .error f => .error f
      | .ok (name, here) =>
        match specs.findIdx? fun f => f.name == name with
        | none =>
          if keep then
            match (colon here).bind readFieldValue with
            | .error f => .error f
            | .ok (value, here) => scanFields specs keep fuel false slots ((name, value) :: others) here
          else
            match (colon here).bind skipValue with
            | .error f => .error f
            | .ok here => scanFields specs keep fuel false slots others here
        | some i =>
          match specs[i]?, slots[i]? with
          | some f, some none =>
            match (colon here).bind f.scan with
            | .error fault => .error fault
            | .ok (value, here) => scanFields specs keep fuel false (slots.set i (some value)) others here
          | _, _ => (afterObject here).fault (duplicateField name)

/-- Reads the items of a list from text as the fields of a record; the cursor ends before the bracket. -/
def scanItems (expected : String) : (index : Nat) → List Field → Cursor →
    Except Fault (List (Option Json) × Cursor)
  | _, [], here => .ok ([], here)
  | index, f :: specs, here =>
    match nextElement? (index == 0) here with
    | .error fault => .error fault
    | .ok (none, here) =>
      if f.defaulted then (scanItems expected (index + 1) specs here).map fun (slots, here) => (none :: slots, here)
      else (afterList here).fault (wrongLength index expected)
    | .ok (some here, _) =>
      match f.scan here with
      | .error fault => .error fault
      | .ok (value, here) =>
        (scanItems expected (index + 1) specs here).map fun (slots, here) => (some value :: slots, here)

/-- Reads the bracket that ends a list. -/
def closeList (here : Cursor) : Except Fault Cursor :=
  let here := here.skipBlanks
  match here.rest with
  | ']' :: _ => .ok here.advance
  | ',' :: _ =>
    let here := here.advance.skipBlanks
    match here.rest with
    | ']' :: _ => here.peekFault "trailing comma"
    | _ => here.peekFault "trailing characters"
  | [] => here.peekFault openList
  | _ => here.peekFault "trailing characters"

/-- The fields that are there, as an object. -/
def assemble (specs : List Field) (slots : List (Option Json)) : Json :=
  .object ((specs.zip slots).filterMap fun (f, slot) => slot.map fun value => (f.name, value))

/-- Reads a record from text. -/
def scanRecord (name : String) (fs : Fields α) : Scan := fun here =>
  let here := here.skipBlanks
  match here.rest with
  | '\x7b' :: _ => do
    let (slots, _, here) ← scanFields fs.specs false (here.rest.length + 1) true fs.blank [] here.advance
    judged (fs.build .direct slots) (assemble fs.specs slots) (afterObject here)
  | '[' :: _ => do
    let (slots, here) ← scanItems (sizedTitle name fs.specs.length) 0 fs.specs here.advance
    let here ← closeList here
    judged (fs.build .direct slots) (assemble fs.specs slots) here
  | _ => typeFault (title name) here

/-- A record, read from an object or from a list of its fields. -/
def decoder (name : String) (fs : Fields α) : Decoder α where
  judge
    | arrival, .object fields => fs.ofFields arrival fields
    | arrival, .array items => fs.ofItems arrival name items
    | _, j => .error (wrongType j (title name))
  scan := scanRecord name fs

/-- A record of the fields `own` beside those of another record, all in one object; the values of the other record are
set aside until the object is read. -/
def flattened (name : String) (inner : Fields α) (own : Fields β) : Decoder (α × β) where
  judge
    | arrival, .object fields =>
      match fill arrival own.specs own.blank fields with
      | .error message => .error message
      | .ok slots => do
        let b ← own.build arrival slots
        let a ← inner.ofFields .setAside fields
        return (a, b)
    | _, j => .error (wrongType j (title name))
  scan here :=
    let here := here.skipBlanks
    match here.rest with
    | '\x7b' :: _ => do
      let (slots, others, here) ← scanFields own.specs true (here.rest.length + 1) true own.blank [] here.advance
      let after := afterObject here
      let verdict : Except String Json := do
        let _ ← own.build .direct slots
        let _ ← inner.ofFields .setAside others
        match assemble own.specs slots with
        | .object fields => return .object (fields ++ others)
        | j => return j
      match verdict with
      | .error message => after.fault message
      | .ok j => .ok (j, after)
    | _ => typeFault (title name) here

end Fields

namespace Decoder

variable {α : Type}

/-- Reads a whole text. -/
def ofString (d : Decoder α) (s : String) : Except String α :=
  let step : Except Fault Json := do
    let (j, here) ← d.scan (Cursor.ofString s)
    finish here
    return j
  match step with
  | .error f => .error f.text
  | .ok j => d.ofJson j

end Decoder

end Tenancy.Json
