import Tenancy.Decimal.Shortest
import Tenancy.Text.Quoted

/-!
# JSON values and their compact text

A value as it was read or is about to be written. Integers that fit 64 bits are exact; every other number is a double
and is written with the fewest digits that read back. Objects keep the order of their fields.
-/

namespace Tenancy

/-- A JSON value. -/
inductive Json where
  | null
  | bool (b : Bool)
  | integer (n : Int)
  | float (x : Float)
  | string (s : String)
  | array (items : List Json)
  | object (fields : List (String × Json))
deriving Inhabited

namespace Json

/-- Doubles are positional for decimal exponents -5 to 15, and a positive exponent carries its sign. -/
def floatStyle : Decimal.Style := ⟨-5, 15, "e", "+"⟩

/-- A double as JSON text. -/
def floatText (x : Float) : String := floatStyle.float x

/-- One character inside a quoted JSON string. -/
def escapeChar (c : Char) : List Char :=
  if c = '"' then ['\\', '"']
  else if c = '\\' then ['\\', '\\']
  else if c = '\n' then ['\\', 'n']
  else if c = '\r' then ['\\', 'r']
  else if c = '\t' then ['\\', 't']
  else if c = '\x08' then ['\\', 'b']
  else if c = '\x0c' then ['\\', 'f']
  else if c.toNat < 32 then '\\' :: 'u' :: Text.Hex.write 4 c.toNat
  else [c]

/-- A string in quotes; control characters, quotes and backslashes are escaped and nothing else. -/
def quote (s : String) : String :=
  "\"" ++ String.ofList (s.toList.flatMap escapeChar) ++ "\""

/-- Texts joined by commas. -/
def commas (texts : List String) : String := String.intercalate "," texts

mutual

/-- The compact text of a value. -/
def render : Json → String
  | null => "null"
  | bool b => if b then "true" else "false"
  | integer n => toString n
  | float x => floatText x
  | string s => quote s
  | array items => "[" ++ commas (renderItems items) ++ "]"
  | object fields => "\x7b" ++ commas (renderFields fields) ++ "\x7d"

/-- The texts of the items of an array. -/
def renderItems : List Json → List String
  | [] => []
  | item :: items => render item :: renderItems items

/-- The texts of the fields of an object. -/
def renderFields : List (String × Json) → List String
  | [] => []
  | (name, value) :: fields => (quote name ++ ":" ++ render value) :: renderFields fields

end

/-- Puts a field into an ordered list of fields; a field of the same name is replaced. -/
def insertField (name : String) (value : Json) : List (String × Json) → List (String × Json)
  | [] => [(name, value)]
  | (n, v) :: rest =>
    if name = n then (name, value) :: rest
    else if name < n then (name, value) :: (n, v) :: rest
    else (n, v) :: insertField name value rest

mutual

/-- The value with the fields of every object in order of their names, the last of equal names kept. -/
def canonical : Json → Json
  | array items => array (canonicalItems items)
  | object fields => object (canonicalFields fields [])
  | j => j

/-- The items of an array in canonical form. -/
def canonicalItems : List Json → List Json
  | [] => []
  | item :: items => canonical item :: canonicalItems items

/-- The fields of an object in canonical form, put into those already read. -/
def canonicalFields : List (String × Json) → List (String × Json) → List (String × Json)
  | [], acc => acc
  | (name, value) :: fields, acc => canonicalFields fields (insertField name (canonical value) acc)

end

/-- The value of a field of an object. -/
def get? (j : Json) (name : String) : Option Json :=
  match j with
  | object fields => (fields.find? fun f => f.1 == name).map Prod.snd
  | _ => none

/-- What a value is called in a complaint about its type. -/
def describe : Json → String
  | null => "null"
  | bool b => "boolean `" ++ (if b then "true" else "false") ++ "`"
  | integer n => "integer `" ++ toString n ++ "`"
  | float x => "floating point `" ++ floatText x ++ "`"
  | string s => "string " ++ Text.shown s
  | array _ => "sequence"
  | object _ => "map"

end Json

end Tenancy
