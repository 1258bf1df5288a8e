import Tenancy.Text.Chars
import Tenancy.Text.Hex

/-!
# UUIDs and their text forms

A UUID is 128 bits. It is written as five groups of lower-case hexadecimal digits joined by hyphens, and read from that
form, from 32 digits without hyphens, from the hyphenated form in braces, and after the prefix `urn:uuid:`; digits
and prefix may be in any case. Reading and the diagnosis of a text that is none of these forms are two functions.
-/

namespace Tenancy

open Text

/-- A 128-bit universally unique identifier. -/
structure Uuid where
  bits : BitVec 128
deriving DecidableEq, Repr, Inhabited

namespace Uuid

/-- What is wrong with a text that is no UUID. -/
inductive TextError where
  | length (found : Nat)
  | character (found : Char) (offset : Nat)
  | groupCount (found : Nat)
  | groupLength (group expected found : Nat)
deriving DecidableEq, Repr

namespace TextError

/-- The wording of a complaint. -/
def message : TextError → String
  | length found => "invalid length: found " ++ toString found
  | character found offset =>
    "invalid character: found `" ++ String.singleton found ++ "` at " ++ toString offset
  | groupCount found => "invalid group count: expected 5, found " ++ toString found
  | groupLength group expected found =>
    "invalid group length in group " ++ toString group ++ ": expected " ++ toString expected ++ ", found " ++
      toString found

end TextError

/-- The UUID all of whose bits are zero. -/
def zero : Uuid := ⟨0⟩

/-- The UUID with this 128-bit value. -/
def ofNat (n : Nat) : Uuid := ⟨BitVec.ofNat 128 n⟩

/-- The random UUID made of `noise`: the version digit is 4 and the two variant bits are a one and a zero. -/
def ofNoise (noise : Nat) : Uuid :=
  ⟨BitVec.ofNat 128 noise &&& 0xffffffffffff0fff3fffffffffffffff#128 ||| 0x40008000000000000000#128⟩

/-- The version digit. -/
def version (u : Uuid) : Nat := (u.bits >>> (76 : Nat)).toNat % 16

/-- The lengths of the five groups of digits. -/
def groupLengths : List Nat := [8, 4, 4, 4, 12]

/-- The hyphenated form. -/
def toChars (u : Uuid) : List Char :=
  let digits := Hex.write 32 u.bits.toNat
  digits.take 8 ++ '-' :: (digits.drop 8).take 4 ++ '-' :: (digits.drop 12).take 4 ++ '-' ::
    (digits.drop 16).take 4 ++ '-' :: digits.drop 20

/-- The hyphenated form as a string. -/
def text (u : Uuid) : String := String.ofList u.toChars

/-- The prefix of the URN form. -/
def urnPrefix : List Char := "urn:uuid:".toList

/-- Reads five hyphenated groups of digits. -/
def ofHyphenated? (cs : List Char) : Option Uuid :=
  let groups := splitAll '-' cs
  if groups.map List.length = groupLengths then (Hex.read? groups.flatten).map ofNat else none

/-- Reads 32 digits. -/
def ofDigits? (cs : List Char) : Option Uuid :=
  if cs.length = 32 then (Hex.read? cs).map ofNat else none

/-- The text between an opening and a closing brace that enclose all of it. -/
def inBraces? : List Char → Option (List Char)
  | '\x7b' :: cs => if cs.getLast? = some '\x7d' then some cs.dropLast else none
  | _ => none

/-- The text after the URN prefix in any case. -/
def afterUrn? (cs : List Char) : Option (List Char) :=
  dropMarker? urnPrefix (cs.take 9 |>.map Char.toLower) |>.map fun _ => cs.drop 9

/-- The UUID that a text spells in one of the four forms. -/
def ofChars? (cs : List Char) : Option Uuid :=
  ofDigits? cs <|> ofHyphenated? cs <|> (inBraces? cs).bind ofHyphenated? <|> (afterUrn? cs).bind ofHyphenated?

/-- The first character that is neither a digit nor a hyphen, with its place in bytes. -/
def firstStray? : (offset : Nat) → List Char → Option (Char × Nat)
  | _, [] => none
  | offset, c :: cs =>
    if Hex.isDigit c || c == '-' then firstStray? (offset + c.utf8Size) cs else some (c, offset)

/-- The first group whose length is not the one at its place. -/
def firstWrongGroup? : (group : Nat) → (expected found : List Nat) → Option TextError
  | group, e :: es, f :: fs =>
    if e = f then firstWrongGroup? (group + 1) es fs else some (.groupLength group e f)
  | _, _, _ => none

/-- The part of a text that should hold the digits, where it begins in bytes, and whether it may lack hyphens. -/
structure Body where
  digits : List Char
  offset : Nat
  bare : Bool

/-- The body of a text whose size is that of a form: 32 or 36 bytes as they stand, 38 in braces, 45 after the prefix.
Its places count from its own beginning. -/
def sizedBody? (cs : List Char) : Option Body :=
  match byteLength cs with
  | 32 => some ⟨cs, 0, true⟩
  | 36 => some ⟨cs, 0, false⟩
  | 38 => (inBraces? cs).map fun digits => ⟨digits, 0, false⟩
  | 45 => (afterUrn? cs).map fun digits => ⟨digits, 0, false⟩
  | _ => none

/-- The body of a text of any other size; its places count from the beginning of the text. -/
def looseBody (cs : List Char) : Body :=
  match inBraces? cs, afterUrn? cs with
  | some digits, _ => ⟨digits, 1, false⟩
  | none, some digits => ⟨digits, 9, false⟩
  | none, none => ⟨cs, 0, true⟩

/-- What is wrong with the groups of a body without stray characters in a text of `size` bytes. The last group is taken
to end with the text, whatever opens and closes it. -/
def groupError (size : Nat) (body : Body) : TextError :=
  let groups := splitAll '-' body.digits
  if groups.length = 1 ∧ body.bare then .length size
  else if groups.length ≠ 5 then .groupCount groups.length
  else
    let found := (groups.map List.length).take 4 ++ [size - 24]
    (firstWrongGroup? 0 groupLengths found).getD (.length size)

/-- Why a text is no UUID: its length, else its first stray character, else its groups. -/
def diagnose (cs : List Char) : TextError :=
  let size := byteLength cs
  if size = 0 ∨ 45 < size then .length size
  else
    let body := (sizedBody? cs).getD (looseBody cs)
    match firstStray? body.offset body.digits with
    | some (c, place) => .character c place
    | none => groupError size body

/-- Reads a UUID from a text, or says why it is none. -/
def parse (s : String) : Except TextError Uuid :=
  match ofChars? s.toList with
  | some u => .ok u
  | none => .error (diagnose s.toList)

end Uuid

end Tenancy
