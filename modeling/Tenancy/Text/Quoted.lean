import Tenancy.Text.Printable

/-!
# Text shown in quotes

Complaints show foreign text in double quotes, with the quote, the backslash and every character that has no visible
form of its own escaped.
-/

namespace Tenancy.Text

/-- A character by its code point. -/
def codePointEscape (c : Char) : List Char :=
  "\\u\x7b".toList ++ Hex.numeral c.toNat ++ ['\x7d']

/-- One character between double quotes. -/
def shownChar (c : Char) : List Char :=
  if c = '\x00' then ['\\', '0']
  else if c = '\t' then ['\\', 't']
  else if c = '\n' then ['\\', 'n']
  else if c = '\r' then ['\\', 'r']
  else if c = '"' then ['\\', '"']
  else if c = '\\' then ['\\', '\\']
  else if isPrintable c then [c]
  else codePointEscape c

/-- A text in double quotes. -/
def shown (s : String) : String :=
  "\"" ++ String.ofList (s.toList.flatMap shownChar) ++ "\""

/-- The valid UTF-8 character at the head of the bytes, with the bytes after it. -/
def headChar? : List UInt8 → Option (Char × List UInt8)
  | [] => none
  | a :: rest =>
    let a := a.toNat
    let tail (b : UInt8) := if 0x80 ≤ b.toNat ∧ b.toNat < 0xC0 then some (b.toNat - 0x80) else none
    if a < 0x80 then some (Char.ofNat a, rest)
    else if 0xC2 ≤ a ∧ a < 0xE0 then
      match rest with
      | b :: rest => (tail b).map fun b => (Char.ofNat ((a - 0xC0) * 64 + b), rest)
      | _ => none
    else if 0xE0 ≤ a ∧ a < 0xF0 then
      match rest with
      | b :: c :: rest => do
        let n := ((a - 0xE0) * 64 + (← tail b)) * 64 + (← tail c)
        if 0x800 ≤ n ∧ ¬ (0xD800 ≤ n ∧ n < 0xE000) then some (Char.ofNat n, rest) else none
      | _ => none
    else if 0xF0 ≤ a ∧ a < 0xF5 then
      match rest with
      | b :: c :: d :: rest => do
        let n := (((a - 0xF0) * 64 + (← tail b)) * 64 + (← tail c)) * 64 + (← tail d)
        if 0x10000 ≤ n ∧ n < 0x110000 then some (Char.ofNat n, rest) else none
      | _ => none
    else none

/-- The text that bytes spell in UTF-8, when all of them are valid; `fuel` is at least their number. -/
def decodeUtf8? : (fuel : Nat) → List UInt8 → Option (List Char)
  | _, [] => some []
  | 0, _ => none
  | fuel + 1, bytes =>
    match headChar? bytes with
    | some (c, rest) => (decodeUtf8? fuel rest).map (c :: ·)
    | none => none

/-- Bytes between double quotes: valid characters as in `shownChar`, other bytes in hexadecimal. -/
def shownBytes : (fuel : Nat) → List UInt8 → List Char
  | _, [] => []
  | 0, _ => []
  | fuel + 1, a :: rest =>
    match headChar? (a :: rest) with
    | some (c, rest) => shownChar c ++ shownBytes fuel rest
    | none =>
      '\\' :: 'x' :: Hex.upperDigit (a.toNat / 16) :: Hex.upperDigit (a.toNat % 16) :: shownBytes fuel rest

/-- A byte string in double quotes. -/
def shownByteString (bytes : List UInt8) : String :=
  "\"" ++ String.ofList (shownBytes bytes.length bytes) ++ "\""

end Tenancy.Text
