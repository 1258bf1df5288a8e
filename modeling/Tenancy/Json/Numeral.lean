import Tenancy.Json.Basic
import Tenancy.Json.Cursor

/-!
# Numerals in JSON text

Integers that fit 64 bits are kept exactly. Every other numeral becomes a double: its leading digits, as many as fit
64 bits, are converted and then multiplied or divided by a power of ten, so the result may differ from the nearest
double in its last bit.
-/

namespace Tenancy.Json.Numeral

/-- The greatest significand that is accumulated exactly. -/
def greatest : Nat := 18446744073709551615

/-- The greatest exponent that is accumulated. -/
def greatestExponent : Nat := 2147483647

/-- Takes digits into the significand while it fits; answers it with the number of digits taken. -/
def absorb : (significand taken : Nat) → Cursor → Nat × Nat × Cursor
  | significand, taken, ⟨c :: rest, p⟩ =>
    if c.isDigit ∧ significand * 10 + (c.toNat - 48) ≤ greatest then
      absorb (significand * 10 + (c.toNat - 48)) (taken + 1) ⟨rest, Cursor.after c p⟩
    else (significand, taken, ⟨c :: rest, p⟩)
  | significand, taken, here => (significand, taken, here)
termination_by _ _ here => here.rest.length

/-- Skips digits; answers how many there were. -/
def skipDigits : (skipped : Nat) → Cursor → Nat × Cursor
  | skipped, ⟨c :: rest, p⟩ =>
    if c.isDigit then skipDigits (skipped + 1) ⟨rest, Cursor.after c p⟩ else (skipped, ⟨c :: rest, p⟩)
  | skipped, here => (skipped, here)
termination_by _ here => here.rest.length

/-- Whether the next character is a digit. -/
def atDigit (here : Cursor) : Bool :=
  match here.rest with
  | c :: _ => c.isDigit
  | [] => false

/-- Whether the next character begins an exponent. -/
def atExponent (here : Cursor) : Bool :=
  match here.rest with
  | c :: _ => c == 'e' || c == 'E'
  | [] => false

/-- A power of ten as a double. -/
def powerOfTen (k : Nat) : Float := Float.ofScientific 1 false k

/-- `f · 10^exponent` by at most `fuel` multiplications or divisions; nothing when it exceeds every double. -/
def scale : (fuel : Nat) → Float → (exponent : Int) → Option Float
  | 0, f, _ => some f
  | fuel + 1, f, exponent =>
    if exponent.natAbs ≤ 308 then
      if exponent ≥ 0 then
        let product := f * powerOfTen exponent.natAbs
        if product.isInf then none else some product
      else some (f / powerOfTen exponent.natAbs)
    else if f == 0.0 then some f
    else if exponent ≥ 0 then none
    else scale fuel (f / powerOfTen 308) (exponent + 308)

/-- The double of a significand and a power of ten. -/
def ofParts (negative : Bool) (significand : Nat) (exponent : Int) (here : Cursor) : Except Fault (Json × Cursor) :=
  match scale 8 (Float.ofNat significand) exponent with
  | none => here.fault "number out of range"
  | some f => .ok (.float (if negative then -f else f), here)

/-- Takes the digits of an exponent; nothing when it grows beyond `greatestExponent`, with the place where it does. -/
def exponentDigits : (value : Nat) → Cursor → Option Nat × Cursor
  | value, ⟨c :: rest, p⟩ =>
    if c.isDigit then
      let further := value * 10 + (c.toNat - 48)
      if further ≤ greatestExponent then exponentDigits further ⟨rest, Cursor.after c p⟩
      else (none, ⟨rest, Cursor.after c p⟩)
    else (some value, ⟨c :: rest, p⟩)
  | value, here => (some value, here)
termination_by _ here => here.rest.length

/-- The numeral from the mark of its exponent on. -/
def fromExponent (negative : Bool) (significand : Nat) (start : Int) (mark : Cursor) : Except Fault (Json × Cursor) :=
  let here := mark.advance
  let (raises, here) :=
    match here.rest with
    | '+' :: _ => (true, here.advance)
    | '-' :: _ => (false, here.advance)
    | _ => (true, here)
  match here.rest with
  | [] => here.fault "EOF while parsing a value"
  | c :: _ =>
    if ¬ c.isDigit then here.peekFault "invalid number"
    else
      match exponentDigits 0 here with
      | (some value, here) =>
        ofParts negative significand (if raises then start + value else start - value) here
      | (none, here) =>
        if significand ≠ 0 ∧ raises then here.fault "number out of range"
        else .ok (.float (if negative then -0.0 else 0.0), (skipDigits 0 here).2)

/-- The numeral from its decimal point on. -/
def fromPoint (negative : Bool) (significand : Nat) (start : Int) (point : Cursor) : Except Fault (Json × Cursor) :=
  let (significand, taken, here) := absorb significand 0 point.advance
  if atDigit here then
    let (_, here) := skipDigits 0 here
    if atExponent here then fromExponent negative significand (start - taken) here
    else ofParts negative significand (start - taken) here
  else if taken = 0 then
    match here.rest with
    | [] => here.peekFault "EOF while parsing a value"
    | _ => here.peekFault "invalid number"
  else if atExponent here then fromExponent negative significand (start - taken) here
  else ofParts negative significand (start - taken) here

/-- The value of a whole number, an integer when it fits 64 bits. -/
def whole (negative : Bool) (significand : Nat) : Json :=
  if ¬ negative then .integer significand
  else if significand = 0 ∨ 9223372036854775808 < significand then .float (-(Float.ofNat significand))
  else .integer (-(significand : Int))

/-- The numeral after its sign. -/
def unsigned (negative : Bool) (here : Cursor) : Except Fault (Json × Cursor) :=
  match here.rest with
  | [] => here.fault "EOF while parsing a value"
  | c :: _ =>
    if ¬ c.isDigit then here.peekFault "invalid number"
    else if c = '0' ∧ atDigit here.advance then here.advance.peekFault "invalid number"
    else
      let (significand, _, here) := absorb 0 0 here
      let (extra, here) := skipDigits 0 here
      match here.rest with
      | '.' :: _ => fromPoint negative significand extra here
      | _ =>
        if atExponent here then fromExponent negative significand extra here
        else if extra = 0 then .ok (whole negative significand, here)
        else ofParts negative significand extra here

/-- Reads a numeral; the next character is a digit or a minus sign. -/
def read (here : Cursor) : Except Fault (Json × Cursor) :=
  match here.rest with
  | '-' :: _ => unsigned true here.advance
  | _ => unsigned false here

/-- Passes over a numeral without working out its value. -/
def skip (here : Cursor) : Except Fault Cursor :=
  let here :=
    match here.rest with
    | '-' :: _ => here.advance
    | _ => here
  if ¬ atDigit here then here.peekFault "invalid number"
  else if here.rest.head? = some '0' ∧ atDigit here.advance then here.advance.peekFault "invalid number"
  else
    let here := (skipDigits 0 here).2
    let fraction : Except Fault Cursor :=
      match here.rest with
      | '.' :: _ =>
        let (count, after) := skipDigits 0 here.advance
        if count = 0 then after.peekFault "invalid number" else .ok after
      | _ => .ok here
    match fraction with
    | .error f => .error f
    | .ok here =>
      if ¬ atExponent here then .ok here
      else
        let here := here.advance
        let here :=
          match here.rest with
          | '+' :: _ | '-' :: _ => here.advance
          | _ => here
        if atDigit here then .ok (skipDigits 0 here).2 else here.peekFault "invalid number"

end Tenancy.Json.Numeral
