import Tenancy.Text.Chars
import Tenancy.Time.Calendar

/-!
# Instants

An instant is a second of UTC and a number of nanoseconds; a leap second is the second before it with a thousand
million nanoseconds or more. It is written in RFC 3339 with `Z` and 0, 3, 6 or 9 digits of a second, and read leniently:
numbers may lack leading zeros, blanks may stand between the parts, and a blank or a small `t` may part date and time.
-/

namespace Tenancy.Time

open Text

/-- A point in time, to the nanosecond. -/
structure Instant where
  seconds : Int
  nanos : Nat
deriving DecidableEq, Repr, Inhabited

/-- Why a text is no instant. -/
inductive TextError where
  | outOfRange
  | impossible
  | invalid
  | tooShort
  | tooLong
deriving DecidableEq, Repr

/-- The wording of a complaint. -/
def TextError.message : TextError → String
  | outOfRange => "input is out of range"
  | impossible => "no possible date and time matching input"
  | invalid => "input contains invalid characters"
  | tooShort => "premature end of input"
  | tooLong => "trailing input"

namespace Instant

/-- The instant of a date and a time of day. -/
def ofCivil (date : Date) (hour minute second : Nat) (nanos : Nat) : Instant :=
  ⟨date.toDays * 86400 + hour * 3600 + minute * 60 + second, nanos⟩

/-- Whether `a` is at or after `b`. -/
def reached (a b : Instant) : Bool := b.seconds < a.seconds || (b.seconds == a.seconds && b.nanos ≤ a.nanos)

/-- The day of the instant, counted from 1 January 1970. -/
def days (t : Instant) : Int := t.seconds / 86400

/-- The second of the day. -/
def secondOfDay (t : Instant) : Nat := (t.seconds % 86400).toNat

/-- Hour, minute and second; a leap second counts as 60. -/
def clock (t : Instant) : Nat × Nat × Nat :=
  (t.secondOfDay / 3600, t.secondOfDay / 60 % 60, t.secondOfDay % 60 + t.nanos / 1000000000)

/-- The year as RFC 3339 writes it: four digits, or a sign and at least four digits outside 0 to 9999. -/
def yearText (year : Int) : String :=
  if 0 ≤ year ∧ year ≤ 9999 then padded 4 year.toNat
  else (if year < 0 then "-" else "+") ++ padded 4 year.natAbs

/-- The fraction of a second, with as few groups of three digits as show it. -/
def fractionText (nanos : Nat) : String :=
  if nanos = 0 then ""
  else if nanos % 1000000 = 0 then "." ++ padded 3 (nanos / 1000000)
  else if nanos % 1000 = 0 then "." ++ padded 6 (nanos / 1000)
  else "." ++ padded 9 nanos

/-- The instant in RFC 3339. -/
def text (t : Instant) : String :=
  let date := Date.ofDays t.days
  let (hour, minute, second) := t.clock
  yearText date.year ++ "-" ++ padded 2 date.month ++ "-" ++ padded 2 date.day ++ "T" ++ padded 2 hour ++ ":" ++
    padded 2 minute ++ ":" ++ padded 2 second ++ fractionText (t.nanos % 1000000000) ++ "Z"

/-- The instant in the layout of RFC 850, as letters show it. -/
def letterText (t : Instant) : String :=
  let date := Date.ofDays t.days
  let (hour, minute, second) := t.clock
  Date.dayName t.days ++ ", " ++ padded 2 date.day ++ "-" ++ date.monthName ++ "-" ++ padded 2 (date.year % 100).toNat ++
    " " ++ padded 2 hour ++ ":" ++ padded 2 minute ++ ":" ++ padded 2 second ++ " UTC"

/-- Reads a number of one to `width` digits. -/
def readNumber (width : Nat) (cs : List Char) : Except TextError (Nat × List Char) :=
  match cs with
  | [] => .error .tooShort
  | _ =>
    let digits := (cs.take width).takeWhile Char.isDigit
    if digits.isEmpty then .error .invalid
    else
      let n := digits.foldl (fun n c => 10 * n + (c.toNat - 48)) 0
      if n < 9223372036854775808 then .ok (n, cs.drop digits.length) else .error .outOfRange

/-- Reads a number after optional blanks and checks its range. -/
def readField (low high : Nat) (cs : List Char) : Except TextError (Nat × List Char) := do
  let (n, rest) ← readNumber 2 (trimStart cs)
  if low ≤ n ∧ n ≤ high then return (n, rest) else throw .outOfRange

/-- Reads a year; with a sign it may have any number of digits. -/
def readYear (cs : List Char) : Except TextError (Int × List Char) := do
  let cs := trimStart cs
  let (year, rest) ←
    match cs with
    | '-' :: digits => (readNumber digits.length digits).map fun (n, rest) => (-(n : Int), rest)
    | '+' :: digits => (readNumber digits.length digits).map fun (n, rest) => ((n : Int), rest)
    | _ => (readNumber 4 cs).map fun (n, rest) => ((n : Int), rest)
  if -2147483648 ≤ year ∧ year < 2147483648 then return (year, rest) else throw .outOfRange

/-- Reads a separator after optional blanks. -/
def readMark (mark : Char) (cs : List Char) : Except TextError (Unit × List Char) :=
  match trimStart cs with
  | [] => .error .tooShort
  | c :: rest => if c = mark then .ok ((), rest) else .error .invalid

/-- Reads the fraction of a second; digits after the ninth are dropped. -/
def readFraction (cs : List Char) : Except TextError (Nat × List Char) :=
  match cs with
  | '.' :: rest => do
    let (n, after) ← readNumber 9 rest
    let count := rest.length - after.length
    return (n * Nat.pow 10 (9 - count), after.dropWhile Char.isDigit)
  | _ => .ok (0, cs)

/-- The two digits at the head of a text. -/
def twoDigits : List Char → Except TextError ((Char × Char) × List Char)
  | a :: b :: rest => .ok ((a, b), rest)
  | _ => .error .tooShort

/-- The number of two digits. -/
def pairValue (a b : Char) : Nat := 10 * (a.toNat - 48) + (b.toNat - 48)

/-- Reads an offset from UTC in seconds. -/
def readOffset (cs : List Char) : Except TextError (Int × List Char) := do
  match cs with
  | [] => throw .tooShort
  | c :: rest =>
    if c = 'Z' ∨ c = 'z' then return (0, rest)
    else if c ≠ '+' ∧ c ≠ '-' ∧ c ≠ '−' then throw .invalid
    else
      if byteLength rest < 2 then throw .tooShort
      let ((a, b), rest) ← (twoDigits rest).mapError fun _ => .invalid
      if ¬ (a.isDigit ∧ b.isDigit) then throw .invalid
      let rest := rest.dropWhile fun c => c == ':' || isBlank c
      if byteLength rest < 2 then throw .tooShort
      let ((m, n), rest) ← (twoDigits rest).mapError fun _ => .invalid
      if ¬ (m.isDigit ∧ n.isDigit) then throw .invalid
      if '6' ≤ m then throw .outOfRange
      let seconds : Int := pairValue a b * 3600 + pairValue m n * 60
      return (if c = '+' then seconds else -seconds, rest)

/-- Reads the offset, which may also be spelled `UTC` in any case. -/
def readZone (cs : List Char) : Except TextError (Int × List Char) :=
  let cs := trimStart cs
  if (cs.take 3).map Char.toLower = ['u', 't', 'c'] then .ok (0, cs.drop 3) else readOffset cs

/-- The first and last years of the calendar that instants can lie in. -/
def years : Int × Int := (-262143, 262142)

/-- Reads an instant, or says why the text is none. -/
def parse (s : String) : Except TextError Instant := do
  let (year, rest) ← readYear s.toList
  let (_, rest) ← readMark '-' rest
  let (month, rest) ← readField 1 12 rest
  let (_, rest) ← readMark '-' rest
  let (day, rest) ← readField 1 31 rest
  let rest ←
    match rest with
    | [] => throw .tooShort
    | c :: rest => if c = 'T' ∨ c = 't' ∨ c = ' ' then pure rest else throw .invalid
  let (hour, rest) ← readField 0 23 rest
  let (_, rest) ← readMark ':' rest
  let (minute, rest) ← readField 0 59 rest
  let (_, rest) ← readMark ':' rest
  let (second, rest) ← readField 0 60 rest
  let (nanos, rest) ← readFraction rest
  let (offset, rest) ← readZone rest
  if ¬ (trimStart rest).isEmpty then throw .tooLong
  let date : Date := ⟨year, month, day⟩
  if year < years.1 ∨ years.2 < year ∨ ¬ date.isValid then throw .outOfRange
  if offset ≤ -86400 ∨ 86400 ≤ offset then throw .outOfRange
  let t := ofCivil date hour minute (min second 59) (if second = 60 then nanos + 1000000000 else nanos)
  let t : Instant := ⟨t.seconds - offset, t.nanos⟩
  let found := (Date.ofDays t.days).year
  if found < years.1 ∨ years.2 < found then throw .impossible
  return t

end Instant

end Tenancy.Time
