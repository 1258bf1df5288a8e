/-!
# The fewest decimal digits that read back

A positive finite double is m · 2^q. The reals that round to it form an interval, ends included when m is even. For 1, 2,
… 17 digits the two neighbours of the value on the grid of that many digits are tried; the first grid with a
neighbour inside the interval gives the digits, and of two neighbours inside it the nearer one.
-/

namespace Tenancy.Decimal

/-- A positive double as a fraction, with the ends of the interval of reals that round to it, over one denominator. -/
structure Interval where
  low : Nat
  value : Nat
  high : Nat
  denominator : Nat
  closed : Bool
deriving Repr

/-- The interval of the double m · 2^q; `lowest` says that m is the least significand of its binade. -/
def Interval.ofBinary (m : Nat) (q : Int) (lowest : Bool) : Interval :=
  let numeratorScale := if q ≥ 0 then Nat.pow 2 q.toNat else 1
  let denominator := 4 * (if q ≥ 0 then 1 else Nat.pow 2 (-q).toNat)
  { low := (if lowest then 4 * m - 1 else 4 * m - 2) * numeratorScale
    value := 4 * m * numeratorScale
    high := (4 * m + 2) * numeratorScale
    denominator
    closed := m % 2 == 0 }

/-- Whether `n / d` lies in the interval. -/
def Interval.contains (i : Interval) (n d : Nat) : Bool :=
  let point := n * i.denominator
  if i.closed then i.low * d ≤ point && point ≤ i.high * d
  else i.low * d < point && point < i.high * d

/-- The greatest `e ≤ start` with 10^e at most `n / d`; `fuel` bounds the search downwards. -/
def decimalExponent (n d : Nat) : (fuel : Nat) → (start : Int) → Int
  | 0, e => e
  | fuel + 1, e =>
    let fits := if e ≥ 0 then Nat.pow 10 e.toNat * d ≤ n else d ≤ n * Nat.pow 10 (-e).toNat
    if fits then e else decimalExponent n d fuel (e - 1)

/-- The neighbour of the value, on the grid of `count` digits, that reads back; its digits as a number. -/
def onGrid? (i : Interval) (e : Int) (count : Nat) : Option Nat :=
  let unit := e - ((count - 1 : Nat) : Int)
  let up := if unit < 0 then Nat.pow 10 (-unit).toNat else 1
  let down := if unit < 0 then 1 else Nat.pow 10 unit.toNat
  let below := i.value * up / (i.denominator * down)
  let above := below + 1
  let lowFits := i.contains (below * down) up
  let highFits := i.contains (above * down) up
  let twice := 2 * (i.value * up)
  let middle := (below + above) * (i.denominator * down)
  if lowFits && highFits then
    some (if twice < middle || (twice == middle && below % 2 == 0) then below else above)
  else if lowFits then some below
  else if highFits then some above
  else none

/-- Tries grids of `count`, `count + 1`, … digits; answers the digits and the power of ten of the last one. -/
def firstGrid (i : Interval) (e : Int) : (fuel count : Nat) → Nat × Int
  | 0, _ => (0, 0)
  | fuel + 1, count =>
    match onGrid? i e count with
    | some digits => (digits, e - ((count - 1 : Nat) : Int))
    | none => firstGrid i e fuel (count + 1)

/-- Removes trailing zeros from `digits`, raising the power of ten. -/
def strip : (fuel digits : Nat) → (power : Int) → Nat × Int
  | 0, digits, power => (digits, power)
  | fuel + 1, digits, power =>
    if digits ≠ 0 ∧ digits % 10 = 0 then strip fuel (digits / 10) (power + 1) else (digits, power)

/-- The number of fractions that a double distinguishes at one exponent, two to the power of 52. -/
def fractions : Nat := 4503599627370496

/-- The bits of negative zero: the sign is the highest of 64. -/
def signBit : Nat := 9223372036854775808

/-- Digits and power of ten of the shortest decimal that reads back as the positive finite double with these bits. -/
def shortest (bits : Nat) : Nat × Int :=
  let fraction : Nat := bits % fractions
  let exponent : Nat := bits / fractions % 2048
  let m : Nat := if exponent = 0 then fraction else fraction + fractions
  let q : Int := if exponent = 0 then -1074 else (exponent : Int) - 1075
  let i := Interval.ofBinary m q (fraction == 0 && exponent > 1)
  let e := decimalExponent i.value i.denominator 700 310
  let (digits, power) := firstGrid i e 17 1
  strip 20 digits power

/-- Where positional notation ends and how an exponent is written. -/
structure Style where
  leastPositional : Int
  greatestPositional : Int
  exponentMark : String
  plus : String

/-- A positive decimal `digits · 10^power` in the given notation; a whole number keeps `.0` in positional notation. -/
def Style.write (n : Style) (digits : Nat) (power : Int) : String :=
  let text := toString digits
  let count := text.length
  let exponent := power + ((count - 1 : Nat) : Int)
  let zeros (k : Nat) := String.ofList (List.replicate k '0')
  if n.leastPositional ≤ exponent ∧ exponent ≤ n.greatestPositional then
    if power ≥ 0 then text ++ zeros power.toNat ++ ".0"
    else if exponent ≥ 0 then
      let whole := text.toList.take (exponent.toNat + 1)
      String.ofList (whole ++ '.' :: text.toList.drop (exponent.toNat + 1))
    else "0." ++ zeros ((-exponent).toNat - 1) ++ text
  else
    let mantissa :=
      match text.toList with
      | [] => ""
      | [c] => String.singleton c
      | c :: cs => String.ofList (c :: '.' :: cs)
    mantissa ++ n.exponentMark ++ (if exponent ≥ 0 then n.plus ++ toString exponent else toString exponent)

/-- The double in the given notation; a value that is not finite has no digits and is written as `null`. -/
def Style.float (n : Style) (x : Float) : String :=
  let bits := x.toBits.toNat
  let sign := if bits ≥ signBit then "-" else ""
  let magnitude := bits % signBit
  if magnitude = 0 then sign ++ "0.0"
  else if magnitude ≥ 2047 * fractions then "null"
  else
    let (digits, power) := shortest magnitude
    sign ++ n.write digits power

end Tenancy.Decimal
