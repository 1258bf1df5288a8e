/-!
# Hexadecimal digits

Numbers written with a fixed count of hexadecimal digits, and read back from digits in either case.
-/

namespace Tenancy.Text.Hex

/-- The lower-case digit of a number below sixteen. -/
def digit (n : Nat) : Char :=
  if n < 10 then Char.ofNat (48 + n) else Char.ofNat (87 + n)

/-- The upper-case digit of a number below sixteen. -/
def upperDigit (n : Nat) : Char :=
  if n < 10 then Char.ofNat (48 + n) else Char.ofNat (55 + n)

/-- What a digit of either case is worth. -/
def value? (c : Char) : Option Nat :=
  if '0' ≤ c ∧ c ≤ '9' then some (c.toNat - 48)
  else if 'a' ≤ c ∧ c ≤ 'f' then some (c.toNat - 87)
  else if 'A' ≤ c ∧ c ≤ 'F' then some (c.toNat - 55)
  else none

/-- Whether the character is a hexadecimal digit. -/
def isDigit (c : Char) : Bool := (value? c).isSome

/-- The last `width` hexadecimal digits of `n`, the most significant first. -/
def write : (width n : Nat) → List Char
  | 0, _ => []
  | w + 1, n => write w (n / 16) ++ [digit (n % 16)]

/-- The number written by a run of digits; no digits write zero. -/
def read? (cs : List Char) : Option Nat :=
  cs.foldlM (fun n c => (value? c).map (16 * n + ·)) 0

/-- The shortest hexadecimal numeral of `n`. -/
def numeral (n : Nat) : List Char :=
  match (write 16 n).dropWhile (· == '0') with
  | [] => ['0']
  | cs => cs

end Tenancy.Text.Hex
