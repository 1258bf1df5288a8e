import Tenancy.Text.Chars
import Tenancy.Text.Hex

/-!
# Sets of characters

A set of characters is kept as the increasing list of the places where membership changes, so a character belongs to
it when an odd number of changes lie at or before the character.
-/

namespace Tenancy.Text

/-- A set of characters, as the code points where membership changes. -/
structure CharSet where
  changes : Array Nat

namespace CharSet

/-- The running sums of a list of numbers. -/
def sums : (total : Nat) → List Nat → List Nat
  | _, [] => []
  | total, n :: ns => (total + n) :: sums (total + n) ns

/-- The set written as alternating lengths of gaps and runs, in hexadecimal. -/
def ofGaps (text : String) : CharSet := ⟨(sums 0 ((words text).filterMap Hex.read?)).toArray⟩

/-- How many of the changes in places `lo` to `hi` lie at or before `n`, plus `lo`; `fuel` bounds the halvings. -/
def countUpTo (changes : Array Nat) (n : Nat) : (fuel lo hi : Nat) → Nat
  | 0, lo, _ => lo
  | fuel + 1, lo, hi =>
    if lo < hi then
      let middle := (lo + hi) / 2
      if changes.getD middle 0 ≤ n then countUpTo changes n fuel (middle + 1) hi
      else countUpTo changes n fuel lo middle
    else lo

/-- Whether the character is in the set. -/
def contains (s : CharSet) (c : Char) : Bool :=
  countUpTo s.changes c.toNat 24 0 s.changes.size % 2 == 1

end CharSet

end Tenancy.Text
