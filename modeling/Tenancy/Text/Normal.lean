import Tenancy.Text.Normal.Table

/-!
# Canonical composition

A text in normal form C: composed characters are taken apart, marks are put in order of their combining classes, and
what can be composed is composed again. Hangul syllables are composed by arithmetic. Characters that are excluded from
composition are left as they are; domain names hold none of them.
-/

namespace Tenancy.Text.Normal

/-- First code points and counts of the Hangul syllables and their parts. -/
def syllableBase : Nat := 0xAC00

/-- A character taken apart; `fuel` bounds the depth. -/
def decompose : (fuel : Nat) → Nat → List Nat
  | 0, n => [n]
  | fuel + 1, n =>
    if syllableBase ≤ n ∧ n < syllableBase + 11172 then
      let index := n - syllableBase
      let trailing := index % 28
      [0x1100 + index / 588, 0x1161 + index % 588 / 28] ++ (if trailing = 0 then [] else [0x11A7 + trailing])
    else
      match decompositions[n]? with
      | some (first, second) => decompose fuel first ++ [second]
      | none => [n]

/-- Puts a mark in front of a run of marks, behind those of a lower class and in front of all others. -/
def insertMark (n : Nat) : List Nat → List Nat
  | [] => [n]
  | m :: ms => if 0 < combiningClass m ∧ combiningClass m < combiningClass n then m :: insertMark n ms else n :: m :: ms

/-- Marks in order of their classes; equal classes keep their order. -/
def order : List Nat → List Nat
  | [] => []
  | n :: ns => if combiningClass n = 0 then n :: order ns else insertMark n (order ns)

/-- The composition of two characters. -/
def pair? (first second : Nat) : Option Nat :=
  if 0x1100 ≤ first ∧ first < 0x1113 ∧ 0x1161 ≤ second ∧ second < 0x1176 then
    some (syllableBase + ((first - 0x1100) * 21 + (second - 0x1161)) * 28)
  else if syllableBase ≤ first ∧ first < syllableBase + 11172 ∧ (first - syllableBase) % 28 = 0 ∧
      0x11A7 < second ∧ second < 0x11C3 then
    some (first + (second - 0x11A7))
  else compositions[(first, second)]?

/-- Composes the text after a starter; `kept` holds, last first, the characters that stay between them. -/
def composeAfter (starter : Nat) : (kept : List Nat) → List Nat → List Nat
  | kept, [] => starter :: kept.reverse
  | kept, n :: ns =>
    let blocked :=
      match kept with
      | [] => false
      | k :: _ => combiningClass n ≤ combiningClass k
    match if blocked then none else pair? starter n with
    | some composed => composeAfter composed kept ns
    | none =>
      if combiningClass n = 0 then starter :: kept.reverse ++ composeAfter n [] ns
      else composeAfter starter (n :: kept) ns
termination_by _ ns => ns.length

/-- Composes a text that is taken apart and in order. -/
def compose : List Nat → List Nat
  | [] => []
  | n :: ns => if combiningClass n = 0 then composeAfter n [] ns else n :: compose ns

/-- The text in normal form C. -/
def composed (cs : List Char) : List Char :=
  (compose (order (cs.flatMap fun c => decompose 8 c.toNat))).map Char.ofNat

end Tenancy.Text.Normal
