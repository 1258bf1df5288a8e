import Tenancy.Text.CharSet

/-!
# Direction of characters

The classes of characters that decide whether a label of a domain name can be shown without confusion where texts run
from right to left, and the condition on labels that uses them.
-/

namespace Tenancy.Text

/-- Letters that run from right to left. -/
def rightToLeft : CharSet := CharSet.ofGaps
  "590 1 2d 1 1 1 2 1 2 1 1 38 8 1 2 1 1 1 d 30 22 3 1 65 f 2 7 2 a 17 1 1e 1b 5b b 3a 9 2 4 3 1 18 4 1 9 1 3 1 5 2b
  3 34 2 5 9 2a 1745 1 db0d 1 1 a 1 99 10 16b 12 40 2 36 28 d 73 8f 901 11f 1 e1 3 1 2 5 4 28 3 4 1 a5 2 52 7 1e4 4
  8 a 6 a 1f 6 f1 1f 2c 2 23 9 21 6 46 b 31 4 7a d800 d0 7 6d 7 5a5 2 10e"

/-- Arabic digits. -/
def arabicNumber : CharSet := CharSet.ofGaps
  "600 6 5a a 1 2 70 1 1b2 2 50 1 1044d a 6 a 116 1f"

/-- European digits. -/
def europeanNumber : CharSet := CharSet.ofGaps
  "30 a 78 2 5 1 636 a 1976 1 3 6 6 a 3fe 14 da74 a 3c7 1b c9f4 a ad4 32 1900 b ae5 a"

/-- Separators, terminators, and characters neutral as to direction. -/
def neutral : CharSet := CharSet.ofGaps
  "0 9 5 e 5 f a 7 1a 6 1a a 1 24 1 7 2 1 1 3 2 5 17 1 1f 1 1c1 2 7 e 2 e 5 9 1 11 74 2 8 1 5 2 1 1 6e 1 193 1 2 3 76
  2 1 2 1 1 1 2 5a 1 73 1 a 1 10c 4 1f8 2 7 1 f5 1 101 8 7d 7 1c0 1 fa 4 452 a 66 1 29a 2 13e 1 14 a 6 b 3 1 131 1 3
  2 98 22 5bd 1 1 3 b 3 d 3 d 3 d 2 c 3 2 18 7 30 1 6 4 6 a 5 b 5 11 30 30 2 1 4 1 2 a 1 1 3 5 6 1 1 1 1 1 1 4 1 b 2
  4 5 5 4 2 10 29 3 4 1a6 45 1a 1 94 16 b 15 28 62 1c2 1 153 100 274 2 8a e5 6 e 7 100 5e 22 1a 1 59 c d6 1a 10 1 4
  3 19 f 1 5 2 5 3 5b 2 3 1 5a 1 c4 26 9 1 2d 2 31 10 1c 3 32 f c 4 a7 4 63 2 1f 1 19c0 40 5690 37 146 3 63 1 a 2 80
  22 66 1 9f 4 c 2 3a 4 2f2 2 4fbd 1 99 10 16b 12 40 2 36 28 d 3 10 a 16 23 1 13 1 4 93 1 1 f a 7 1a 6 1a b 7a 7 1 7
  1 10 101 1 3e 4d 3 d 3 1 77e 1 219 7 22e 1 161 9 179 14 5fa d 968 1d 4ff0 1 4cbd 4 f5c d6 24 3 3 1b4 6 17 f 11 282
  8 6e 2 15 42 3 1 ba 57 36a 1 19 1 1f 1 19 1 1f 1 19 1 1f 1 19 1 1f 1 19 1 b3b 1 bf0 2 10e 2c 4 64 c f 2 f 1 f 1 25
  15 5 1f 1 3a 6 3d 1 b2 6 9a 3d9 3 11 3 d 3 da 6 c 4 1 f c 4 38 8 a 6 28 8 1e 2 c 4 2 e 9 27 158 8 e 2 d 3 b 3 39 1
  1 4 10 2 c 4 a 7 93 1 5c a 1 403 2 fffe 2 fffe 2 fffe 2 fffe 2 fffe 2 fffe 2 fffe 2 fffe 2 fffe 2 fffe 2 fffe 2
  fffe 102 f0 e10 effe 2 fffe 2 fffe"

/-- Marks that take the direction of the character before them. -/
def nonspacing : CharSet := CharSet.ofGaps
  "300 70 113 7 107 2d 1 1 1 2 1 2 1 1 48 b 30 15 10 1 65 7 2 6 2 2 1 4 23 1 1e 1b 5b b 3a 9 9 1 18 4 1 9 1 3 1 5 2b
  3 3b 9 2a 18 1 20 37 1 1 1 4 8 4 1 3 7 a 2 1d 1 3a 1 4 4 8 1 14 2 1a 1 2 2 39 1 4 2 4 2 2 3 3 1 1e 2 3 1 b 2 39 1
  4 5 1 2 4 1 14 2 16 6 1 1 3a 1 2 1 1 4 8 1 7 2 b 2 1e 1 3d 1 c 1 32 1 3 1 37 1 1 3 5 3 1 4 7 2 b 2 1d 1 3a 1 f 2
  14 2 1c 2 39 2 4 4 8 1 14 2 1d 1 48 1 7 3 1 1 5a 1 2 7 c 8 62 1 2 9 b 7 49 2 1b 1 1 1 1 1 37 e 1 5 1 2 5 b 1 24 9
  1 66 4 1 6 1 2 2 2 19 2 4 3 10 4 d 1 2 2 6 1 f 1 2bf 3 3b2 3 1d 2 1e 2 1e 2 40 2 1 7 8 1 2 b 9 1 2d 3 1 1 75 2 22
  1 76 3 4 2 9 1 6 3 db 2 2 1 3a 1 1 7 1 1 1 1 2 8 6 a 2 1 30 54 30 1 1 4 2 1 5 1 28 9 c 2 20 4 2 2 1 3 38 1 1 2 3 1
  1 3 3a 8 2 2 98 3 1 d 1 7 4 1 6 1 3 2 c6 40 2d0 30 bef 3 8d 1 60 20 22a 4 6b 2 75d4 4 1 a 20 2 50 2 110 1 3 1 4 1
  19 2 5 1 97 2 1a 12 d 1 26 8 19 b 2e 3 30 1 2 4 2 2 27 1 43 6 2 2 2 2 c 1 8 1 2f 1 33 1 1 3 2 2 5 2 1 1 2a 2 8 1
  ee 1 2 1 4 1 4f30 1 2e1 10 10 10 3cd 1 e2 1 95 5 686 3 1 2 5 4 28 3 4 1 a5 2 23d 4 41 5 13d 2 4d 6 46 b 31 4 7b 1
  36 f 29 1 2 2 a 3 31 4 2 2 7 1 3d 3 24 5 1 8 3e 1 c 2 34 9 a 4 2 1 5f 3 2 1 1 2 6 1 2 1 9d 1 3 8 15 2 39 2 3 1 25
  7 3 5 46 6 d 1 1 1 1 1 e 2 55 8 2 3 1 1 17 1 54 6 1 1 4 2 1 2 ee 4 6 2 1 2 1b 2 55 8 2 1 1 2 6a 1 1 1 2 6 1 1 65 1
  1 1 2 4 1 5 103 9 1 2 100 2 1 1 4 1 90 4 2 2 4 1 20 6 2 2 28 6 2 4 8 1 9 6 2 3 2e d 1 2 c6 1 1 3 1 1 c9 7 1 6 54
  16 2 7 1 2 1 2 7a 6 3 1 1 2 1 7 1 1 48 2 3 1 1 1 15b 2 b 2 34 5 5 1 1 1 17 1 14e5 1 6 f 2cc8 c 3 3 9c0 5 3b 7 418
  1 3f 4 51 1 4cb8 2 1261 2e 2 17 220 3 11 8 2 7 1e 4 94 3 7bb 37 4 32 8 1 e 1 16 5 1 f 550 7 1 11 2 7 1 2 1 5 64 1
  a0 7 177 1 3d 4 1fc 4 fe 2 f3 1 2 1 7 2 5 1 1da 7 6d 7 c17b5 f0"

/-- Blanks and characters that embed, override or isolate a direction. -/
def directional : CharSet := CharSet.ofGaps
  "9 5 e 5 64 1 15fa 1 97f b 1d 7 30 1 6 4 f96 1"

/-- The direction of a character. -/
inductive Direction where
  | left
  | right
  | arabicNumber
  | europeanNumber
  | neutral
  | nonspacing
  | other
deriving DecidableEq, Repr

/-- The direction of a character. -/
def direction (c : Char) : Direction :=
  if rightToLeft.contains c then .right
  else if arabicNumber.contains c then .arabicNumber
  else if europeanNumber.contains c then .europeanNumber
  else if neutral.contains c then .neutral
  else if nonspacing.contains c then .nonspacing
  else if directional.contains c then .other
  else .left

/-- Whether a label holds characters that run from right to left. -/
def runsLeft (label : List Char) : Bool :=
  label.any fun c => direction c == .right || direction c == .arabicNumber

/-- The condition of RFC 5893 on a label of a name in which some label runs from right to left. -/
def keepsDirection (label : List Char) : Bool :=
  let classes := label.map direction
  let ending := (classes.reverse.dropWhile (· == .nonspacing)).head?
  match classes.head? with
  | none => true
  | some .right =>
    classes.all (fun d => d != .left && d != .other) &&
      (ending == some .right || ending == some .arabicNumber || ending == some .europeanNumber) &&
      !(classes.contains .europeanNumber && classes.contains .arabicNumber)
  | some .left =>
    classes.all (fun d => d != .right && d != .arabicNumber && d != .other) &&
      (ending == some .left || ending == some .europeanNumber)
  | some _ => false

end Tenancy.Text
