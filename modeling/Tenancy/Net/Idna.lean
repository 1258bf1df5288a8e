import Tenancy.Net.Idna.Mapping
import Tenancy.Net.Punycode
import Tenancy.Text.Bidi
import Tenancy.Text.Joining
import Tenancy.Text.Normal

/-!
# Internationalized domain names in ASCII

A domain name is mapped character by character, put into normal form C, and split at its dots; each label outside ASCII
must be valid and is written in Punycode after `xn--`. Labels that already begin so are decoded and judged likewise.
Hyphens may stand anywhere, and the name is not limited in length; a label is only where it is read from Punycode or
written in it.
-/

namespace Tenancy.Net.Idna

open Text

/-- The prefix of labels in Punycode. -/
def acePrefix : List Char := "xn--".toList

/-- The most characters that are read from Punycode, after the prefix of the label. -/
def longestRead : Nat := 2000

/-- The most characters of a label that is written in Punycode. -/
def longestWritten : Nat := 1000

/-- Whether all characters are ASCII. -/
def isAscii (cs : List Char) : Bool := cs.all fun c => c.toNat < 128

/-- Whether a label outside ASCII is in normal form, begins with no mark, and holds only characters that stay and
joiners where they may be. -/
def isValid (label : List Char) : Bool :=
  Normal.composed label == label &&
    (match label with
      | c :: _ => !marks.contains c
      | [] => true) &&
    label.all stays.contains && joinersFit [] label

/-- A label as it is shown, when it is valid. -/
def shownLabel? (label : List Char) : Option (List Char) :=
  match dropMarker? acePrefix label with
  | some encoded =>
    if longestRead < encoded.length then none
    else
      match Punycode.decode? encoded with
      | some decoded => if isAscii decoded || !isValid decoded then none else some decoded
      | none => none
  | none =>
    if isAscii label || (label.length ≤ longestWritten && isValid label) then some label else none

/-- A shown label in ASCII. -/
def asciiLabel (label : List Char) : List Char :=
  if isAscii label then label else acePrefix ++ Punycode.encode label

/-- Labels joined by dots. -/
def joinDots : List (List Char) → List Char
  | [] => []
  | [label] => label
  | label :: labels => label ++ '.' :: joinDots labels

/-- The domain name in ASCII, when it is valid. -/
def toAscii? (domain : List Char) : Option (List Char) := do
  let mapped ← domain.mapM mapChar?
  let labels ← (splitAll '.' (Normal.composed mapped.flatten)).mapM shownLabel?
  if labels.any runsLeft && !labels.all keepsDirection then none
  else some (joinDots (labels.map asciiLabel))

end Tenancy.Net.Idna
