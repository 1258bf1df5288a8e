/-!
# Characters and cuts of text

Lists of characters are what every reader in this library works on. Here are the cuts they share: at the first
separator, at every separator, at the first occurrence of a marker, and at the white space of Unicode at the ends.
-/

namespace Tenancy.Text

/-- The text before and after the first `sep`, when there is one. -/
def splitFirst? (sep : Char) : List Char → Option (List Char × List Char)
  | [] => none
  | c :: cs =>
    if c = sep then some ([], cs)
    else (splitFirst? sep cs).map fun (before, after) => (c :: before, after)

/-- The text before and after the last `sep`, when there is one. -/
def splitLast? (sep : Char) : List Char → Option (List Char × List Char)
  | [] => none
  | c :: cs =>
    match splitLast? sep cs with
    | some (before, after) => some (c :: before, after)
    | none => if c = sep then some ([], cs) else none

/-- The pieces between the separators; one more piece than there are separators. -/
def splitAll (sep : Char) : List Char → List (List Char)
  | [] => [[]]
  | c :: cs =>
    if c = sep then [] :: splitAll sep cs
    else
      match splitAll sep cs with
      | piece :: pieces => (c :: piece) :: pieces
      | [] => [[c]]

/-- The words of a text, between spaces and line breaks; `current` holds the word being read, last character first. -/
def wordsFrom : (current : List Char) → List Char → List (List Char)
  | current, [] => if current.isEmpty then [] else [current.reverse]
  | current, c :: cs =>
    if c = ' ' ∨ c = '\n' then (if current.isEmpty then [] else [current.reverse]) ++ wordsFrom [] cs
    else wordsFrom (c :: current) cs

/-- The words of a text, between spaces and line breaks. -/
def words (s : String) : List (List Char) := wordsFrom [] s.toList

/-- The rest after `marker`, when the text begins with it. -/
def dropMarker? : List Char → List Char → Option (List Char)
  | [], cs => some cs
  | _ :: _, [] => none
  | m :: ms, c :: cs => if m = c then dropMarker? ms cs else none

/-- Whether `marker` occurs somewhere in the text. -/
def containsMarker (marker : List Char) : List Char → Bool
  | [] => marker.isEmpty
  | c :: cs => (dropMarker? marker (c :: cs)).isSome || containsMarker marker cs

/-- Whether the character has the property White_Space. -/
def isBlank (c : Char) : Bool :=
  let n := c.toNat
  (9 ≤ n && n ≤ 13) || n == 0x20 || n == 0x85 || n == 0xA0 || n == 0x1680 || (0x2000 ≤ n && n ≤ 0x200A) ||
    n == 0x2028 || n == 0x2029 || n == 0x202F || n == 0x205F || n == 0x3000

/-- The text without blanks at its beginning. -/
def trimStart (cs : List Char) : List Char := cs.dropWhile isBlank

/-- The text without the characters of a class at its end. -/
def dropEndWhile (p : Char → Bool) (cs : List Char) : List Char := (cs.reverse.dropWhile p).reverse

/-- The text without blanks at its ends. -/
def trim (cs : List Char) : List Char := dropEndWhile isBlank (trimStart cs)

/-- Number of bytes of the text in UTF-8. -/
def byteLength (cs : List Char) : Nat :=
  cs.foldl (fun n c => n + c.utf8Size) 0

/-- The text with its ASCII letters in lower case. -/
def lower (s : String) : String :=
  String.ofList (s.toList.map Char.toLower)

/-- The numeral of a nonnegative number, filled up with zeros on the left to `width` digits. -/
def padded (width n : Nat) : String :=
  let digits := toString n
  String.ofList (List.replicate (width - digits.length) '0') ++ digits

end Tenancy.Text
