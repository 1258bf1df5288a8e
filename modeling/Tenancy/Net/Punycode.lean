/-!
# Punycode

Text outside ASCII written with letters, digits and hyphens: first the ASCII characters of the text, then, as numbers of
variable length, where each other character is inserted.
-/

namespace Tenancy.Net.Punycode

/-- The letter or digit of a value below 36. -/
def digit (n : Nat) : Char := if n < 26 then Char.ofNat (97 + n) else Char.ofNat (22 + n)

/-- The value of a letter of either case or a digit. -/
def value? (c : Char) : Option Nat :=
  if 'a' ≤ c ∧ c ≤ 'z' then some (c.toNat - 97)
  else if 'A' ≤ c ∧ c ≤ 'Z' then some (c.toNat - 65)
  else if '0' ≤ c ∧ c ≤ '9' then some (c.toNat - 22)
  else none

/-- Halves a difference until it is small; part of `adapt`. -/
def settle : (fuel delta steps : Nat) → Nat × Nat
  | 0, delta, steps => (delta, steps)
  | fuel + 1, delta, steps => if 455 < delta then settle fuel (delta / 35) (steps + 36) else (delta, steps)

/-- The bias after an insertion of distance `delta` into a text that then has `size` characters. -/
def adapt (delta size : Nat) (isFirst : Bool) : Nat :=
  let delta := if isFirst then delta / 700 else delta / 2
  let (delta, steps) := settle 64 (delta + delta / size) 0
  steps + 36 * delta / (delta + 38)

/-- The least digit value at place `k` that is followed by another digit. -/
def threshold (k bias : Nat) : Nat := if k ≤ bias then 1 else if bias + 26 ≤ k then 26 else k - bias

/-- A number as digits of variable length. -/
def writeNumber (bias : Nat) : (fuel k n : Nat) → List Char
  | 0, _, _ => []
  | fuel + 1, k, n =>
    let t := threshold k bias
    if n < t then [digit n] else digit (t + (n - t) % (36 - t)) :: writeNumber bias fuel (k + 36) ((n - t) / (36 - t))

/-- Where the encoder stands: distance since the last insertion, bias, characters handled, and text written. -/
structure Progress where
  delta : Nat
  bias : Nat
  handled : Nat
  basic : Nat
  written : List Char

/-- Goes over the text once for the character `n`. -/
def Progress.pass (n : Nat) (p : Progress) (text : List Char) : Progress :=
  text.foldl (fun p c =>
    if c.toNat < n then { p with delta := p.delta + 1 }
    else if c.toNat = n then
      { p with
        delta := 0
        bias := adapt p.delta (p.handled + 1) (p.handled == p.basic)
        handled := p.handled + 1
        written := p.written ++ writeNumber p.bias 16 36 p.delta }
    else p) p

/-- Writes the characters from `n` on; `fuel` bounds the different characters. -/
def encodeFrom (text : List Char) : (fuel n : Nat) → Progress → List Char
  | 0, _, p => p.written
  | fuel + 1, n, p =>
    match (text.filter fun c => n ≤ c.toNat).map Char.toNat |>.min? with
    | none => p.written
    | some m =>
      let p := { p with delta := p.delta + (m - n) * (p.handled + 1) }
      let p := p.pass m text
      encodeFrom text fuel (m + 1) { p with delta := p.delta + 1 }

/-- The text in letters, digits and hyphens. -/
def encode (text : List Char) : List Char :=
  let basic := text.filter fun c => c.toNat < 128
  let start := if basic.isEmpty then [] else basic ++ ['-']
  encodeFrom text text.length 128 ⟨0, 72, basic.length, basic.length, start⟩

/-- Reads a number of variable length; answers it with the rest. -/
def readNumber? (bias : Nat) : (k weight n : Nat) → List Char → Option (Nat × List Char)
  | _, _, _, [] => none
  | k, weight, n, c :: rest =>
    match value? c with
    | none => none
    | some v =>
      let n := n + v * weight
      let t := threshold k bias
      if v < t then some (n, rest)
      else if 4294967296 ≤ n then none
      else readNumber? bias (k + 36) (weight * (36 - t)) n rest

/-- Reads insertions until the text ends. -/
def decodeFrom : (fuel n i bias : Nat) → (isFirst : Bool) → List Char → List Char → Option (List Char)
  | _, _, _, _, _, text, [] => some text
  | 0, _, _, _, _, _, _ => none
  | fuel + 1, n, i, bias, isFirst, text, rest =>
    match readNumber? bias 36 1 0 rest with
    | none => none
    | some (delta, rest) =>
      let size := text.length + 1
      let total := i + delta
      let n := n + total / size
      let i := total % size
      if 0x110000 ≤ n ∨ (0xD800 ≤ n ∧ n < 0xE000) then none
      else
        decodeFrom fuel n (i + 1) (adapt delta size isFirst) false
          (text.take i ++ Char.ofNat n :: text.drop i) rest

/-- The text that letters, digits and hyphens write. The last hyphen ends the ASCII characters, unless it is the first
character of all; there it is no separator, and no number can be read from it. -/
def decode? (cs : List Char) : Option (List Char) :=
  if cs.any fun c => 128 ≤ c.toNat then none
  else
    let tail := (cs.reverse.takeWhile (· != '-')).reverse
    let basic := cs.take (cs.length - tail.length - 1)
    if basic.isEmpty then decodeFrom cs.length 128 0 72 true [] cs
    else decodeFrom cs.length 128 0 72 true basic tail

end Tenancy.Net.Punycode
