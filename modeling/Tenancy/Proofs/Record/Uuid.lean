import Tenancy.Uuid
import Tenancy.Proofs.Text.Numerals

/-!
# UUIDs read back

The hyphenated form of a UUID is read as that UUID. A text is read as a UUID if and only if its lower case is one of the four
forms of that UUID (`Uuid.ofChars?_eq_some`); no two forms have the same length, so none is mistaken for another.
-/

namespace Tenancy.Uuid

open Text

/-- The five groups of digits of a UUID. -/
def groups (u : Uuid) : List (List Char) :=
  let digits := Hex.write 32 u.bits.toNat
  [digits.take 8, (digits.drop 8).take 4, (digits.drop 12).take 4, (digits.drop 16).take 4, digits.drop 20]

/-- Between its hyphens a UUID has its groups. -/
theorem splitAll_toChars (u : Uuid) : splitAll '-' u.toChars = u.groups := by
  have digits : '-' ∉ Hex.write 32 u.bits.toNat := Hex.hyphen_not_mem_write _ _
  simp only [toChars, groups, List.append_assoc, List.cons_append]
  generalize Hex.write 32 u.bits.toNat = cs at digits ⊢
  have first : '-' ∉ cs.take 8 := fun h => digits (List.mem_of_mem_take h)
  have middle (n : Nat) : '-' ∉ (cs.drop n).take 4 := fun h => digits (List.mem_of_mem_drop (List.mem_of_mem_take h))
  have last : '-' ∉ cs.drop 20 := fun h => digits (List.mem_of_mem_drop h)
  rw [splitAll_append first, splitAll_append (middle 8), splitAll_append (middle 12), splitAll_append (middle 16),
    splitAll_of_not_mem last]

/-- The groups of a UUID have the lengths of groups. -/
theorem length_groups (u : Uuid) : u.groups.map List.length = groupLengths := by
  simp [groups, groupLengths, Hex.length_write]

/-- The groups of a UUID are its digits. -/
theorem flatten_groups (u : Uuid) : u.groups.flatten = Hex.write 32 u.bits.toNat := by
  have cut (n k : Nat) (cs : List Char) : (cs.drop n).take k ++ cs.drop (n + k) = cs.drop n := by
    rw [← List.drop_drop, List.take_append_drop]
  simp only [groups, List.flatten_cons, List.flatten_nil, List.append_nil]
  rw [cut 16 4, cut 12 4, cut 8 4, List.take_append_drop]

/-- Every UUID is read back from its hyphenated form. -/
theorem ofHyphenated?_toChars (u : Uuid) : ofHyphenated? u.toChars = some u := by
  have bound : u.bits.toNat % 16 ^ 32 = u.bits.toNat := Nat.mod_eq_of_lt u.bits.isLt
  rw [ofHyphenated?]
  simp only [splitAll_toChars, length_groups, if_true, flatten_groups, Hex.read?_write, bound, Option.map_some]
  rw [ofNat, BitVec.ofNat_toNat, BitVec.setWidth_eq]

/-- The hyphenated form has 36 characters. -/
theorem length_toChars (u : Uuid) : u.toChars.length = 36 := by simp [toChars, Hex.length_write]

/-- A UUID is read from its hyphenated form, which is not mistaken for 32 digits without hyphens. -/
theorem parse_text (u : Uuid) : parse u.text = .ok u := by
  have bare : ofDigits? u.toChars = none := by rw [ofDigits?, if_neg (by rw [length_toChars]; decide)]
  rw [parse, text, String.toList_ofList, ofChars?, bare, ofHyphenated?_toChars]
  rfl

/-! ## The four forms -/

theorem length_urnPrefix : urnPrefix.length = 9 := by decide +kernel

/-- The text forms of UUIDs. -/
inductive Form where
  | digits
  | hyphenated
  | braced
  | urn
deriving DecidableEq

namespace Form

/-- A UUID in a form, in lower case. -/
def write (u : Uuid) : Form → List Char
  | digits => Hex.write 32 u.bits.toNat
  | hyphenated => u.toChars
  | braced => '\x7b' :: (u.toChars ++ ['\x7d'])
  | urn => urnPrefix ++ u.toChars

/-- A UUID in a form as a string. -/
def text (f : Form) (u : Uuid) : String := String.ofList (f.write u)

/-- The length of a form. -/
def length : Form → Nat
  | digits => 32
  | hyphenated => 36
  | braced => 38
  | urn => 45

/-- The UUID that a text spells in a form. -/
def read? (cs : List Char) : Form → Option Uuid
  | digits => ofDigits? cs
  | hyphenated => ofHyphenated? cs
  | braced => (inBraces? cs).bind ofHyphenated?
  | urn => (afterUrn? cs).bind ofHyphenated?

/-- A UUID is as long as its form. -/
theorem length_write (f : Form) (u : Uuid) : (f.write u).length = f.length := by
  cases f with
  | digits => rw [write, Hex.length_write, length]
  | hyphenated => rw [write, length_toChars, length]
  | braced => rw [write, List.length_cons, List.length_append, length_toChars, length, List.length_singleton]
  | urn => rw [write, List.length_append, length_urnPrefix, length_toChars, length]

/-- Forms are told apart by their lengths. -/
theorem length_injective : Function.Injective length := by
  intro f f' h
  cases f <;> cases f' <;> first | rfl | cases h

end Form

section

variable {cs : List Char} {u : Uuid}

/-- What 32 digits of either case are read as. -/
theorem map_read?_eq_some (h : cs.length = 32) :
    (Hex.read? cs).map ofNat = some u ↔ cs.map Char.toLower = Hex.write 32 u.bits.toNat := by
  rw [Option.map_eq_some_iff]
  simp only [Hex.read?_eq_some, h]
  constructor
  · rintro ⟨n, ⟨hbound, hwritten⟩, rfl⟩
    rw [hwritten, ofNat, BitVec.toNat_ofNat, Nat.mod_eq_of_lt (by omega)]
  · intro hwritten
    have hbound : u.bits.toNat < 16 ^ 32 := u.bits.isLt
    refine ⟨u.bits.toNat, ⟨hbound, hwritten⟩, ?_⟩
    rw [ofNat, BitVec.ofNat_toNat, BitVec.setWidth_eq]

/-- Digits are read as the UUID that they spell in lower case. -/
theorem ofDigits?_eq_some : ofDigits? cs = some u ↔ cs.map Char.toLower = Hex.write 32 u.bits.toNat := by
  unfold ofDigits?
  split
  · next h => exact map_read?_eq_some h
  · next h =>
    refine ⟨nofun, fun hwritten => absurd ?_ h⟩
    simpa [Hex.length_write] using congrArg List.length hwritten

/-- Five groups of the right lengths are those of the UUID that their digits write. -/
theorem ofHyphenated?_eq_some : ofHyphenated? cs = some u ↔ cs.map Char.toLower = u.toChars := by
  have hsplit : splitAll '-' (cs.map Char.toLower) = (splitAll '-' cs).map (List.map Char.toLower) :=
    splitAll_map (fun c => toLower_eq_iff (by decide)) cs
  have hlengths : ((splitAll '-' cs).map (List.map Char.toLower)).map List.length = (splitAll '-' cs).map List.length := by
    simp
  have hgroups : cs.map Char.toLower = u.toChars ↔ (splitAll '-' cs).map (List.map Char.toLower) = u.groups := by
    rw [← hsplit, ← splitAll_toChars]
    constructor
    · intro h
      rw [h]
    · intro h
      rw [← intercalate_splitAll '-' (cs.map Char.toLower), h, intercalate_splitAll]
  rw [hgroups, List.eq_iff_flatten_eq, hlengths, length_groups, flatten_groups, ← List.map_flatten]
  unfold ofHyphenated?
  extract_lets groups
  split
  · next h =>
    have hlength : (splitAll '-' cs).flatten.length = 32 := by
      rw [List.length_flatten, h]
      rfl
    rw [map_read?_eq_some hlength, and_iff_left h]
  · next h => exact ⟨nofun, fun hboth => absurd hboth.2 h⟩

/-- What stands in braces stands between a brace and another one at the ends. -/
theorem inBraces?_eq_some {inner : List Char} : inBraces? cs = some inner ↔ cs = '\x7b' :: (inner ++ ['\x7d']) := by
  unfold inBraces?
  split
  · next cs =>
    split
    · next hlast =>
      obtain ⟨front, rfl⟩ := List.getLast?_eq_some_iff.mp hlast
      simp [eq_comm]
    · next hlast =>
      refine ⟨nofun, fun h => absurd ?_ hlast⟩
      rw [(List.cons.inj h).2, List.getLast?_concat]
  · next hopen => exact ⟨nofun, fun h => (hopen _ h).elim⟩

/-- What stands after the scheme is the rest of a text that begins with it, in any case. -/
theorem afterUrn?_eq_some {rest : List Char} :
    afterUrn? cs = some rest ↔ ∃ scheme, cs = scheme ++ rest ∧ scheme.map Char.toLower = urnPrefix := by
  unfold afterUrn?
  rw [Option.map_eq_some_iff]
  simp only [dropMarker?_eq_some]
  constructor
  · rintro ⟨behind, hscheme, rfl⟩
    refine ⟨cs.take 9, (List.take_append_drop 9 cs).symm, ?_⟩
    -- nothing is behind the prefix among nine characters
    have hlength := congrArg List.length hscheme
    rw [List.length_map, List.length_append, length_urnPrefix, List.length_take] at hlength
    obtain rfl : behind = [] := List.eq_nil_of_length_eq_zero (by omega)
    rw [hscheme, List.append_nil]
  · rintro ⟨scheme, rfl, hscheme⟩
    have hlength : scheme.length = 9 := by rw [← length_urnPrefix, ← hscheme, List.length_map]
    refine ⟨[], ?_, ?_⟩
    · rw [List.take_left' hlength, hscheme, List.append_nil]
    · rw [List.drop_left' hlength]

namespace Form

/-- A text is read in a form if and only if its lower case is the form. -/
theorem read?_eq_some {f : Form} : f.read? cs = some u ↔ cs.map Char.toLower = f.write u := by
  cases f with
  | digits => exact ofDigits?_eq_some
  | hyphenated => exact ofHyphenated?_eq_some
  | braced =>
    simp only [read?, Option.bind_eq_some_iff, inBraces?_eq_some, ofHyphenated?_eq_some, write]
    constructor
    · rintro ⟨inner, rfl, h⟩
      rw [List.map_cons, List.map_append, h]
      rfl
    · intro h
      obtain ⟨opening, rest, rfl, hopening, h⟩ := List.map_eq_cons_iff.mp h
      obtain ⟨inner, last, rfl, hinner, h⟩ := List.map_eq_append_iff.mp h
      obtain ⟨closing, rfl, hclosing⟩ := List.map_eq_singleton_iff.mp h
      obtain rfl := (toLower_eq_iff (by decide)).mp hopening
      obtain rfl := (toLower_eq_iff (by decide)).mp hclosing
      exact ⟨inner, rfl, hinner⟩
  | urn =>
    simp only [read?, Option.bind_eq_some_iff, afterUrn?_eq_some, ofHyphenated?_eq_some, write, List.map_eq_append_iff]
    constructor
    · rintro ⟨rest, ⟨scheme, hparts, hscheme⟩, hrest⟩
      exact ⟨scheme, rest, hparts, hscheme, hrest⟩
    · rintro ⟨scheme, rest, hparts, hscheme, hrest⟩
      exact ⟨rest, ⟨scheme, hparts, hscheme⟩, hrest⟩

/-- A text that is read in one form is read in no other. -/
theorem read?_of_ne {f f' : Form} (h : cs.map Char.toLower = f.write u) (hne : f' ≠ f) : f'.read? cs = none := by
  refine Option.eq_none_iff_forall_ne_some.mpr fun u' h' => hne (length_injective ?_)
  rw [← f'.length_write u', ← f.length_write u, ← h, read?_eq_some.mp h']

end Form

/-- A text is read as a UUID if and only if its lower case is one of the forms of that UUID. -/
theorem ofChars?_eq_some : ofChars? cs = some u ↔ ∃ f : Form, cs.map Char.toLower = f.write u := by
  have hforms : ofChars? cs = (Form.digits.read? cs <|> Form.hyphenated.read? cs <|> Form.braced.read? cs <|>
    Form.urn.read? cs) := rfl
  rw [hforms]
  constructor
  · simp only [Option.orElse_eq_some]
    rintro (h | ⟨-, h | ⟨-, h | ⟨-, h⟩⟩⟩)
    · exact ⟨.digits, Form.read?_eq_some.mp h⟩
    · exact ⟨.hyphenated, Form.read?_eq_some.mp h⟩
    · exact ⟨.braced, Form.read?_eq_some.mp h⟩
    · exact ⟨.urn, Form.read?_eq_some.mp h⟩
  · rintro ⟨f, h⟩
    have hread := Form.read?_eq_some.mpr h
    have hother : ∀ f' ≠ f, f'.read? cs = none := fun f' => Form.read?_of_ne h
    cases f with
    | digits => simp [hread]
    | hyphenated => simp [hread, hother .digits]
    | braced => simp [hread, hother .digits, hother .hyphenated]
    | urn => simp [hread, hother .digits, hother .hyphenated, hother .braced]

/-- A text is read as a UUID exactly when it spells it in one of the forms, in any case. -/
theorem parse_eq_ok_iff {s : String} : parse s = .ok u ↔ ∃ f : Form, lower s = f.text u := by
  have hlower : ∀ f : Form, lower s = f.text u ↔ s.toList.map Char.toLower = f.write u := fun f => String.ofList_inj
  simp only [hlower, ← ofChars?_eq_some]
  unfold parse
  cases ofChars? s.toList with
  | some u' => simp
  | none => simp

/-- A text is no UUID if and only if its lower case is no form of any. -/
theorem parse_eq_error_iff {s : String} :
    (∃ cause, parse s = .error cause) ↔ ∀ (f : Form) (u : Uuid), lower s ≠ f.text u := by
  constructor
  · rintro ⟨cause, hcause⟩ f u h
    rw [parse_eq_ok_iff.mpr ⟨f, h⟩] at hcause
    cases hcause
  · intro h
    cases hparse : parse s with
    | ok u =>
      obtain ⟨f, hform⟩ := parse_eq_ok_iff.mp hparse
      exact absurd hform (h f u)
    | error cause => exact ⟨cause, rfl⟩

end

end Tenancy.Uuid
