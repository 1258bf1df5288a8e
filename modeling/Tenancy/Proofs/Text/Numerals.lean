import Mathlib.Data.List.Induction
import Mathlib.Tactic.Ring
import Tenancy.Text.Chars
import Tenancy.Text.Hex

/-!
# Cuts and numerals read back

Pieces joined by a separator that is in none of them are cut apart again, and what is cut apart is joined again. A numeral of a
fixed width is read as the number it writes, whatever the case of its digits, and nothing else is read as that number.
-/

namespace Tenancy.Text

/-! ## Pieces between separators -/

/-- A text without the separator is one piece. -/
theorem splitAll_of_not_mem {sep : Char} {piece : List Char} (h : sep ∉ piece) : splitAll sep piece = [piece] := by
  induction piece with
  | nil => rfl
  | cons c piece ih =>
    rw [List.mem_cons, not_or] at h
    rw [splitAll, if_neg (Ne.symm h.1), ih h.2]

/-- A piece without the separator is split off at the first one. -/
theorem splitAll_append {sep : Char} {piece : List Char} (h : sep ∉ piece) (rest : List Char) :
    splitAll sep (piece ++ sep :: rest) = piece :: splitAll sep rest := by
  induction piece with
  | nil => rw [List.nil_append, splitAll, if_pos rfl]
  | cons c piece ih =>
    rw [List.mem_cons, not_or] at h
    rw [List.cons_append, splitAll, if_neg (Ne.symm h.1), ih h.2]

/-- There is always a first piece. -/
theorem exists_splitAll (sep : Char) (cs : List Char) : ∃ piece pieces, splitAll sep cs = piece :: pieces := by
  cases cs with
  | nil => exact ⟨[], [], rfl⟩
  | cons c cs =>
    unfold splitAll
    split
    · exact ⟨_, _, rfl⟩
    · split
      · exact ⟨_, _, rfl⟩
      · exact ⟨_, _, rfl⟩

/-- The pieces of a text, joined by the separator, are the text. -/
theorem intercalate_splitAll (sep : Char) (cs : List Char) : [sep].intercalate (splitAll sep cs) = cs := by
  induction cs with
  | nil => rfl
  | cons c cs ih =>
    obtain ⟨piece, pieces, hsplit⟩ := exists_splitAll sep cs
    rw [hsplit] at ih
    unfold splitAll
    rw [hsplit]
    split
    · next h => rw [List.intercalate_cons_cons, ih, h]; rfl
    · cases pieces with
      | nil => rw [List.intercalate_singleton] at ih ⊢; rw [ih]
      | cons next pieces =>
        rw [List.intercalate_cons_cons] at ih ⊢
        rw [List.cons_append, List.cons_append, ih]

/-- A text is split as it is after a change of characters that moves no separator. -/
theorem splitAll_map {f : Char → Char} {sep : Char} (h : ∀ c, f c = sep ↔ c = sep) (cs : List Char) :
    splitAll sep (cs.map f) = (splitAll sep cs).map (List.map f) := by
  induction cs with
  | nil => rfl
  | cons c cs ih =>
    obtain ⟨piece, pieces, hsplit⟩ := exists_splitAll sep cs
    rw [List.map_cons, splitAll, splitAll, ih, hsplit]
    by_cases hc : c = sep
    · rw [if_pos ((h c).mpr hc), if_pos hc]; rfl
    · rw [if_neg (mt (h c).mp hc), if_neg hc]; rfl

/-- A text is cut at its first separator, before which there is none. -/
theorem splitFirst?_eq_some {sep : Char} {cs before after : List Char} :
    splitFirst? sep cs = some (before, after) ↔ cs = before ++ sep :: after ∧ sep ∉ before := by
  induction cs generalizing before with
  | nil => simp [splitFirst?]
  | cons c cs ih =>
    unfold splitFirst?
    split
    · next h =>
      subst h
      cases before with
      | nil => simp [eq_comm]
      | cons b before => simp +contextual
    · next h =>
      rw [Option.map_eq_some_iff]
      constructor
      · rintro ⟨⟨before', after'⟩, hsplit, ⟨⟩⟩
        obtain ⟨rfl, hbefore⟩ := ih.mp hsplit
        exact ⟨rfl, by simp [Ne.symm h, hbefore]⟩
      · rintro ⟨hparts, hbefore⟩
        cases before with
        | nil => exact absurd (List.cons.inj hparts).1 h
        | cons b before =>
          obtain ⟨rfl, rfl⟩ := List.cons.inj hparts
          exact ⟨(before, after), ih.mpr ⟨rfl, fun hmem => hbefore (List.mem_cons_of_mem _ hmem)⟩, rfl⟩

/-- A text is not split exactly when it does not hold the separator. -/
theorem splitFirst?_eq_none {sep : Char} {cs : List Char} : splitFirst? sep cs = none ↔ sep ∉ cs := by
  induction cs with
  | nil => simp [splitFirst?]
  | cons c cs ih =>
    unfold splitFirst?
    split
    · next h => simp [h]
    · next h => rw [Option.map_eq_none_iff, ih, List.mem_cons, not_or, and_iff_right (Ne.symm h)]

/-- A text that begins with a marker is the marker and the rest. -/
theorem dropMarker?_eq_some {marker cs rest : List Char} :
    dropMarker? marker cs = some rest ↔ cs = marker ++ rest := by
  induction marker generalizing cs with
  | nil => simp [dropMarker?]
  | cons m ms ih =>
    cases cs with
    | nil => simp [dropMarker?]
    | cons c cs =>
      by_cases h : m = c
      · simp [dropMarker?, h, ih]
      · simp [dropMarker?, h, Ne.symm h]

/-! ## Characters in lower case -/

/-- Only the capital letters of ASCII are put in lower case. -/
theorem toNat_toLower (c : Char) :
    c.toLower.toNat = if 65 ≤ c.toNat ∧ c.toNat ≤ 90 then c.toNat + 32 else c.toNat := by
  have hupper : c.val ≥ 'A'.val ∧ c.val ≤ 'Z'.val ↔ 65 ≤ c.toNat ∧ c.toNat ≤ 90 := by
    rw [ge_iff_le, UInt32.le_iff_toNat_le, UInt32.le_iff_toNat_le]
    rfl
  unfold Char.toLower
  split
  · next h =>
    have hbound : 65 ≤ c.val.toNat ∧ c.val.toNat ≤ 90 := hupper.mp h
    rw [if_pos (hupper.mp h)]
    change (c.val + 32).toNat = c.val.toNat + 32
    have hfits : c.val.toNat + 32 < 2 ^ 32 := by omega
    rw [UInt32.toNat_add]
    exact Nat.mod_eq_of_lt hfits
  · next h => rw [if_neg (mt hupper.mpr h)]

/-- What is ASCII in lower case was ASCII before. -/
theorem toNat_lt_of_toLower {c : Char} (h : c.toLower.toNat < 128) : c.toNat < 128 := by
  rw [toNat_toLower] at h
  split at h <;> omega

/-- A character that comes before all letters or after them is the lower case of no other one. -/
theorem toLower_eq_iff {c mark : Char} (hmark : mark.toNat < 65 ∨ 122 < mark.toNat) : c.toLower = mark ↔ c = mark := by
  rw [← Char.toNat_inj, ← Char.toNat_inj, toNat_toLower]
  split <;> omega

namespace Hex

/-! ## Hexadecimal numerals -/

/-- A digit is read as its value. -/
theorem value?_digit : ∀ n < 16, value? (digit n) = some n := by decide

theorem digit_ne_hyphen : ∀ n < 16, digit n ≠ '-' := by decide

/-- As many digits are written as were asked for. -/
theorem length_write (width n : Nat) : (write width n).length = width := by
  induction width generalizing n with
  | zero => rfl
  | succ width ih => rw [write, List.length_append, ih]; rfl

/-- No hyphen stands among digits. -/
theorem hyphen_not_mem_write (width n : Nat) : '-' ∉ write width n := by
  induction width generalizing n with
  | zero => exact List.not_mem_nil
  | succ width ih =>
    rw [write, List.mem_append, List.mem_singleton, not_or]
    exact ⟨ih _, (digit_ne_hyphen _ (Nat.mod_lt n (by decide))).symm⟩

/-- The digits of a number are read as what fits their count. -/
theorem read?_write (width n : Nat) : read? (write width n) = some (n % 16 ^ width) := by
  induction width generalizing n with
  | zero => simp [write, read?, Nat.mod_one]
  | succ width ih =>
    have last : value? (digit (n % 16)) = some (n % 16) := value?_digit _ (Nat.mod_lt n (by decide))
    have split : 16 * (n / 16 % 16 ^ width) + n % 16 = n % 16 ^ (width + 1) := by
      rw [pow_succ', Nat.mod_mul, add_comm]
    have front := ih (n / 16)
    rw [read?] at front ⊢
    rw [write, List.foldlM_append, front]
    simp [last, split]

/-- Hexadecimal digits are ASCII. -/
theorem toNat_lt_of_value? {c : Char} (h : (value? c).isSome = true) : c.toNat < 128 := by
  have below {last : Char} (hlast : last.toNat < 128) (hc : c ≤ last) : c.toNat < 128 :=
    Nat.lt_of_le_of_lt (UInt32.le_iff_toNat_le.mp hc) hlast
  unfold value? at h
  split at h
  · next hc => exact below (by decide) hc.2
  · split at h
    · next hc => exact below (by decide) hc.2
    · split at h
      · next hc => exact below (by decide) hc.2
      · cases h

/-- A digit of either case is worth what its lower case writes. -/
theorem value?_eq_some {c : Char} {d : Nat} : value? c = some d ↔ d < 16 ∧ c.toLower = digit d := by
  have ascii : ∀ n < 128, (∀ d < 16, value? (Char.ofNat n) = some d ↔ (Char.ofNat n).toLower = digit d) ∧
      ∀ d ∈ value? (Char.ofNat n), d < 16 := by decide +kernel
  constructor
  · intro h
    obtain ⟨hiff, hbound⟩ := ascii c.toNat (toNat_lt_of_value? (by rw [h]; rfl))
    rw [Char.ofNat_toNat] at hiff hbound
    exact ⟨hbound d h, (hiff d (hbound d h)).mp h⟩
  · rintro ⟨hd, h⟩
    have hdigit : ∀ d < 16, (digit d).toNat < 128 := by decide
    obtain ⟨hiff, -⟩ := ascii c.toNat (toNat_lt_of_toLower (h ▸ hdigit d hd))
    rw [Char.ofNat_toNat] at hiff
    exact (hiff d hd).mpr h

/-- A run of digits of either case is read as the number that its lower case writes. -/
theorem read?_eq_some {cs : List Char} {n : Nat} :
    read? cs = some n ↔ n < 16 ^ cs.length ∧ cs.map Char.toLower = write cs.length n := by
  -- from the last digit to the first, as numbers are written
  induction cs using List.reverseRecOn generalizing n with
  | nil => simp [read?, write, eq_comm]
  | append_singleton cs c ih =>
    have hread : read? (cs ++ [c]) = (read? cs).bind fun m => (value? c).map (16 * m + ·) := by
      unfold read?
      rw [List.foldlM_append]
      simp
    rw [hread, Option.bind_eq_some_iff]
    simp only [List.length_append, List.length_singleton, List.map_append, List.map_cons, List.map_nil, write]
    constructor
    · rintro ⟨m, hm, h⟩
      obtain ⟨d, hd, rfl⟩ := Option.map_eq_some_iff.mp h
      obtain ⟨hbound, hfront⟩ := ih.mp hm
      obtain ⟨hd, hlast⟩ := value?_eq_some.mp hd
      refine ⟨by rw [pow_succ]; omega, ?_⟩
      rw [hfront, hlast, show (16 * m + d) / 16 = m by omega, show (16 * m + d) % 16 = d by omega]
    · rintro ⟨hbound, hwritten⟩
      obtain ⟨hfront, hlast⟩ := List.append_inj' hwritten rfl
      refine ⟨n / 16, ih.mpr ⟨?_, hfront⟩, ?_⟩
      · rw [pow_succ] at hbound
        omega
      · rw [value?_eq_some.mpr ⟨Nat.mod_lt n (by decide), (List.cons.inj hlast).1⟩, Option.map_some]
        exact congrArg some (Nat.div_add_mod n 16)

end Hex

/-! ## Decimal numerals -/

/-- A padded number has its digits after the zeros that are missing. -/
theorem toList_padded (width n : Nat) :
    (padded width n).toList = List.replicate (width - (Nat.toDigits 10 n).length) '0' ++ Nat.toDigits 10 n := by
  simp [padded, Nat.toString_eq_repr, Nat.repr_eq_ofList_toDigits]

/-- A padded number is made of digits. -/
theorem isDigit_of_mem_padded {width n : Nat} {c : Char} (h : c ∈ (padded width n).toList) : c.isDigit = true := by
  rw [toList_padded, List.mem_append] at h
  rcases h with h | h
  · rw [List.eq_of_mem_replicate h]; rfl
  · exact Nat.isDigit_of_mem_toDigits (by decide) (by decide) h

theorem padded_ne_nil (width n : Nat) : (padded width n).toList ≠ [] := by
  rw [toList_padded]
  simp [Nat.toDigits_ne_nil]

/-- A padded number is as long as asked for, when it is small enough. -/
theorem length_padded {width n : Nat} (hw : 0 < width) (h : n < 10 ^ width) : (padded width n).toList.length = width := by
  have := (Nat.length_toDigits_le_iff (by decide) hw).mpr h
  rw [toList_padded, List.length_append, List.length_replicate]
  omega

/-- The zeros on the left change nothing. -/
theorem ofDigitChars_padded (width n : Nat) : Nat.ofDigitChars 10 (padded width n).toList 0 = n := by
  have zeros (k : Nat) (cs : List Char) :
      Nat.ofDigitChars 10 (List.replicate k '0' ++ cs) 0 = Nat.ofDigitChars 10 cs 0 := by
    induction k with
    | zero => rfl
    | succ k ih => rw [List.replicate_succ, List.cons_append, Nat.ofDigitChars_cons]; exact ih
  rw [toList_padded, zeros, Nat.ofDigitChars_toDigits (by decide) (by decide)]

end Tenancy.Text
