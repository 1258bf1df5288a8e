import Tenancy.Config
import Tenancy.Proofs.Text.Utf8

/-!
# What variables say

A variable says a text when its bytes are the encoding of the text, and nothing when it is absent or its bytes are no text.
What is read of it is what it says. A text spells a number when it consists of decimal digits, before which a plus sign may
stand, and a port is read if and only if the text spells a number of 16 bits: as that number, however many zeros lead it.
-/

namespace Tenancy

open Text

namespace Environment

variable {env env' : Environment} {name s t : String}

/-- A variable is set to the encoding of a text. -/
def Says (env : Environment) (name s : String) : Prop := env.bytes? name = some s.toUTF8.toList

/-- A variable is not set, or what it is set to is no text. -/
def Silent (env : Environment) (name : String) : Prop := ∀ s, ¬ env.Says name s

/-- The text of a value is the one text of which its bytes are the encoding. -/
theorem textOf?_eq_some_iff {bytes : List UInt8} : textOf? bytes = some s ↔ bytes = s.toUTF8.toList := by
  rw [textOf?, Option.map_eq_some_iff, toUTF8_toList]
  constructor
  · rintro ⟨cs, read, rfl⟩
    rw [String.toList_ofList]
    exact (decodeUtf8?_eq_some_iff (Nat.le_refl _)).mp read
  · intro encoding
    exact ⟨s.toList, (decodeUtf8?_eq_some_iff (Nat.le_refl _)).mpr encoding, String.ofList_toList⟩

/-- What is read of a variable is what it says. -/
theorem read_eq_ok_iff : env.read name = .ok s ↔ env.Says name s := by
  unfold read Says
  cases env.bytes? name with
  | none => simp
  | some bytes =>
    rw [Option.some.injEq, ← textOf?_eq_some_iff]
    cases decoded : textOf? bytes with
    | none => simp [decoded]
    | some t => simp [decoded]

/-- A variable has a text exactly when the environment says it. -/
theorem text?_eq_some_iff : env.text? name = some s ↔ env.Says name s := by
  rw [← read_eq_ok_iff, text?]
  cases env.read name with
  | ok t => simp [Except.toOption]
  | error cause => simp [Except.toOption]

/-- A variable has no text exactly when the environment is silent about it. -/
theorem text?_eq_none_iff : env.text? name = none ↔ env.Silent name := by
  simp only [Silent, ← text?_eq_some_iff, Option.eq_none_iff_forall_ne_some, ne_eq]

/-- A variable says no more than one text. -/
theorem Says.unique (h : env.Says name s) (h' : env.Says name t) : s = t :=
  Option.some.inj ((text?_eq_some_iff.mpr h).symm.trans (text?_eq_some_iff.mpr h'))

/-- A variable says something, or it is silent. -/
theorem says_or_silent (env : Environment) (name : String) : (∃ s, env.Says name s) ∨ env.Silent name := by
  by_cases h : ∃ s, env.Says name s
  · exact .inl h
  · exact .inr (not_exists.mp h)

end Environment

/-! ## Numbers that texts spell -/

/-- A text consists of the decimal digits of a number, before which a plus sign may stand. -/
def Spells (s : String) (n : Nat) : Prop :=
  ∃ digits, digits ≠ [] ∧ (∀ c ∈ digits, c.isDigit) ∧ (s.toList = digits ∨ s.toList = '+' :: digits) ∧
    Nat.ofDigitChars 10 digits 0 = n

namespace Config

/-- Digits that are read on never make a number smaller. -/
theorem le_ofDigitChars (cs : List Char) (n : Nat) : n ≤ Nat.ofDigitChars 10 cs n := by
  induction cs generalizing n with
  | nil => exact Nat.le_of_eq Nat.ofDigitChars_nil.symm
  | cons c cs ih =>
    rw [Nat.ofDigitChars_cons]
    exact Nat.le_trans (by omega) (ih _)

/-- Digits are read if and only if they are digits and their number is one of 16 bits, as that number. -/
theorem readDigits_eq_ok_iff {n m : Nat} {cs : List Char} (h : n < 65536) :
    readDigits n cs = .ok m ↔ (∀ c ∈ cs, c.isDigit) ∧ Nat.ofDigitChars 10 cs n = m ∧ m < 65536 := by
  induction cs generalizing n with
  | nil =>
    rw [readDigits, Nat.ofDigitChars_nil, Except.ok.injEq]
    exact ⟨fun same => ⟨nofun, same, same ▸ h⟩, fun ⟨_, same, _⟩ => same⟩
  | cons c cs ih =>
    rw [readDigits, Nat.ofDigitChars_cons, List.forall_mem_cons]
    by_cases digit : c.isDigit
    · rw [if_neg (not_not_intro digit)]
      dsimp only
      split
      next fits =>
        rw [ih fits]
        simp only [digit, true_and]
        rfl
      next large =>
        refine ⟨nofun, ?_⟩
        rintro ⟨-, rfl, small⟩
        exact absurd (Nat.lt_of_le_of_lt (le_ofDigitChars cs _) small) large
    · rw [if_pos digit]
      exact ⟨nofun, fun ⟨⟨isDigit, _⟩, _⟩ => absurd isDigit digit⟩

/-- Digits are a port if and only if it is their number. -/
theorem readDigits_map_eq_ok_iff {cs : List Char} {port : UInt16} :
    (readDigits 0 cs).map UInt16.ofNat = .ok port ↔ (∀ c ∈ cs, c.isDigit) ∧ Nat.ofDigitChars 10 cs 0 = port.toNat := by
  constructor
  · intro h
    cases digits : readDigits 0 cs with
    | error cause => rw [digits] at h; cases h
    | ok m =>
      rw [digits] at h
      obtain rfl := Except.ok.inj h
      obtain ⟨areDigits, number, small⟩ := (readDigits_eq_ok_iff (by omega)).mp digits
      exact ⟨areDigits, by rw [number, UInt16.toNat_ofNat', Nat.mod_eq_of_lt small]⟩
  · rintro ⟨areDigits, number⟩
    have digits : readDigits 0 cs = .ok port.toNat :=
      (readDigits_eq_ok_iff (by omega)).mpr ⟨areDigits, number, port.toNat_lt⟩
    rw [digits, Except.map, UInt16.ofNat_toNat]

/-- A port is read if and only if the text spells it. -/
theorem readPort_eq_ok_iff {s : String} {port : UInt16} : readPort s = .ok port ↔ Spells s port.toNat := by
  unfold readPort Spells
  split
  next none =>
    rw [none]
    refine ⟨nofun, ?_⟩
    rintro ⟨digits, nonempty, -, rfl | same, -⟩
    · exact absurd rfl nonempty
    · cases same
  next c cs signed =>
    rw [readDigits_map_eq_ok_iff, signed]
    constructor
    · rintro ⟨areDigits, number⟩
      exact ⟨c :: cs, List.cons_ne_nil c cs, areDigits, .inr rfl, number⟩
    · rintro ⟨digits, -, areDigits, rfl | same, number⟩
      · cases areDigits '+' List.mem_cons_self
      · obtain rfl := (List.cons.inj same).2
        exact ⟨areDigits, number⟩
  next cs filled unsigned =>
    rw [readDigits_map_eq_ok_iff]
    constructor
    · rintro ⟨areDigits, number⟩
      exact ⟨s.toList, filled, areDigits, .inl rfl, number⟩
    · rintro ⟨digits, nonempty, areDigits, same | same, number⟩
      · rw [same]
        exact ⟨areDigits, number⟩
      · cases digits with
        | nil => cases nonempty rfl
        | cons c digits => cases unsigned c digits same

/-- Zeros in front are no matter, and no port wraps around. -/
example : readPort "+00587" = .ok 587 ∧ readPort "65536" = .error .tooLarge := ⟨rfl, rfl⟩

end Config

end Tenancy
