import Tenancy.Text.Quoted

/-!
# Text in UTF-8

Bytes have a valid character at their head if and only if they begin with its encoding, and they are a text if and only if
they are the encodings of its characters, one after the other. So every text is read back, nothing else is read at all,
and what is read is the text that was meant.
-/

namespace Tenancy.Text

/-! ## Encodings by their length -/

/-- A byte is the number that it was made of. -/
theorem toNat_byte {n : Nat} (h : n < 256) : (UInt8.ofNat n).toNat = n := by
  rw [UInt8.toNat_ofNat', Nat.mod_eq_of_lt h]

/-- A byte is made of its number. -/
theorem byte_eq (a : UInt8) {n : Nat} (h : n = a.toNat) : UInt8.ofNat n = a := by
  rw [h, UInt8.ofNat_toNat]

/-- A character is the scalar that it was made of. -/
theorem val_ofNat {n : Nat} (h : n.isValidChar) : (Char.ofNat n).val.toNat = n := by
  unfold Char.ofNat
  rw [dif_pos h]
  rfl

section

variable {n : Nat}

/-- An ASCII character is one byte. -/
theorem encode_one (h : n < 0x80) : String.utf8EncodeChar (Char.ofNat n) = [UInt8.ofNat n] := by
  unfold String.utf8EncodeChar
  rw [val_ofNat (.inl (by omega))]
  dsimp only
  rw [if_pos (by omega)]

/-- A character under `0x800` is two bytes. -/
theorem encode_two (h : 0x80 ≤ n) (h' : n < 0x800) :
    String.utf8EncodeChar (Char.ofNat n) = [UInt8.ofNat (n / 64 + 0xC0), UInt8.ofNat (n % 64 + 0x80)] := by
  unfold String.utf8EncodeChar
  rw [val_ofNat (.inl (by omega))]
  dsimp only
  rw [if_neg (by omega), if_pos (by omega), Nat.mod_eq_of_lt (by omega : n / 64 < 0x20)]

/-- A character under `0x10000` is three bytes. -/
theorem encode_three (h : 0x800 ≤ n) (h' : n < 0x10000) (valid : n.isValidChar) :
    String.utf8EncodeChar (Char.ofNat n) =
      [UInt8.ofNat (n / 4096 + 0xE0), UInt8.ofNat (n / 64 % 64 + 0x80), UInt8.ofNat (n % 64 + 0x80)] := by
  unfold String.utf8EncodeChar
  rw [val_ofNat valid]
  dsimp only
  rw [if_neg (by omega), if_neg (by omega), if_pos (by omega), Nat.mod_eq_of_lt (by omega : n / 4096 < 0x10)]

/-- Every other character is four bytes. -/
theorem encode_four (h : 0x10000 ≤ n) (h' : n < 0x110000) :
    String.utf8EncodeChar (Char.ofNat n) =
      [UInt8.ofNat (n / 262144 + 0xF0), UInt8.ofNat (n / 4096 % 64 + 0x80), UInt8.ofNat (n / 64 % 64 + 0x80),
        UInt8.ofNat (n % 64 + 0x80)] := by
  unfold String.utf8EncodeChar
  rw [val_ofNat (.inr (by omega))]
  dsimp only
  rw [if_neg (by omega), if_neg (by omega), if_neg (by omega), Nat.mod_eq_of_lt (by omega : n / 262144 < 8)]

end

/-! ## The character at the head -/

/-- A byte that goes on with a character. -/
abbrev IsTail (b : UInt8) : Prop := 0x80 ≤ b.toNat ∧ b.toNat < 0xC0

/-- Bytes that begin with a well-formed character: the rows are those of the table of well-formed byte sequences, where the
bounds on `n` rule out encodings that are longer than they must be. -/
inductive Head : List UInt8 → Char → List UInt8 → Prop
  | one {a : UInt8} {rest : List UInt8} {n : Nat} (ha : a.toNat < 0x80) (hn : a.toNat = n) :
    Head (a :: rest) (Char.ofNat n) rest
  | two {a b : UInt8} {rest : List UInt8} {n : Nat} (ha : 0xC2 ≤ a.toNat ∧ a.toNat < 0xE0) (hb : IsTail b)
    (hn : (a.toNat - 0xC0) * 64 + (b.toNat - 0x80) = n) : Head (a :: b :: rest) (Char.ofNat n) rest
  | three {a b c : UInt8} {rest : List UInt8} {n : Nat} (ha : 0xE0 ≤ a.toNat ∧ a.toNat < 0xF0) (hb : IsTail b)
    (hc : IsTail c) (hn : ((a.toNat - 0xE0) * 64 + (b.toNat - 0x80)) * 64 + (c.toNat - 0x80) = n) (large : 0x800 ≤ n)
    (valid : n.isValidChar) : Head (a :: b :: c :: rest) (Char.ofNat n) rest
  | four {a b c d : UInt8} {rest : List UInt8} {n : Nat} (ha : 0xF0 ≤ a.toNat ∧ a.toNat < 0xF5) (hb : IsTail b)
    (hc : IsTail c) (hd : IsTail d)
    (hn : (((a.toNat - 0xF0) * 64 + (b.toNat - 0x80)) * 64 + (c.toNat - 0x80)) * 64 + (d.toNat - 0x80) = n)
    (large : 0x10000 ≤ n) (valid : n < 0x110000) : Head (a :: b :: c :: d :: rest) (Char.ofNat n) rest

namespace Head

variable {bytes rest : List UInt8} {c : Char}

/-- A character that is read stands at the head of the bytes. -/
theorem of_headChar? (h : headChar? bytes = some (c, rest)) : Head bytes c rest := by
  unfold headChar? at h
  split at h
  · cases h
  dsimp only at h
  split at h
  next ha => cases h; exact .one ha rfl
  split at h
  next ha =>
    split at h
    next =>
      simp only [Option.map_eq_some_iff, Option.ite_none_right_eq_some, Option.some.injEq, Prod.mk.injEq] at h
      obtain ⟨_, ⟨hb, rfl⟩, rfl, rfl⟩ := h
      exact .two ha hb rfl
    next => cases h
  split at h
  next ha =>
    split at h
    next =>
      simp only [Option.bind_eq_bind, Option.bind_eq_some_iff, Option.ite_none_right_eq_some, Option.some.injEq,
        Prod.mk.injEq] at h
      obtain ⟨_, ⟨hb, rfl⟩, _, ⟨hc, rfl⟩, ⟨large, between⟩, rfl, rfl⟩ := h
      exact .three ha hb hc rfl large (by unfold Nat.isValidChar; omega)
    next => cases h
  split at h
  next ha =>
    split at h
    next =>
      simp only [Option.bind_eq_bind, Option.bind_eq_some_iff, Option.ite_none_right_eq_some, Option.some.injEq,
        Prod.mk.injEq] at h
      obtain ⟨_, ⟨hb, rfl⟩, _, ⟨hc, rfl⟩, _, ⟨hd, rfl⟩, ⟨large, valid⟩, rfl, rfl⟩ := h
      exact .four ha hb hc hd rfl large valid
    next => cases h
  cases h

/-- The character at the head is read. -/
theorem headChar?_eq (h : Head bytes c rest) : headChar? bytes = some (c, rest) := by
  cases h with
  | one ha hn =>
    subst hn
    simp only [headChar?]
    rw [if_pos ha]
  | two ha hb hn =>
    subst hn
    simp only [headChar?]
    rw [if_neg (by omega), if_pos ha, if_pos hb, Option.map_some]
  | three ha hb hc hn large valid =>
    subst hn
    simp only [headChar?]
    rw [if_neg (by omega), if_neg (by omega), if_pos ha, if_pos hb, if_pos hc]
    simp only [Option.bind_eq_bind, Option.bind_some]
    rw [if_pos ⟨large, by unfold Nat.isValidChar at valid; omega⟩]
  | four ha hb hc hd hn large valid =>
    subst hn
    simp only [headChar?]
    rw [if_neg (by omega), if_neg (by omega), if_neg (by omega), if_pos ha, if_pos hb, if_pos hc, if_pos hd]
    simp only [Option.bind_eq_bind, Option.bind_some]
    rw [if_pos ⟨large, valid⟩]

/-- Before the rest stands the encoding of the character at the head. -/
theorem eq_encode (h : Head bytes c rest) : bytes = String.utf8EncodeChar c ++ rest := by
  cases h with
  | @one a _ n ha hn =>
    rw [encode_one (by omega), byte_eq a (by omega)]
    rfl
  | @two a b _ n ha hb hn =>
    rw [encode_two (by omega) (by omega), byte_eq a (by omega), byte_eq b (by omega)]
    rfl
  | @three a b c _ n ha hb hc hn large valid =>
    rw [encode_three large (by omega) valid, byte_eq a (by omega), byte_eq b (by omega), byte_eq c (by omega)]
    rfl
  | @four a b c d _ n ha hb hc hd hn large valid =>
    rw [encode_four large valid, byte_eq a (by omega), byte_eq b (by omega), byte_eq c (by omega), byte_eq d (by omega)]
    rfl

/-- An encoded character stands at the head of its bytes. -/
theorem encode (c : Char) (rest : List UInt8) : Head (String.utf8EncodeChar c ++ rest) c rest := by
  have valid : c.toNat.isValidChar := c.valid
  rw [← Char.ofNat_toNat c]
  generalize c.toNat = n at *
  by_cases one : n < 0x80
  · rw [encode_one one]
    have ha : (UInt8.ofNat n).toNat = n := toNat_byte (by omega)
    exact .one (by omega) ha
  by_cases two : n < 0x800
  · rw [encode_two (by omega) two]
    have ha : (UInt8.ofNat (n / 64 + 0xC0)).toNat = _ := toNat_byte (by omega)
    have hb : (UInt8.ofNat (n % 64 + 0x80)).toNat = _ := toNat_byte (by omega)
    exact .two (by omega) (by omega) (by omega)
  by_cases three : n < 0x10000
  · rw [encode_three (by omega) three valid]
    have ha : (UInt8.ofNat (n / 4096 + 0xE0)).toNat = _ := toNat_byte (by omega)
    have hb : (UInt8.ofNat (n / 64 % 64 + 0x80)).toNat = _ := toNat_byte (by omega)
    have hc : (UInt8.ofNat (n % 64 + 0x80)).toNat = _ := toNat_byte (by omega)
    exact .three (by omega) (by omega) (by omega) (by omega) (by omega) valid
  · have small : n < 0x110000 := by unfold Nat.isValidChar at valid; omega
    rw [encode_four (by omega) small]
    have ha : (UInt8.ofNat (n / 262144 + 0xF0)).toNat = _ := toNat_byte (by omega)
    have hb : (UInt8.ofNat (n / 4096 % 64 + 0x80)).toNat = _ := toNat_byte (by omega)
    have hc : (UInt8.ofNat (n / 64 % 64 + 0x80)).toNat = _ := toNat_byte (by omega)
    have hd : (UInt8.ofNat (n % 64 + 0x80)).toNat = _ := toNat_byte (by omega)
    exact .four (by omega) (by omega) (by omega) (by omega) (by omega) (by omega) small

end Head

/-- A character is at the head of bytes if and only if they begin with its encoding. -/
theorem headChar?_eq_some_iff {bytes rest : List UInt8} {c : Char} :
    headChar? bytes = some (c, rest) ↔ bytes = String.utf8EncodeChar c ++ rest := by
  constructor
  · exact fun h => (Head.of_headChar? h).eq_encode
  · rintro rfl
    exact (Head.encode c rest).headChar?_eq

/-! ## Texts -/

/-- What is read is what was meant. -/
theorem eq_encode_of_decodeUtf8? {fuel : Nat} {bytes : List UInt8} {cs : List Char} (h : decodeUtf8? fuel bytes = some cs) :
    bytes = cs.flatMap String.utf8EncodeChar := by
  fun_induction decodeUtf8? fuel bytes generalizing cs with
  | case1 =>
    cases h
    rfl
  | case2 => cases h
  | case3 fuel bytes _ c rest head ih =>
    obtain ⟨cs, read, rfl⟩ := Option.map_eq_some_iff.mp h
    rw [List.flatMap_cons, ← ih read]
    exact headChar?_eq_some_iff.mp head
  | case4 => cases h

/-- Every text is read back. -/
theorem decodeUtf8?_encode (cs : List Char) {fuel : Nat} (h : (cs.flatMap String.utf8EncodeChar).length ≤ fuel) :
    decodeUtf8? fuel (cs.flatMap String.utf8EncodeChar) = some cs := by
  induction cs generalizing fuel with
  | nil => cases fuel <;> rfl
  | cons c cs ih =>
    rw [List.flatMap_cons] at h ⊢
    have nonempty := List.length_pos_iff.mpr (@String.utf8EncodeChar_ne_nil c)
    rw [List.length_append] at h
    cases fuel with
    | zero => omega
    | succ fuel =>
      rw [decodeUtf8?, headChar?_eq_some_iff.mpr rfl]
      · dsimp only
        rw [ih (by omega), Option.map_some]
      · simp

/-- Listing bytes one by one gives those that are left. -/
theorem toList_loop (bytes : ByteArray) (i : Nat) (listed : List UInt8) :
    ByteArray.toList.loop bytes i listed = listed.reverse ++ bytes.data.toList.drop i := by
  fun_induction ByteArray.toList.loop bytes i listed with
  | case1 i listed inside ih =>
    have next : bytes.data.toList.drop i = bytes.get! i :: bytes.data.toList.drop (i + 1) := by
      rw [List.drop_eq_getElem_cons (by simpa using inside)]
      simp [ByteArray.get!, inside]
    rw [ih, next, List.reverse_cons, List.append_assoc, List.singleton_append]
  | case2 i listed outside =>
    rw [List.drop_eq_nil_of_le (by simpa using Nat.le_of_not_lt outside), List.append_nil]

/-- The bytes of a text are the encodings of its characters. -/
theorem toUTF8_toList (s : String) : s.toUTF8.toList = s.toList.flatMap String.utf8EncodeChar := by
  rw [String.toUTF8_eq_toByteArray, ← String.utf8Encode_toList, ByteArray.toList, toList_loop]
  exact List.toList_data_toByteArray

/-- Bytes are a text if and only if they are the encodings of its characters. -/
theorem decodeUtf8?_eq_some_iff {fuel : Nat} {bytes : List UInt8} {cs : List Char} (h : bytes.length ≤ fuel) :
    decodeUtf8? fuel bytes = some cs ↔ bytes = cs.flatMap String.utf8EncodeChar := by
  constructor
  · exact eq_encode_of_decodeUtf8?
  · rintro rfl
    exact decodeUtf8?_encode cs h

/-- An encoding that is longer than it must be is no text, and neither is half of a pair of code units. -/
example : decodeUtf8? 3 [0xE0, 0x80, 0xAF] = none ∧ decodeUtf8? 3 [0xED, 0xA0, 0x80] = none := ⟨rfl, rfl⟩

end Tenancy.Text
