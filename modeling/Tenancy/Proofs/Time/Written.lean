import Tenancy.Time.Instant
import Tenancy.Proofs.Text.Numerals
import Tenancy.Proofs.Time.Calendar

/-!
# Instants read back

An instant of the calendar is read from its RFC 3339 form, to the nanosecond: part after part, each reader takes what
the writer put there and leaves the rest.
-/

namespace Tenancy.Time.Instant

open Text

/-- The instant lies in the years of the calendar, has fewer nanoseconds than two seconds, and a whole second of them or
more only as a leap second, at the end of a minute. -/
structure Proper (t : Instant) : Prop where
  after_first : years.1 ≤ (Date.ofDays t.days).year
  before_last : (Date.ofDays t.days).year ≤ years.2
  nanos_lt : t.nanos < 2000000000
  leap : 1000000000 ≤ t.nanos → t.secondOfDay % 60 = 59

/-! ## Numbers -/

/-- Digits are not blank. -/
theorem isBlank_of_isDigit {c : Char} (h : c.isDigit = true) : isBlank c = false := by
  have code : 48 ≤ c.toNat ∧ c.toNat ≤ 57 := Char.isDigit_iff_toNat.mp h
  simp [isBlank]
  omega

/-- A text that does not begin with a blank stays as it is. -/
theorem trimStart_cons {c : Char} (h : isBlank c = false) (cs : List Char) : trimStart (c :: cs) = c :: cs := by
  rw [trimStart, List.dropWhile_cons_of_neg (by simp [h])]

/-- Nothing is trimmed before a padded number. -/
theorem trimStart_padded (width n : Nat) (rest : List Char) :
    trimStart ((padded width n).toList ++ rest) = (padded width n).toList ++ rest := by
  obtain ⟨c, cs, h⟩ := List.exists_cons_of_ne_nil (padded_ne_nil width n)
  have digit : c.isDigit = true := isDigit_of_mem_padded (h ▸ List.mem_cons_self)
  rw [h]
  exact trimStart_cons (isBlank_of_isDigit digit) _

/-- A numeral is read as its number, when it fills the room for it or no digit follows. -/
theorem readNumber_padded {room width n : Nat} {rest : List Char} (fits : (padded width n).toList.length ≤ room)
    (stop : (padded width n).toList.length = room ∨ ∀ c ∈ rest.head?, c.isDigit = false)
    (bound : n < 9223372036854775808) : readNumber room ((padded width n).toList ++ rest) = .ok (n, rest) := by
  have value := ofDigitChars_padded width n
  have nonempty := padded_ne_nil width n
  have digits : ∀ c ∈ (padded width n).toList, c.isDigit = true := fun c h => isDigit_of_mem_padded h
  generalize (padded width n).toList = ds at *
  have taken : ((ds ++ rest).take room).takeWhile Char.isDigit = ds := by
    rw [List.take_append, List.take_of_length_le fits, List.takeWhile_append_of_pos digits]
    rcases stop with full | stop
    · simp [full]
    · cases rest with
      | nil => simp
      | cons c rest =>
        have := stop c rfl
        cases room - ds.length <;> simp [this]
  have value : ds.foldl (fun n c => 10 * n + (c.toNat - 48)) 0 = n := value
  obtain ⟨d, ds, rfl⟩ := List.exists_cons_of_ne_nil nonempty
  rw [List.cons_append] at *
  rw [readNumber]
  · simp only [taken, value, bound, List.isEmpty_cons, Bool.false_eq_true, if_false, if_true]
    simp
  · nofun

/-! ## Parts -/

/-- A field of two digits is read back when its number is in the bounds. -/
theorem readField_padded {low high n : Nat} (hl : low ≤ n) (hh : n ≤ high) (h : high < 100) (rest : List Char) :
    readField low high ((padded 2 n).toList ++ rest) = .ok (n, rest) := by
  have size : (padded 2 n).toList.length = 2 := length_padded (by decide) (by omega)
  rw [readField, trimStart_padded, readNumber_padded (Nat.le_of_eq size) (.inl size) (by omega)]
  show (if low ≤ n ∧ n ≤ high then _ else _) = _
  rw [if_pos ⟨hl, hh⟩]
  rfl

/-- A mark is read where it stands. -/
theorem readMark_cons {c : Char} (h : isBlank c = false) (rest : List Char) :
    readMark c (c :: rest) = .ok ((), rest) := by
  rw [readMark, trimStart_cons h]
  simp

/-- A year that can be written is read back. -/
theorem readYear_yearText {year : Int} (h0 : years.1 ≤ year) (h1 : year ≤ years.2) (rest : List Char) :
    readYear ((yearText year).toList ++ '-' :: rest) = .ok (year, '-' :: rest) := by
  simp only [years] at h0 h1
  have inRange (y : Int) (hy : y = year) :
      (if -2147483648 ≤ y ∧ y < 2147483648 then pure (y, '-' :: rest) else throw .outOfRange :
        Except TextError (Int × List Char)) = .ok (year, '-' :: rest) := by
    rw [if_pos (by omega), hy]
    rfl
  have afterSign : readNumber ((padded 4 year.natAbs).toList ++ '-' :: rest).length
      ((padded 4 year.natAbs).toList ++ '-' :: rest) = .ok (year.natAbs, '-' :: rest) :=
    readNumber_padded (by simp) (.inr (by simp)) (by omega)
  rw [yearText]
  split
  · next h =>
    have size : (padded 4 year.toNat).toList.length = 4 := length_padded (by decide) (by omega)
    have number : readNumber 4 ((padded 4 year.toNat).toList ++ '-' :: rest) = .ok (year.toNat, '-' :: rest) :=
      readNumber_padded (Nat.le_of_eq size) (.inl size) (by omega)
    rw [readYear, trimStart_padded]
    obtain ⟨c, ds, hc⟩ := List.exists_cons_of_ne_nil (padded_ne_nil 4 year.toNat)
    have digit : c.isDigit = true := isDigit_of_mem_padded (hc ▸ List.mem_cons_self)
    rw [hc, List.cons_append] at number ⊢
    split
    · next he => cases he; exact absurd digit (by decide)
    · next he => cases he; exact absurd digit (by decide)
    · simp only [number, Except.map, bind, Except.bind]
      exact inRange _ (by omega)
  · have written (sign : Char) : (String.singleton sign ++ padded 4 year.natAbs).toList ++ '-' :: rest =
        sign :: ((padded 4 year.natAbs).toList ++ '-' :: rest) := by simp
    split
    · rw [show "-" = String.singleton '-' from rfl, written, readYear, trimStart_cons (by decide)]
      simp only [afterSign, Except.map, bind, Except.bind]
      exact inRange _ (by omega)
    · rw [show "+" = String.singleton '+' from rfl, written, readYear, trimStart_cons (by decide)]
      simp only [afterSign, Except.map, bind, Except.bind]
      exact inRange _ (by omega)

/-- A fraction of a second is read back. -/
theorem readFraction_fractionText {n : Nat} (h : n < 1000000000) :
    readFraction ((fractionText n).toList ++ ['Z']) = .ok (n, ['Z']) := by
  have read (width k : Nat) (hw : 0 < width) (hw' : width ≤ 9) (hk : k < 10 ^ width) :
      readFraction (("." ++ padded width k).toList ++ ['Z']) = .ok (k * 10 ^ (9 - width), ['Z']) := by
    have size : (padded width k).toList.length = width := length_padded hw hk
    have bound : k < 10 ^ 9 := Nat.lt_of_lt_of_le hk (Nat.pow_le_pow_right (by decide) hw')
    have number : readNumber 9 ((padded width k).toList ++ ['Z']) = .ok (k, ['Z']) :=
      readNumber_padded (by omega) (.inr (by simp)) (by omega)
    have written : ("." ++ padded width k).toList ++ ['Z'] = '.' :: ((padded width k).toList ++ ['Z']) := by simp
    have count : ((padded width k).toList ++ ['Z']).length - ['Z'].length = width := by simp [size]
    rw [written, readFraction, number]
    simp only [bind, Except.bind, count]
    rfl
  rw [fractionText]
  split
  · next h0 => rw [h0]; rfl
  · split
    · next hm => rw [read 3 _ (by decide) (by decide) (by omega)]; congr 2; omega
    · split
      · next hm => rw [read 6 _ (by decide) (by decide) (by omega)]; congr 2; omega
      · rw [read 9 _ (by decide) (by decide) (by omega)]; congr 2; omega

/-- The zone of a written instant is read as no offset. -/
theorem readZone_utc : readZone ['Z'] = .ok (0, []) := by decide

/-! ## The whole -/

/-- Hour, minute and second are within their bounds, and with the nanoseconds they make up the time of day. -/
theorem Proper.clock {t : Instant} (h : t.Proper) :
    t.clock.1 ≤ 23 ∧ t.clock.2.1 ≤ 59 ∧ t.clock.2.2 ≤ 60 ∧
      (t.clock.2.2 = 60 ↔ 1000000000 ≤ t.nanos) ∧
      t.clock.1 * 3600 + t.clock.2.1 * 60 + min t.clock.2.2 59 = t.secondOfDay := by
  have hlt := h.nanos_lt
  have leap := h.leap
  have day : t.secondOfDay < 86400 := by rw [secondOfDay]; omega
  simp only [Instant.clock]
  omega

/-- The text of an instant has its fields one after the other. -/
theorem toList_text (t : Instant) :
    t.text.toList = (yearText (Date.ofDays t.days).year).toList ++ '-' :: ((padded 2 (Date.ofDays t.days).month).toList ++
      '-' :: ((padded 2 (Date.ofDays t.days).day).toList ++ 'T' :: ((padded 2 t.clock.1).toList ++
      ':' :: ((padded 2 t.clock.2.1).toList ++ ':' :: ((padded 2 t.clock.2.2).toList ++
      ((fractionText (t.nanos % 1000000000)).toList ++ ['Z'])))))) := by
  simp [text]

/-- Date and time of day of an instant make it up again. -/
theorem Proper.ofCivil {t : Instant} (h : t.Proper) :
    ofCivil (Date.ofDays t.days) t.clock.1 t.clock.2.1 (min t.clock.2.2 59)
      (if t.clock.2.2 = 60 then t.nanos % 1000000000 + 1000000000 else t.nanos % 1000000000) = t := by
  obtain ⟨-, -, -, leap, sum⟩ := h.clock
  have hlt := h.nanos_lt
  have seconds : t.days * 86400 + t.secondOfDay = t.seconds := by rw [days, secondOfDay]; omega
  have civil : t.days * 86400 + t.clock.1 * 3600 + t.clock.2.1 * 60 + (min t.clock.2.2 59 : Nat) = t.seconds := by
    rw [← seconds, ← sum]
    push_cast
    omega
  have nanos : (if t.clock.2.2 = 60 then t.nanos % 1000000000 + 1000000000 else t.nanos % 1000000000) = t.nanos := by
    split <;> omega
  rw [Instant.ofCivil, Date.toDays_ofDays, nanos, civil]

theorem ok_bind {α β : Type} (a : α) (f : α → Except TextError β) : (Except.ok a >>= f) = f a := rfl

/-- An instant of the calendar is read from its written form. -/
theorem parse_text {t : Instant} (h : t.Proper) : parse t.text = .ok t := by
  obtain ⟨hour, minute, second, -⟩ := h.clock
  have valid := Date.isValid_ofDays t.days
  obtain ⟨month, day⟩ := Date.bounds_of_isValid valid
  have first := h.after_first
  have last := h.before_last
  have fraction := readFraction_fractionText (Nat.mod_lt t.nanos (by decide : 0 < 1000000000))
  rw [parse, toList_text, readYear_yearText first last]
  simp only [ok_bind, pure_bind, readMark_cons (c := '-') (by decide), readMark_cons (c := ':') (by decide),
    readField_padded month.1 month.2 (by decide), readField_padded day.1 day.2 (by decide),
    readField_padded (Nat.zero_le _) hour (by decide), readField_padded (Nat.zero_le _) minute (by decide),
    readField_padded (Nat.zero_le _) second (by decide), fraction, readZone_utc, true_or, if_true]
  -- Everything is read; what is left are the checks of the whole.
  have finished : ¬ ¬ (trimStart []).isEmpty = true := by decide
  have admissible : ¬ ((Date.ofDays t.days).year < years.1 ∨ years.2 < (Date.ofDays t.days).year ∨
      ¬ (Date.ofDays t.days).isValid = true) := by simp [valid]; omega
  have offset : ¬ ((0 : Int) ≤ -86400 ∨ (86400 : Int) ≤ 0) := by decide
  have found : ¬ ((Date.ofDays t.days).year < years.1 ∨ years.2 < (Date.ofDays t.days).year) := by omega
  simp only [h.ofCivil, Int.sub_zero]
  rw [if_neg finished, if_neg admissible, if_neg offset, if_neg found]
  rfl

end Tenancy.Time.Instant
