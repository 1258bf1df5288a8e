import Mathlib.Data.List.DropRight
import Mathlib.Data.List.TakeWhile
import Tenancy.Mail.Address
import Tenancy.Mail.Mailbox
import Tenancy.Proofs.Text.Numerals

/-!
# Atoms joined by dots

The grammar of a mailbox as a relation: a `DotAtom` is an atom, or an atom before a dot and another `DotAtom`. The readers
of mailboxes find exactly these. What stands before the `@` of an address that a record may hold is made of letters, digits
and marks, and can be nothing but a `DotAtom`: neither a quoted text nor the name in front of an address in brackets.
-/

namespace Tenancy.Mail.Mailbox

open Text

/-- A nonempty run of characters of an atom. -/
def Atom (cs : List Char) : Prop := cs ≠ [] ∧ ∀ c ∈ cs, isAtomChar c = true

/-- Atoms joined by dots. -/
inductive DotAtom : List Char → Prop where
  | single {atom : List Char} : Atom atom → DotAtom atom
  | dotted {atom rest : List Char} : Atom atom → DotAtom rest → DotAtom (atom ++ '.' :: rest)

/-- A text that does not go on with a character of an atom. -/
def EndsAtom (rest : List Char) : Prop := ∀ c ∈ rest.head?, isAtomChar c = false

/-- A text that goes on neither with a character of an atom nor with a dot. -/
def EndsDotAtom (rest : List Char) : Prop := EndsAtom rest ∧ rest.head? ≠ some '.'

/-! ## The grammar -/

/-- No dot stands in an atom. -/
theorem dot_not_mem {atom : List Char} (h : Atom atom) : '.' ∉ atom := by
  intro mem
  exact absurd (h.2 _ mem) (by decide)

/-- Atoms joined by dots have no other characters. -/
theorem DotAtom.chars {word : List Char} (h : DotAtom word) : ∀ c ∈ word, c = '.' ∨ isAtomChar c = true := by
  induction h with
  | single atom => exact fun c mem => .inr (atom.2 c mem)
  | dotted atom _ ih =>
    intro c mem
    rcases List.mem_append.mp mem with mem | mem
    · exact .inr (atom.2 c mem)
    · rcases List.mem_cons.mp mem with rfl | mem
      · exact .inl rfl
      · exact ih c mem

/-- Atoms joined by dots begin with a character of an atom. -/
theorem DotAtom.exists_cons {word : List Char} (h : DotAtom word) :
    ∃ c rest, word = c :: rest ∧ isAtomChar c = true := by
  have first : ∀ {atom : List Char}, Atom atom → ∃ c rest, atom = c :: rest ∧ isAtomChar c = true := by
    intro atom h
    obtain ⟨c, rest, rfl⟩ := List.exists_cons_of_ne_nil h.1
    exact ⟨c, rest, rfl, h.2 c List.mem_cons_self⟩
  cases h with
  | single atom => exact first atom
  | @dotted _ rest atom _ =>
    obtain ⟨c, tail, rfl, hc⟩ := first atom
    exact ⟨c, tail ++ '.' :: rest, rfl, hc⟩

/-- Atoms joined by dots are what has an atom between any two dots. -/
theorem dotAtom_iff {cs : List Char} : DotAtom cs ↔ ∀ atom ∈ splitAll '.' cs, Atom atom := by
  constructor
  · intro h
    induction h with
    | single atom => simpa [splitAll_of_not_mem (dot_not_mem atom)] using atom
    | dotted atom _ ih => simpa [splitAll_append (dot_not_mem atom)] using ⟨atom, ih⟩
  · -- the first atom ends at the first dot, and what is behind it is shorter
    induction hn : cs.length using Nat.strongRecOn generalizing cs with
    | ind n ih =>
      intro h
      by_cases dot : '.' ∈ cs
      · obtain ⟨atom, rest, rfl, apart⟩ := List.eq_append_cons_of_mem dot
        rw [splitAll_append apart] at h
        obtain ⟨atom', rest'⟩ := List.forall_mem_cons.mp h
        refine .dotted atom' (ih rest.length ?_ rfl rest')
        simp only [← hn, List.length_append, List.length_cons]
        omega
      · rw [splitAll_of_not_mem dot] at h
        exact .single (h cs List.mem_cons_self)

/-! ## The readers -/

/-- What is read as an atom is one, before the rest. -/
theorem atom?_sound {cs atom rest : List Char} (h : atom? cs = some (atom, rest)) : cs = atom ++ rest ∧ Atom atom := by
  unfold atom? at h
  dsimp only at h
  split at h
  · cases h
  · rename_i ne
    obtain ⟨rfl, rfl⟩ := Prod.mk.inj (Option.some.inj h)
    refine ⟨List.takeWhile_append_dropWhile.symm, ?_, fun c mem => ?_⟩
    · simpa using ne
    · exact List.mem_takeWhile_imp mem

/-- An atom is read up to its end. -/
theorem atom?_append {atom rest : List Char} (h : Atom atom) (ends : EndsAtom rest) :
    atom? (atom ++ rest) = some (atom, rest) := by
  have stop : rest.takeWhile isAtomChar = [] ∧ rest.dropWhile isAtomChar = rest := by
    cases rest with
    | nil => exact ⟨rfl, rfl⟩
    | cons c rest =>
      have hc := ends c rfl
      simp [hc]
  have taken : (atom ++ rest).takeWhile isAtomChar = atom := by
    rw [List.takeWhile_append_of_pos h.2, stop.1, List.append_nil]
  have dropped : (atom ++ rest).dropWhile isAtomChar = rest := by
    rw [List.dropWhile_append_of_pos h.2, stop.2]
  have ne : atom.isEmpty = false := by simpa using h.1
  simp [atom?, taken, dropped, ne]

/-- More atoms are read with the dots before them, or none at all. -/
theorem moreAtoms_sound (fuel : Nat) (cs : List Char) :
    cs = (moreAtoms fuel cs).1 ++ (moreAtoms fuel cs).2 ∧
      ((moreAtoms fuel cs).1 = [] ∨ ∃ word, (moreAtoms fuel cs).1 = '.' :: word ∧ DotAtom word) := by
  induction fuel generalizing cs with
  | zero => exact ⟨rfl, .inl rfl⟩
  | succ fuel ih =>
    unfold moreAtoms
    split
    · rename_i tail
      split
      · rename_i atom rest found
        obtain ⟨rfl, isAtom⟩ := atom?_sound found
        obtain ⟨whole, more⟩ := ih rest
        refine ⟨by simp [← whole], .inr ⟨atom ++ (moreAtoms fuel rest).1, rfl, ?_⟩⟩
        rcases more with none | ⟨word, some, dots⟩
        · simpa [none] using .single isAtom
        · rw [some]
          exact .dotted isAtom dots
      · exact ⟨rfl, .inl rfl⟩
    · exact ⟨rfl, .inl rfl⟩

/-- No more atoms are read where they end. -/
theorem moreAtoms_of_ends {rest : List Char} (ends : EndsDotAtom rest) (fuel : Nat) :
    moreAtoms fuel rest = ([], rest) := by
  cases fuel with
  | zero => rfl
  | succ fuel =>
    unfold moreAtoms
    split
    · exact absurd rfl ends.2
    · rfl

/-- More atoms are read up to their end, with fuel for each character. -/
theorem moreAtoms_append {word rest : List Char} (h : DotAtom word) (ends : EndsDotAtom rest) :
    ∀ fuel, word.length < fuel → moreAtoms fuel ('.' :: (word ++ rest)) = ('.' :: word, rest) := by
  induction h with
  | single atom =>
    rintro (_ | fuel) enough
    · omega
    · simp [moreAtoms, atom?_append atom ends.1, moreAtoms_of_ends ends]
  | @dotted first word atom _ ih =>
    rintro (_ | fuel) enough
    · omega
    · have ends' : EndsAtom ('.' :: (word ++ rest)) := by
        intro c hc
        obtain rfl := Option.some.inj hc
        decide
      have more := ih fuel (by simp only [List.length_append, List.length_cons] at enough; omega)
      simp only [moreAtoms, List.append_assoc, List.cons_append, atom?_append atom ends', more]

/-- What is read as atoms joined by dots stands behind the blanks at the head of the text. -/
theorem dotAtom?_sound {cs word rest : List Char} (h : dotAtom? cs = some (word, rest)) :
    cs.dropWhile isFold = word ++ rest ∧ DotAtom word := by
  unfold dotAtom? at h
  obtain ⟨⟨atom, tail⟩, found, rest'⟩ := Option.map_eq_some_iff.mp h
  obtain ⟨whole, isAtom⟩ := atom?_sound found
  obtain ⟨whole', more⟩ := moreAtoms_sound tail.length tail
  obtain ⟨rfl, rfl⟩ := Prod.mk.inj rest'
  refine ⟨by rw [whole, List.append_assoc, ← whole'], ?_⟩
  rcases more with none | ⟨word, some, dots⟩
  · rw [none, List.append_nil]
    exact .single isAtom
  · rw [some]
    exact .dotted isAtom dots

/-- Atoms joined by dots are read up to their end. -/
theorem dotAtom?_append {word rest : List Char} (h : DotAtom word) (ends : EndsDotAtom rest) :
    dotAtom? (word ++ rest) = some (word, rest) := by
  have start : (word ++ rest).dropWhile isFold = word ++ rest := by
    obtain ⟨c, tail, rfl, hc⟩ := h.exists_cons
    have fold : isFold c = false := by
      by_contra blank
      simp only [isFold, Bool.not_eq_false, Bool.or_eq_true, beq_iff_eq] at blank
      rcases blank with rfl | rfl <;> exact absurd hc (by decide)
    simp [fold]
  unfold dotAtom?
  rw [start]
  cases h with
  | single atom => simp [atom?_append atom ends.1, moreAtoms_of_ends ends]
  | @dotted first word atom dots =>
    have ends' : EndsAtom ('.' :: (word ++ rest)) := by
      intro c hc
      obtain rfl := Option.some.inj hc
      decide
    have room : word.length < ('.' :: (word ++ rest)).length := by
      rw [List.length_cons, List.length_append]
      omega
    have more := moreAtoms_append dots ends ('.' :: (word ++ rest)).length room
    simp only [List.append_assoc, List.cons_append, atom?_append atom ends', Option.map_some, more]

/-- A whole text is read as atoms joined by dots when it is that, behind its blanks. -/
theorem dotAtom?_eq_some_nil_iff {cs word : List Char} :
    dotAtom? cs = some (word, []) ↔ cs.dropWhile isFold = word ∧ DotAtom word := by
  constructor
  · intro h
    simpa using dotAtom?_sound h
  · rintro ⟨rfl, dots⟩
    have idle : dotAtom? cs = dotAtom? (cs.dropWhile isFold) := by
      simp only [dotAtom?, List.dropWhile_idempotent]
    rw [idle]
    have ends : EndsDotAtom [] := ⟨nofun, nofun⟩
    simpa using dotAtom?_append dots ends

end Tenancy.Mail.Mailbox
