import Tenancy.Mail.Sender
import Tenancy.Proofs.Mail.DotAtom

/-!
# Addresses that mail can be sent to

Two grammars judge an address: records ask for a local part of certain characters and a host, which may be an IP address in
brackets, and mailboxes ask for atoms joined by dots on both sides. An address that a record may hold is a mailbox exactly
when both of its parts are atoms joined by dots and its domain can be addressed (`Mailable`).
-/

namespace Tenancy

open Text Net

/-! ## Cuts -/

namespace Text

/-- A text is cut at a separator. -/
theorem splitLast?_sound {sep : Char} {cs before after : List Char} (h : splitLast? sep cs = some (before, after)) :
    cs = before ++ sep :: after := by
  induction cs generalizing before with
  | nil => cases h
  | cons c cs ih =>
    unfold splitLast? at h
    split at h
    · rename_i before' after' found
      obtain ⟨rfl, rfl⟩ := Prod.mk.inj (Option.some.inj h)
      rw [ih found, List.cons_append]
    · split at h
      · rename_i same
        obtain ⟨rfl, rfl⟩ := Prod.mk.inj (Option.some.inj h)
        rw [same, List.nil_append]
      · cases h

/-- What is before the first separator is unique. -/
theorem eq_of_append_cons_eq {sep : Char} {a b c d : List Char} (ha : sep ∉ a) (hb : sep ∉ b)
    (h : a ++ sep :: c = b ++ sep :: d) : a = b ∧ c = d := by
  have pieces := congrArg (splitAll sep) h
  rw [splitAll_append ha, splitAll_append hb] at pieces
  obtain rfl := (List.cons.inj pieces).1
  exact ⟨rfl, (List.cons.inj (List.append_cancel_left h)).2⟩

/-- The end of a text is trimmed after the last character that stays. -/
theorem dropEndWhile_append_cons {p : Char → Bool} {c : Char} (hc : p c = false) (before after : List Char) :
    dropEndWhile p (before ++ c :: after) = before ++ c :: dropEndWhile p after := by
  unfold dropEndWhile
  by_cases all : ∀ x ∈ after.reverse, p x = true
  · have stop : (c :: before.reverse).dropWhile p = c :: before.reverse := by simp [hc]
    simp [List.dropWhile_append_of_pos all, stop, List.dropWhile_eq_nil_iff.mpr all]
  · have left : (after.reverse.dropWhile p).isEmpty = false := by
      simpa [List.dropWhile_eq_nil_iff] using all
    simp [List.dropWhile_append, left]

/-- A character of a piece is one of the text, and no separator. -/
theorem mem_of_mem_splitAll {sep c : Char} {cs piece : List Char} (hpiece : piece ∈ splitAll sep cs) (hc : c ∈ piece) :
    c ∈ cs ∧ c ≠ sep := by
  induction cs generalizing piece with
  | nil =>
    obtain rfl := List.mem_singleton.mp hpiece
    cases hc
  | cons d cs ih =>
    unfold splitAll at hpiece
    split at hpiece
    · rcases List.mem_cons.mp hpiece with rfl | hpiece
      · cases hc
      · obtain ⟨mem, apart⟩ := ih hpiece hc
        exact ⟨List.mem_cons_of_mem _ mem, apart⟩
    · rename_i other
      split at hpiece
      · rename_i first pieces rest
        rcases List.mem_cons.mp hpiece with rfl | hpiece
        · rcases List.mem_cons.mp hc with rfl | hc
          · exact ⟨List.mem_cons_self, other⟩
          · obtain ⟨mem, apart⟩ := ih (rest ▸ List.mem_cons_self) hc
            exact ⟨List.mem_cons_of_mem _ mem, apart⟩
        · obtain ⟨mem, apart⟩ := ih (rest ▸ List.mem_cons_of_mem _ hpiece) hc
          exact ⟨List.mem_cons_of_mem _ mem, apart⟩
      · obtain rfl := List.mem_singleton.mp hpiece
        obtain rfl := List.mem_singleton.mp hc
        exact ⟨List.mem_cons_self, other⟩

/-- What holds of the separator and in every piece holds in the whole text. -/
theorem forall_mem_of_splitAll {P : Char → Prop} {sep : Char} {cs : List Char} (hsep : P sep)
    (h : ∀ piece ∈ splitAll sep cs, ∀ c ∈ piece, P c) : ∀ c ∈ cs, P c := by
  induction cs with
  | nil => exact nofun
  | cons d cs ih =>
    unfold splitAll at h
    split at h
    · rename_i same
      refine List.forall_mem_cons.mpr ⟨same ▸ hsep, ih fun piece hpiece => ?_⟩
      exact h piece (List.mem_cons_of_mem _ hpiece)
    · split at h
      · rename_i first pieces rest
        obtain ⟨head, tail⟩ := List.forall_mem_cons.mp h
        obtain ⟨hd, head⟩ := List.forall_mem_cons.mp head
        refine List.forall_mem_cons.mpr ⟨hd, ih ?_⟩
        rw [rest]
        exact List.forall_mem_cons.mpr ⟨head, tail⟩
      · rename_i none
        cases cs with
        | nil => exact fun c mem => h [d] List.mem_cons_self c mem
        | cons c cs =>
          unfold splitAll at none
          split at none
          · cases none
          · split at none <;> cases none

/-- A text is as long as its bytes when each character takes one. -/
theorem byteLength_eq_length {cs : List Char} (h : ∀ c ∈ cs, c.utf8Size = 1) : byteLength cs = cs.length := by
  have count : ∀ n, cs.foldl (fun n c => n + c.utf8Size) n = n + cs.length := by
    induction cs with
    | nil => exact fun n => rfl
    | cons c cs ih =>
      intro n
      rw [List.foldl_cons, ih fun c mem => h c (List.mem_cons_of_mem _ mem), h c List.mem_cons_self, List.length_cons]
      omega
  rw [byteLength, count, Nat.zero_add]

end Text

namespace Mail

/-! ## Characters of a local part -/

/-- A character that the local part of an address may hold. -/
def Address.isLocalChar (c : Char) : Bool := c.isAlphanum || localMarks.contains c

open Address (isLocalChar)

/-- What is alphanumeric in the narrow sense is ASCII. -/
theorem toNat_lt_of_isAlphanum {c : Char} (h : c.isAlphanum = true) : c.toNat < 128 := by
  have bound : ∀ last : Char, c.val ≤ last.val → last.toNat < 128 → c.toNat < 128 := by
    intro last le small
    exact Nat.lt_of_le_of_lt (UInt32.le_iff_toNat_le.mp le) small
  rcases Bool.or_eq_true_iff.mp h with alpha | digit
  · rcases Bool.or_eq_true_iff.mp alpha with upper | lower
    · have within : c.val ≥ 'A'.val ∧ c.val ≤ 'Z'.val := of_decide_eq_true upper
      exact bound 'Z' within.2 (by decide)
    · exact bound 'z' (of_decide_eq_true (Bool.and_eq_true_iff.mp lower).2) (by decide)
  · exact bound '9' (of_decide_eq_true (Bool.and_eq_true_iff.mp digit).2) (by decide)

/-- What holds of the ASCII characters of local parts holds of all characters of local parts. -/
theorem of_isLocalChar {P : Char → Prop} (h : ∀ n < 128, isLocalChar (Char.ofNat n) = true → P (Char.ofNat n)) {c : Char}
    (hc : isLocalChar c = true) : P c := by
  have ascii : c.toNat < 128 := by
    rcases Bool.or_eq_true_iff.mp hc with alnum | mark
    · exact toNat_lt_of_isAlphanum alnum
    · have marks : Address.localMarks.all (fun m => decide (m.toNat < 128)) = true := by decide
      exact of_decide_eq_true (List.all_eq_true.mp marks c (List.contains_iff_mem.mp mark))
  have hP := h c.toNat ascii
  rw [Char.ofNat_toNat] at hP
  exact hP hc

/-- A character of a local part is one of an atom, dots apart. -/
theorem isAtomChar_of_isLocalChar {c : Char} (h : isLocalChar c = true) (dot : c ≠ '.') :
    Mailbox.isAtomChar c = true ∧ (isAlphanumeric c || Mailbox.isAtomMark c) = true := by
  revert dot
  refine of_isLocalChar (P := fun c => c ≠ '.' → Mailbox.isAtomChar c = true ∧
    (isAlphanumeric c || Mailbox.isAtomMark c) = true) ?_ h
  decide +kernel

/-- A character of a local part is neither blank nor folds a line, and takes one byte. -/
theorem width_of_isLocalChar {c : Char} (h : isLocalChar c = true) :
    isBlank c = false ∧ Mailbox.isFold c = false ∧ c.utf8Size = 1 := by
  refine of_isLocalChar (P := fun c => isBlank c = false ∧ Mailbox.isFold c = false ∧ c.utf8Size = 1) ?_ h
  decide +kernel

/-- A character of a local part is none that may not stand in it. -/
theorem ne_of_isLocalChar {c other : Char} (h : isLocalChar c = true) (hother : isLocalChar other = false) : c ≠ other := by
  rintro rfl
  rw [hother] at h
  cases h

/-! ## Parts of an address -/

/-- The parts of an address that a record may hold, on both sides of its last `@`. -/
structure Address.Parts (email : String) (user host : List Char) : Prop where
  cut : splitLast? '@' email.toList = some (user, host)
  whole : email.toList = user ++ '@' :: host
  named : user ≠ []
  chars : ∀ c ∈ user, isLocalChar c = true
  short : user.length ≤ 64

/-- An address has parts around its sign. -/
theorem Address.exists_parts {email : String} (h : Address.isAddress email = true) :
    ∃ user host, Parts email user host := by
  unfold Address.isAddress at h
  split at h
  · cases h
  · rename_i user host cut
    have whole := splitLast?_sound cut
    simp only [Bool.and_eq_true, decide_eq_true_eq, Address.isLocal, Bool.not_eq_true', List.isEmpty_eq_false_iff,
      List.all_eq_true] at h
    obtain ⟨⟨⟨short, -⟩, named, chars⟩, -⟩ := h
    exact ⟨user, host, cut, whole, named, chars, short⟩

namespace Mailbox

/-- The domain of an address as a mailbox has it: without the blanks behind it, and without spaces and tabs before it. -/
def bare (host : List Char) : List Char := (dropEndWhile isBlank host).dropWhile isFold

/-- The parts of an address that mail can be sent to: atoms joined by dots on both sides, and a domain that can be
addressed. -/
structure Mailable (user host : List Char) : Prop where
  userAtoms : DotAtom user
  hostAtoms : DotAtom (bare host)
  addressed : isDomain (bare host) = true

/-- A word that is not opened by a quote is not quoted. -/
theorem quoted?_of_head {cs : List Char} (h : cs.head? ≠ some '"') : quoted? cs = none := by
  unfold quoted?
  split
  · exact absurd rfl h
  · rfl

/-- Atoms end before the sign of an address. -/
theorem endsDotAtom_at (rest : List Char) : EndsDotAtom ('@' :: rest) := by
  refine ⟨?_, by simp⟩
  intro c hc
  obtain rfl := Option.some.inj hc
  decide

section

variable {user rest : List Char} (chars : ∀ c ∈ user, isLocalChar c = true)
include chars

/-- The sign of an address stands in no local part. -/
theorem at_not_mem : '@' ∉ user := by
  intro mem
  exact ne_of_isLocalChar (chars _ mem) (by decide) rfl

/-- A local part is not quoted. -/
theorem quoted?_local : quoted? (user ++ '@' :: rest) = none := by
  refine quoted?_of_head ?_
  cases user with
  | nil => simp
  | cons c user => simpa using ne_of_isLocalChar (chars c List.mem_cons_self) (by decide)

/-- A word at the head of an address ends before the `@`. -/
theorem afterWord?_local {after : List Char} (h : afterWord? (user ++ '@' :: rest) = some after) :
    ∃ left, (∀ c ∈ left, isLocalChar c = true) ∧ after = left ++ '@' :: rest := by
  unfold afterWord? at h
  rw [quoted?_local chars] at h
  obtain ⟨⟨atom, tail⟩, found, rfl⟩ := Option.map_eq_some_iff.mp h
  have word : atom? (user ++ '@' :: rest) = some (atom, tail) := found
  unfold atom? at word
  dsimp only at word
  split at word
  · cases word
  · obtain ⟨-, rfl⟩ := Prod.mk.inj (Option.some.inj word)
    refine ⟨user.dropWhile isAtomChar, fun c mem => chars c ((List.dropWhile_suffix _).subset mem), ?_⟩
    have stop : isAtomChar '@' = false := by decide
    rw [List.dropWhile_append]
    split
    · rename_i none
      rw [List.isEmpty_iff.mp none]
      simp [stop]
    · rfl

/-- A name does not go beyond the `@` of an address. -/
theorem afterName_local (fuel : Nat) :
    ∃ left, (∀ c ∈ left, isLocalChar c = true) ∧ afterName fuel (user ++ '@' :: rest) = left ++ '@' :: rest := by
  induction fuel generalizing user with
  | zero => exact ⟨user, chars, rfl⟩
  | succ fuel ih =>
    unfold afterName
    cases word : afterWord? (user ++ '@' :: rest) with
    | some after =>
      obtain ⟨left, chars', rfl⟩ := afterWord?_local chars word
      exact ih chars'
    | none =>
      cases user with
      | nil =>
        have stop : isFold '@' = false := by decide
        exact ⟨[], nofun, by simp [stop]⟩
      | cons c user =>
        by_cases skip : c = '.' ∨ isFold c = true
        · obtain ⟨left, chars', more⟩ := ih (fun c mem => chars c (List.mem_cons_of_mem _ mem))
          exact ⟨left, chars', by simpa [skip] using more⟩
        · exact ⟨c :: user, chars, by simp [skip]⟩

/-- An address by itself has no name in front of it. -/
theorem named?_local : named? (user ++ '@' :: rest) = none := by
  have head : ∀ {left : List Char}, (∀ c ∈ left, isLocalChar c = true) → ∀ tail,
      left ++ '@' :: rest ≠ '<' :: tail := by
    intro left chars tail same
    cases left with
    | nil => exact absurd (List.cons.inj same).1 (by decide)
    | cons c left => exact ne_of_isLocalChar (chars c List.mem_cons_self) (by decide) (List.cons.inj same).1
  have start : ∃ left, (∀ c ∈ left, isLocalChar c = true) ∧
      ((afterWord? (user ++ '@' :: rest)).map fun rest => afterName rest.length rest).getD (user ++ '@' :: rest) =
        left ++ '@' :: rest := by
    cases word : afterWord? (user ++ '@' :: rest) with
    | none => exact ⟨user, chars, rfl⟩
    | some after =>
      obtain ⟨left, chars', rfl⟩ := afterWord?_local chars word
      exact afterName_local chars' _
  obtain ⟨left, chars', same⟩ := start
  unfold named?
  rw [same]
  split
  · rename_i tail bracket
    exact absurd bracket (head chars' tail)
  · rfl

/-- The local part is read when it is atoms joined by dots. -/
theorem local?_local {word tail : List Char} :
    local? (user ++ '@' :: rest) = some (word, '@' :: tail) ↔ word = user ∧ tail = rest ∧ DotAtom user := by
  have only : local? (user ++ '@' :: rest) = dotAtom? (user ++ '@' :: rest) := by
    rw [local?, quoted?_local chars]
    cases dotAtom? (user ++ '@' :: rest) <;> rfl
  rw [only]
  constructor
  · intro h
    obtain ⟨whole, dots⟩ := dotAtom?_sound h
    have start : (user ++ '@' :: rest).dropWhile isFold = user ++ '@' :: rest := by
      cases user with
      | nil => rfl
      | cons c user => simp [(width_of_isLocalChar (chars c List.mem_cons_self)).2.1]
    have apart : '@' ∉ word := by
      intro mem
      rcases dots.chars _ mem with dot | atom
      · exact absurd dot (by decide)
      · exact absurd atom (by decide)
    obtain ⟨rfl, rfl⟩ := eq_of_append_cons_eq (at_not_mem chars) apart (start.symm.trans whole)
    exact ⟨rfl, rfl, dots⟩
  · rintro ⟨rfl, rfl, dots⟩
    exact dotAtom?_append dots (endsDotAtom_at _)

/-- Both parts are read when they are atoms joined by dots. -/
theorem address?_local {word domain : List Char} :
    address? (user ++ '@' :: rest) = some ((word, domain), []) ↔
      word = user ∧ domain = rest.dropWhile isFold ∧ DotAtom user ∧ DotAtom (rest.dropWhile isFold) := by
  unfold address?
  constructor
  · intro h
    split at h
    · rename_i word' tail found
      obtain ⟨rfl, rfl, dots⟩ := (local?_local chars).mp found
      obtain ⟨⟨domain', left⟩, read, same⟩ := Option.map_eq_some_iff.mp h
      obtain ⟨parts, rfl⟩ := Prod.mk.inj same
      obtain ⟨rfl, rfl⟩ := Prod.mk.inj parts
      obtain ⟨rfl, dots'⟩ := dotAtom?_eq_some_nil_iff.mp read
      exact ⟨rfl, rfl, dots, dots'⟩
    · cases h
  · rintro ⟨rfl, rfl, dots, dots'⟩
    have read : dotAtom? rest = some (rest.dropWhile isFold, []) := dotAtom?_eq_some_nil_iff.mpr ⟨rfl, dots'⟩
    rw [(local?_local chars).mpr ⟨rfl, rfl, dots⟩]
    simp [read]

end

section

variable {email : String} {user host : List Char} (h : Address.Parts email user host)
include h

/-- Blanks are cut off behind an address only. -/
theorem trim_parts : trim email.toList = user ++ '@' :: dropEndWhile isBlank host := by
  obtain ⟨c, tail, rfl⟩ := List.exists_cons_of_ne_nil h.named
  have blank : isBlank c = false := (width_of_isLocalChar (h.chars c List.mem_cons_self)).1
  have start : trimStart email.toList = email.toList := by
    rw [h.whole]
    simp [trimStart, blank]
  rw [trim, start, h.whole]
  exact dropEndWhile_append_cons (by decide) _ _

/-- An address is split at its sign exactly when there are atoms on both sides. -/
theorem split?_parts {word domain : List Char} :
    split? email.toList = some (word, domain) ↔
      word = user ∧ domain = bare host ∧ DotAtom user ∧ DotAtom (bare host) := by
  unfold split?
  rw [trim_parts h]
  dsimp only
  rw [named?_local h.chars, bare, ← address?_local h.chars]
  cases read : address? (user ++ '@' :: dropEndWhile isBlank host) with
  | none => simp
  | some found =>
    obtain ⟨parts, left⟩ := found
    cases left <;> simp

/-- A local part of atoms joined by dots can be addressed. -/
theorem isUser_parts (dots : DotAtom user) : isUser user = true := by
  have bytes : byteLength user ≤ 64 := by
    rw [byteLength_eq_length fun c mem => (width_of_isLocalChar (h.chars c mem)).2.2]
    exact h.short
  have atoms : (splitAll '.' user).all isAtom = true := by
    rw [List.all_eq_true]
    intro atom piece
    have chars : ∀ c ∈ atom, (isAlphanumeric c || isAtomMark c) = true := by
      intro c mem
      obtain ⟨mem, apart⟩ := mem_of_mem_splitAll piece mem
      exact (isAtomChar_of_isLocalChar (h.chars c mem) apart).2
    have some := (dotAtom_iff.mp dots atom piece).1
    simp only [isAtom, Bool.and_eq_true, Bool.not_eq_true', List.isEmpty_eq_false_iff, List.all_eq_true]
    refine ⟨some, fun c mem => ?_⟩
    rw [chars c mem, Bool.true_or]
  unfold isUser
  rw [Bool.and_eq_true]
  refine ⟨decide_eq_true bytes, ?_⟩
  split
  · exact absurd rfl (ne_of_isLocalChar (h.chars '"' List.mem_cons_self) (by decide))
  · exact atoms

/-- The address is a mailbox when mail can be sent to its parts. -/
theorem parse_parts : (∃ mailbox, parse email = .ok mailbox) ↔ Mailable user host := by
  unfold parse
  constructor
  · rintro ⟨mailbox, read⟩
    split at read
    · cases read
    · rename_i word domain found
      obtain ⟨rfl, rfl, dots, dots'⟩ := (split?_parts h).mp found
      split at read
      · cases read
      · split at read
        · cases read
        · rename_i addressed
          exact ⟨dots, dots', by simpa using addressed⟩
  · intro mailable
    rw [(split?_parts h).mpr ⟨rfl, rfl, mailable.userAtoms, mailable.hostAtoms⟩]
    simp [isUser_parts h mailable.userAtoms, mailable.addressed]

end

/-! ## Hosts -/

/-- What records accept as a label is an atom that a name may hold. -/
theorem atom_of_isLabel {label : List Char} (h : Address.isLabel label = true) :
    Atom label ∧ (∀ c ∈ label, isLocalChar c = true) ∧ label.length ≤ 63 ∧ isAtom label = true ∧
      (label.head?.map isAlphanumeric).getD false = true ∧ (label.getLast?.map isAlphanumeric).getD false = true := by
  unfold Address.isLabel at h
  split at h
  · cases h
  · rename_i first rest
    simp only [Bool.and_eq_true, decide_eq_true_eq, List.all_eq_true, Bool.or_eq_true, beq_iff_eq] at h
    obtain ⟨⟨⟨short, head⟩, last⟩, chars⟩ := h
    have alphanumeric : ∀ {c : Char}, c.isAlphanum = true → isAlphanumeric c = true := by
      intro c alnum
      rw [isAlphanumeric, if_pos (toNat_lt_of_isAlphanum alnum), alnum]
    have locals : ∀ c ∈ first :: rest, isLocalChar c = true := by
      intro c mem
      rcases chars c mem with alnum | rfl
      · rw [isLocalChar, alnum, Bool.true_or]
      · decide
    have atoms : ∀ c ∈ first :: rest, isAtomChar c = true ∧ (isAlphanumeric c || isAtomMark c) = true := by
      intro c mem
      refine isAtomChar_of_isLocalChar (locals c mem) ?_
      rintro rfl
      rcases chars _ mem with alnum | same
      · exact absurd alnum (by decide)
      · exact absurd same (by decide)
    refine ⟨⟨List.cons_ne_nil _ _, fun c mem => (atoms c mem).1⟩, locals, short, ?_, ?_, ?_⟩
    · simp only [isAtom, List.isEmpty_cons, Bool.not_false, Bool.true_and, List.all_eq_true]
      intro c mem
      rw [(atoms c mem).2, Bool.true_or]
    · simpa using alphanumeric head
    · rw [List.getLast?_eq_some_getLast (List.cons_ne_nil _ _)] at last ⊢
      simpa using alphanumeric last

section

variable {host : List Char} (h : Address.isDomain host = true)
include h

/-- A domain is made of atoms joined by dots. -/
theorem dotAtom_of_isDomain : DotAtom host := by
  rw [dotAtom_iff]
  intro label piece
  exact (atom_of_isLabel (List.all_eq_true.mp h label piece)).1

/-- The characters of a domain may stand in a local part. -/
theorem isLocalChar_of_isDomain : ∀ c ∈ host, isLocalChar c = true := by
  have dot : isLocalChar '.' = true := by decide
  refine forall_mem_of_splitAll dot fun label piece => ?_
  exact (atom_of_isLabel (List.all_eq_true.mp h label piece)).2.1

/-- There are no blanks around a host name. -/
theorem bare_of_isDomain : bare host = host := by
  have chars := isLocalChar_of_isDomain h
  have behind : dropEndWhile isBlank host = host := by
    rcases List.eq_nil_or_concat' host with rfl | ⟨front, c, rfl⟩
    · rfl
    · exact dropEndWhile_append_cons (width_of_isLocalChar (chars c (by simp))).1 _ _
  rw [bare, behind]
  cases host with
  | nil => rfl
  | cons c host => simp [(width_of_isLocalChar (chars c List.mem_cons_self)).2.1]

/-- A host name that is short enough can be addressed. -/
theorem isHost_of_isDomain (short : host.length ≤ 254) : isHost host = true := by
  have chars := isLocalChar_of_isDomain h
  obtain ⟨first, rest, whole, -⟩ := (dotAtom_of_isDomain h).exists_cons
  have bytes : byteLength host ≤ 254 := by
    rw [byteLength_eq_length fun c mem => (width_of_isLocalChar (chars c mem)).2.2]
    exact short
  have plain : inBrackets? host = none := by
    have head : first ≠ '[' := ne_of_isLocalChar (chars first (whole ▸ List.mem_cons_self)) (by decide)
    rw [whole]
    unfold inBrackets?
    split
    · rename_i same
      exact absurd (List.cons.inj same).1 head
    · rfl
  have name : isName host = true := by
    rw [isName, List.all_eq_true]
    intro label piece
    obtain ⟨-, locals, short, atom, head, last⟩ := atom_of_isLabel (List.all_eq_true.mp h label piece)
    have bytes : byteLength label ≤ 63 := by
      rw [byteLength_eq_length fun c mem => (width_of_isLocalChar (locals c mem)).2.2]
      exact short
    simp [atom, bytes, head, last]
  have some : host.isEmpty = false := by simp [whole]
  simp [isHost, plain, name, bytes, some]

end

/-- What ends in an address in brackets is not made of atoms. -/
theorem not_dotAtom_of_endsInLiteral {host : List Char} (h : Address.endsInLiteral host = true) :
    ¬DotAtom (bare host) := by
  intro dots
  have bracket : ']' ∈ bare host := by
    unfold Address.endsInLiteral at h
    split at h
    · rename_i before rest cut
      simp only [Bool.and_eq_true, beq_iff_eq] at h
      obtain ⟨front, ends⟩ := List.getLast?_eq_some_iff.mp h.1
      have whole := splitLast?_sound cut
      have whole' : host = (before ++ '[' :: front) ++ [']'] := by simp [whole, ends]
      rw [bare, whole', dropEndWhile_append_cons (by decide)]
      have stop : isFold ']' = false := by decide
      rw [List.dropWhile_append]
      split <;> simp [stop]
    · cases h
  rcases dots.chars _ bracket with dot | atom
  · exact absurd dot (by decide)
  · exact absurd atom (by decide)

end Mailbox

end Mail

end Tenancy
