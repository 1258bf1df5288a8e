import Mathlib.Data.List.Infix
import Tenancy.Proofs.Text.Numerals
import Tenancy.Template

/-!
# The pieces of a template

A template falls into literals and placeholders in one way only: at the first pair of opening braces and the first closing
pair after it, again and again, until none is left (`Splits`). Where it is split does not depend on the values, and rendering
fills in one piece after the other (`expand_eq`). So values are never read again, whatever braces they hold.
-/

namespace Tenancy

open Text

/-! ## The first occurrence of a marker -/

namespace Template

/-- A text is cut around the first occurrence of a marker: none begins earlier. -/
structure FirstCut (marker cs before after : List Char) : Prop where
  parts : cs = before ++ marker ++ after
  first : ∀ before' after', cs = before' ++ marker ++ after' → before.length ≤ before'.length

section

variable {marker cs before after : List Char}

/-- An empty text is cut only around an empty marker. -/
theorem firstCut_nil : FirstCut marker [] before after ↔ marker = [] ∧ before = [] ∧ after = [] := by
  constructor
  · intro h
    have hparts := h.parts
    simp only [List.nil_eq, List.append_eq_nil_iff] at hparts
    exact ⟨hparts.1.2, hparts.1.1, hparts.2⟩
  · rintro ⟨rfl, rfl, rfl⟩
    exact ⟨rfl, fun _ _ _ => Nat.zero_le _⟩

/-- A text that begins with the marker is cut at its beginning. -/
theorem firstCut_of_begins {rest : List Char} (h : cs = marker ++ rest) :
    FirstCut marker cs before after ↔ before = [] ∧ after = rest := by
  constructor
  · intro hcut
    have hbefore : before.length ≤ 0 := hcut.first [] rest (by simpa using h)
    obtain rfl := List.eq_nil_of_length_eq_zero (Nat.le_zero.mp hbefore)
    have hparts := hcut.parts
    rw [h, List.nil_append] at hparts
    exact ⟨rfl, (List.append_cancel_left hparts).symm⟩
  · rintro ⟨rfl, rfl⟩
    exact ⟨by simpa using h, fun _ _ _ => Nat.zero_le _⟩

/-- A text that does not begin with the marker is cut where the text after its first character is. -/
theorem firstCut_cons {c : Char} (h : ∀ rest, c :: cs ≠ marker ++ rest) :
    FirstCut marker (c :: cs) before after ↔ ∃ before', before = c :: before' ∧ FirstCut marker cs before' after := by
  constructor
  · intro hcut
    cases before with
    | nil => exact absurd hcut.parts (h after)
    | cons b before' =>
      obtain ⟨rfl, hparts⟩ := List.cons.inj hcut.parts
      refine ⟨before', rfl, hparts, fun before'' after'' hother => ?_⟩
      have hlength := hcut.first (c :: before'') after'' (by simp [hother])
      simpa using hlength
  · rintro ⟨before', rfl, hcut⟩
    refine ⟨by simp [hcut.parts], fun before'' after'' hother => ?_⟩
    cases before'' with
    | nil => exact absurd hother (h after'')
    | cons b before'' =>
      have hlength := hcut.first before'' after'' (List.cons.inj hother).2
      simpa using hlength

/-- A text is split at the first occurrence of a marker. -/
theorem splitMarker?_eq_some : splitMarker? marker cs = some (before, after) ↔ FirstCut marker cs before after := by
  induction cs generalizing before with
  | nil =>
    rw [firstCut_nil, splitMarker?, Option.map_eq_some_iff]
    constructor
    · rintro ⟨rest, hrest, ⟨⟩⟩
      have hrest := dropMarker?_eq_some.mp hrest
      simp only [List.nil_eq, List.append_eq_nil_iff] at hrest
      exact ⟨hrest.1, rfl, hrest.2⟩
    · rintro ⟨rfl, rfl, rfl⟩
      exact ⟨[], rfl, rfl⟩
  | cons c cs ih =>
    rw [splitMarker?]
    cases hdrop : dropMarker? marker (c :: cs) with
    | some rest =>
      rw [firstCut_of_begins (dropMarker?_eq_some.mp hdrop)]
      simp [eq_comm]
    | none =>
      have hbegins : ∀ rest, c :: cs ≠ marker ++ rest := by
        intro rest hrest
        rw [dropMarker?_eq_some.mpr hrest] at hdrop
        cases hdrop
      rw [firstCut_cons hbegins, Option.map_eq_some_iff]
      constructor
      · rintro ⟨⟨before', after'⟩, hsplit, ⟨⟩⟩
        exact ⟨before', rfl, ih.mp hsplit⟩
      · rintro ⟨before', rfl, hcut⟩
        exact ⟨(before', after), ih.mpr hcut, rfl⟩

/-- A text is not split exactly when the marker does not occur. -/
theorem splitMarker?_eq_none : splitMarker? marker cs = none ↔ ¬ marker <:+: cs := by
  induction cs with
  | nil => cases marker <;> simp [splitMarker?, dropMarker?]
  | cons c cs ih =>
    rw [splitMarker?, List.infix_cons_iff, not_or]
    cases hdrop : dropMarker? marker (c :: cs) with
    | some rest =>
      have hbegins : marker <+: c :: cs := ⟨rest, (dropMarker?_eq_some.mp hdrop).symm⟩
      simp [hbegins]
    | none =>
      have hbegins : ¬ marker <+: c :: cs := by
        rintro ⟨rest, hrest⟩
        rw [dropMarker?_eq_some.mpr hrest.symm] at hdrop
        cases hdrop
      simp [hbegins, ih]

end

/-! ## Literals and placeholders -/

/-- A piece of a template. -/
inductive Piece where
  | literal (text : List Char)
  | placeholder (key : List Char)
deriving DecidableEq

namespace Piece

/-- The text of a piece in the template. -/
def source : Piece → List Char
  | literal text => text
  | placeholder key => openMark ++ key ++ closeMark

/-- The key of a placeholder. -/
def key? : Piece → Option String
  | literal _ => none
  | placeholder key => some (String.ofList key)

/-- The text that a piece is rendered as: a literal as it is, a placeholder as the value of its key, or as it is when there is
none. -/
def filled (value? : String → Option String) : Piece → List Char
  | literal text => text
  | placeholder key =>
    match value? (String.ofList key) with
    | some value => value.toList
    | none => source (placeholder key)

/-- Without values, every piece is rendered as its text in the template. -/
theorem filled_none (piece : Piece) : piece.filled (fun _ => none) = piece.source := by
  cases piece <;> rfl

end Piece

/-- A text is split into pieces, from the left. -/
inductive Splits : List Char → List Piece → Prop where
  /-- Where there are no opening braces, all is a literal. -/
  | plain {cs} (h : ¬ openMark <:+: cs) : Splits cs [.literal cs]
  /-- Opening braces that are never closed are part of a literal. -/
  | unclosed {cs before inner} (opening : FirstCut openMark cs before inner) (h : ¬ closeMark <:+: inner) :
    Splits cs [.literal cs]
  /-- The first opening braces and the first closing ones after them make a placeholder. -/
  | placeholder {cs before inner key after pieces} (opening : FirstCut openMark cs before inner)
    (closing : FirstCut closeMark inner key after) (later : Splits after pieces) :
    Splits cs (.literal before :: .placeholder key :: pieces)

/-- The pieces of a text. -/
def pieces (cs : List Char) : List Piece :=
  match _h : firstPlaceholder? cs with
  | none => [.literal cs]
  | some (before, key, after) => .literal before :: .placeholder key :: pieces after
termination_by cs.length
decreasing_by exact length_firstPlaceholder? _h

/-- The keys of the placeholders of a text, in order. -/
def keys (cs : List Char) : List String := (pieces cs).filterMap Piece.key?

section

variable {cs before key after : List Char} {value? : String → Option String} {escape : String → String}

/-- A text without a placeholder is one literal. -/
theorem pieces_of_none (h : firstPlaceholder? cs = none) : pieces cs = [.literal cs] := by
  rw [pieces]
  split
  · rfl
  · next hsome => rw [h] at hsome; cases hsome

/-- The pieces of a text go on after its first placeholder. -/
theorem pieces_of_some (h : firstPlaceholder? cs = some (before, key, after)) :
    pieces cs = .literal before :: .placeholder key :: pieces after := by
  rw [pieces]
  split
  · next hnone => rw [h] at hnone; cases hnone
  · next hsome => rw [h] at hsome; cases hsome; rfl

/-- There is no placeholder when no braces are opened, and when those opened first are never closed. -/
theorem firstPlaceholder?_eq_none : firstPlaceholder? cs = none ↔
    (¬ openMark <:+: cs) ∨ ∃ before inner, FirstCut openMark cs before inner ∧ ¬ closeMark <:+: inner := by
  unfold firstPlaceholder?
  cases hopen : splitMarker? openMark cs with
  | none => simp [splitMarker?_eq_none.mp hopen]
  | some cut =>
    obtain ⟨before, inner⟩ := cut
    have hinside : openMark <:+: cs := by
      by_contra h
      rw [splitMarker?_eq_none.mpr h] at hopen
      cases hopen
    simp [hinside, ← splitMarker?_eq_some, ← splitMarker?_eq_none, hopen]

/-- The first placeholder stands between the first opening braces and the first closing ones after them. -/
theorem firstPlaceholder?_eq_some : firstPlaceholder? cs = some (before, key, after) ↔
    ∃ inner, FirstCut openMark cs before inner ∧ FirstCut closeMark inner key after := by
  unfold firstPlaceholder?
  simp only [← splitMarker?_eq_some]
  cases splitMarker? openMark cs with
  | none => simp
  | some cut =>
    obtain ⟨before, inner⟩ := cut
    constructor
    · intro h
      obtain ⟨⟨key', after'⟩, hclose, ⟨⟩⟩ := Option.map_eq_some_iff.mp h
      exact ⟨inner, rfl, hclose⟩
    · rintro ⟨inner', ⟨⟩, hclose⟩
      exact Option.map_eq_some_iff.mpr ⟨_, hclose, rfl⟩

/-- A text is split in one way only. -/
theorem splits_iff {split : List Piece} : Splits cs split ↔ split = pieces cs := by
  constructor
  · intro h
    induction h with
    | plain h => rw [pieces_of_none (firstPlaceholder?_eq_none.mpr (.inl h))]
    | unclosed opening h => rw [pieces_of_none (firstPlaceholder?_eq_none.mpr (.inr ⟨_, _, opening, h⟩))]
    | placeholder opening closing later ih =>
      rw [pieces_of_some (firstPlaceholder?_eq_some.mpr ⟨_, opening, closing⟩), ih]
  · rintro rfl
    induction cs using pieces.induct with
    | case1 cs h =>
      rw [pieces_of_none h]
      rcases firstPlaceholder?_eq_none.mp h with hplain | ⟨before, inner, opening, hunclosed⟩
      · exact .plain hplain
      · exact .unclosed opening hunclosed
    | case2 cs before key after h ih =>
      rw [pieces_of_some h]
      obtain ⟨inner, opening, closing⟩ := firstPlaceholder?_eq_some.mp h
      exact .placeholder opening closing ih

/-- Nothing of a text is lost in its pieces. -/
theorem flatMap_source (cs : List Char) : (pieces cs).flatMap Piece.source = cs := by
  induction cs using pieces.induct with
  | case1 cs h => simp [pieces_of_none h, Piece.source]
  | case2 cs before key after h ih =>
    obtain ⟨inner, opening, closing⟩ := firstPlaceholder?_eq_some.mp h
    rw [pieces_of_some h, opening.parts, closing.parts]
    simp [Piece.source, ih]

/-! ## Rendering -/

/-- A text without a placeholder is expanded to itself. -/
theorem expand_of_none (h : firstPlaceholder? cs = none) : expand value? escape cs = (cs, none) := by
  rw [expand]
  split
  · rfl
  · next hsome => rw [h] at hsome; cases hsome

/-- A text is expanded after its first placeholder when that has a value, and given up before it otherwise. -/
theorem expand_of_some (h : firstPlaceholder? cs = some (before, key, after)) : expand value? escape cs =
    match value? (String.ofList key) with
    | some value => (before ++ (escape value).toList ++ (expand value? escape after).1, (expand value? escape after).2)
    | none => (before ++ openMark ++ key ++ closeMark ++ (expand value? escape after).1, some (String.ofList key)) := by
  rw [expand]
  split
  · next hnone => rw [h] at hnone; cases hnone
  · next hsome => rw [h] at hsome; cases hsome; rfl

/-- Rendering fills in the pieces with the escaped values, and reports the first key without a value. -/
theorem expand_eq (value? : String → Option String) (escape : String → String) (cs : List Char) : expand value? escape cs =
    ((pieces cs).flatMap (Piece.filled fun key => (value? key).map escape), (keys cs).find? fun key => (value? key).isNone) := by
  induction cs using pieces.induct with
  | case1 cs h => simp [expand_of_none h, keys, pieces_of_none h, Piece.filled, Piece.key?]
  | case2 cs before key after h ih =>
    rw [expand_of_some h, ih]
    unfold keys
    rw [pieces_of_some h]
    cases hvalue : value? (String.ofList key) with
    | none => simp [Piece.filled, Piece.source, Piece.key?, hvalue]
    | some value => simp [Piece.filled, Piece.key?, hvalue]

theorem render_eq (value? : String → Option String) (template : String) :
    render value? template = String.ofList ((pieces template.toList).flatMap (Piece.filled value?)) := by
  simp [render, expand_eq]

/-- Rendering in HTML is rendering with escaped values. -/
theorem renderHtml_eq (value? : String → Option String) (template : String) :
    renderHtml value? template = render (fun key => (value? key).map escapeHtml) template := by
  rw [render_eq, renderHtml, expand_eq]

/-- Without values, a template is rendered as it is. -/
theorem render_none (template : String) : render (fun _ => none) template = template := by
  have hfilled : Piece.filled (fun _ => none) = Piece.source := funext Piece.filled_none
  rw [render_eq, hfilled, flatMap_source, String.ofList_toList]

/-- Which key is reported does not depend on how values are escaped. -/
theorem snd_expand (value? : String → Option String) (escape : String → String) (template : String) :
    (expand value? escape template.toList).2 = (keys template.toList).find? fun key => (value? key).isNone := by
  rw [expand_eq]

/-- No key is reported when all have values. -/
theorem find?_keys_eq_none {value? : String → Option String} :
    ((keys cs).find? fun key => (value? key).isNone) = none ↔ ∀ key ∈ keys cs, (value? key).isSome := by
  simp [List.find?_eq_none, Option.isSome_iff_ne_none]

end

/-- **Rendering in one pass.** A template is split into literals and placeholders in one way only, whatever the values are.
Rendering keeps the literals, and puts in the value of each placeholder as it is, or leaves the placeholder when there is none.
In HTML the values are escaped. The key that is reported is the first one without a value. -/
theorem render_in_one_pass (template : String) :
    (∀ split, Splits template.toList split ↔ split = pieces template.toList) ∧
      (∀ value? : String → Option String,
        render value? template = String.ofList ((pieces template.toList).flatMap (Piece.filled value?)) ∧
        renderHtml value? template = render (fun key => (value? key).map escapeHtml) template ∧
        (∀ escape, (expand value? escape template.toList).2 = missing? value? template) ∧
        missing? value? template = (keys template.toList).find? (fun key => (value? key).isNone) ∧
        (missing? value? template = none ↔ ∀ key ∈ keys template.toList, (value? key).isSome)) ∧
      render (fun _ => none) template = template := by
  refine ⟨fun split => splits_iff, fun value? => ?_, render_none template⟩
  have hmissing : missing? value? template = (keys template.toList).find? (fun key => (value? key).isNone) :=
    snd_expand value? id template
  refine ⟨render_eq value? template, renderHtml_eq value? template, fun escape => ?_, hmissing, ?_⟩
  · rw [hmissing, snd_expand]
  · rw [hmissing, find?_keys_eq_none]

/-- A value that looks like a placeholder is no placeholder. -/
example : render (fun key => if key = "name" then some "\x7b\x7bother\x7d\x7d" else some "leaked")
    "Hi \x7b\x7bname\x7d\x7d" = "Hi \x7b\x7bother\x7d\x7d" := by
  decide +kernel

end Template

end Tenancy
