import Mathlib.Logic.Function.Defs
import Tenancy.Proofs.Template.Completeness

/-!
# Markup in letters

A value that is put into an HTML body has no markup of its own: what could open or close a tag or an attribute stands as an
entity, and reading the entities gives the value back. So the markup of a rendered body is that of its template, whatever the
values are (`Template.markup_renderHtml`).
-/

namespace Tenancy

namespace Template

/-! ## Values in HTML -/

/-- Whether a character opens or closes tags or attributes. -/
def isMarkup (c : Char) : Bool := c == '<' || c == '>' || c == '"' || c == '\''

/-- The markup of a text: its characters that open or close tags or attributes, in order. -/
def markup (cs : List Char) : List Char := cs.filter isMarkup

/-- What stands for characters that have a meaning in HTML. -/
def entities : List (List Char) := ["&amp;".toList, "&lt;".toList, "&gt;".toList, "&quot;".toList, "&#39;".toList]

/-- A text in HTML as it is read, with the characters that entities stand for. -/
def unescape : List Char → List Char
  | '&' :: 'a' :: 'm' :: 'p' :: ';' :: cs => '&' :: unescape cs
  | '&' :: 'l' :: 't' :: ';' :: cs => '<' :: unescape cs
  | '&' :: 'g' :: 't' :: ';' :: cs => '>' :: unescape cs
  | '&' :: 'q' :: 'u' :: 'o' :: 't' :: ';' :: cs => '"' :: unescape cs
  | '&' :: '#' :: '3' :: '9' :: ';' :: cs => '\'' :: unescape cs
  | c :: cs => c :: unescape cs
  | [] => []

/-- A value in HTML as it is read. -/
def unescapeHtml (value : String) : String := String.ofList (unescape value.toList)

/-- A character stands for itself, or an entity stands for it. -/
theorem escapeChar_cases (c : Char) :
    (escapeChar c = [c] ∧ c ≠ '&' ∧ isMarkup c = false) ∨
      (escapeChar c ∈ entities ∧ ∀ cs, unescape (escapeChar c ++ cs) = c :: unescape cs) := by
  unfold escapeChar
  split
  all_goals first
    | exact .inr ⟨by decide, fun cs => rfl⟩
    | skip
  next hamp hlt hgt hquot hapos => exact .inl ⟨rfl, hamp, by simp_all [isMarkup]⟩

/-- A character that opens no entity stands for itself. -/
theorem unescape_cons {c : Char} (h : c ≠ '&') (cs : List Char) : unescape (c :: cs) = c :: unescape cs := by
  conv_lhs => unfold unescape
  split <;> simp_all

/-- Reading an escaped character gives it back. -/
theorem unescape_escapeChar (c : Char) (cs : List Char) : unescape (escapeChar c ++ cs) = c :: unescape cs := by
  rcases escapeChar_cases c with ⟨hself, hamp, -⟩ | ⟨-, hread⟩
  · rw [hself, List.singleton_append, unescape_cons hamp]
  · exact hread cs

/-- Escaped characters are read back one by one. -/
theorem unescape_escape (cs : List Char) : unescape (cs.flatMap escapeChar) = cs := by
  induction cs with
  | nil => rfl
  | cons c cs ih => rw [List.flatMap_cons, unescape_escapeChar, ih]

/-- An escaped value is read back. -/
theorem unescapeHtml_escapeHtml (value : String) : unescapeHtml (escapeHtml value) = value := by
  rw [unescapeHtml, escapeHtml, String.toList_ofList, unescape_escape, String.ofList_toList]

/-- No markup comes of an escaped character. -/
theorem markup_escapeChar (c : Char) : markup (escapeChar c) = [] := by
  rcases escapeChar_cases c with ⟨hself, -, hplain⟩ | ⟨hentity, -⟩
  · simp [hself, markup, hplain]
  · have hplain : ∀ entity ∈ entities, markup entity = [] := by decide
    exact hplain _ hentity

/-- An escaped value has no markup. -/
theorem markup_escapeHtml (value : String) : markup (escapeHtml value).toList = [] := by
  rw [escapeHtml, String.toList_ofList, markup, List.filter_flatMap]
  exact List.flatMap_eq_nil_iff.mpr fun c _ => markup_escapeChar c

/-- An ampersand in what stands for a character begins it. -/
theorem entity_of_escapeChar {c : Char} {before tail : List Char} (h : escapeChar c = before ++ '&' :: tail) :
    '&' :: tail ∈ entities := by
  rcases escapeChar_cases c with ⟨hself, hamp, -⟩ | ⟨hentity, -⟩
  · rw [hself] at h
    have hmem : '&' ∈ [c] := h ▸ List.mem_append_right before List.mem_cons_self
    exact absurd (List.mem_singleton.mp hmem).symm hamp
  · have hfirst : ∀ entity ∈ entities, '&' ∉ entity.tail := by decide
    cases before with
    | nil => rwa [h] at hentity
    | cons b before =>
      rw [h] at hentity
      exact absurd (List.mem_append_right before List.mem_cons_self) (hfirst _ hentity)

/-- An ampersand in an escaped text begins an entity. -/
theorem entity_of_suffix {cs tail : List Char} (h : '&' :: tail <:+ cs.flatMap escapeChar) :
    ∃ entity ∈ entities, entity <+: '&' :: tail := by
  induction cs with
  | nil => simp at h
  | cons c cs ih =>
    rw [List.flatMap_cons] at h
    obtain ⟨before, h⟩ := h
    -- the ampersand stands in what stands for the first character, or after it
    rcases List.append_eq_append_iff.mp h with ⟨first, hfirst, hrest⟩ | ⟨later, -, hrest⟩
    · cases first with
      | nil => exact ih ⟨[], hrest⟩
      | cons a first =>
        obtain ⟨rfl, rfl⟩ := List.cons.inj hrest
        exact ⟨'&' :: first, entity_of_escapeChar hfirst, List.prefix_append ('&' :: first) _⟩
    · exact ih ⟨later, hrest.symm⟩

/-! ## Rendered templates -/

/-- A key without markup. -/
def IsPlain (key : String) : Prop := markup key.toList = []

instance (key : String) : Decidable (IsPlain key) := inferInstanceAs (Decidable (_ = _))

/-- A piece that has been filled in has the markup that it has in the template. -/
theorem markup_filled {value? : String → Option String} {piece : Piece}
    (hvalue : ∀ key, piece.key? = some key → (value? key).isSome = true ∧ IsPlain key) :
    markup (piece.filled fun key => (value? key).map escapeHtml) = markup piece.source := by
  cases piece with
  | literal text => rfl
  | placeholder key =>
    obtain ⟨hsome, hplain⟩ := hvalue _ rfl
    obtain ⟨value, hvalue⟩ := Option.isSome_iff_exists.mp hsome
    have hkey : markup key = [] := by simpa [IsPlain] using hplain
    have hsource : markup (openMark ++ key ++ closeMark) = [] := by
      unfold markup at hkey ⊢
      rw [List.filter_append, List.filter_append, hkey]
      rfl
    simp only [Piece.filled, Piece.source, hvalue, Option.map_some]
    rw [markup_escapeHtml, hsource]

/-- Where all keys have values and no markup, a rendered HTML body has the markup of its template. -/
theorem markup_renderHtml {value? : String → Option String} {template : String}
    (hvalue : ∀ key ∈ keys template.toList, (value? key).isSome = true) (hplain : ∀ key ∈ keys template.toList, IsPlain key) :
    markup (renderHtml value? template).toList = markup template.toList := by
  have hpieces : ∀ piece ∈ pieces template.toList,
      markup (piece.filled fun key => (value? key).map escapeHtml) = markup piece.source := by
    intro piece hpiece
    refine markup_filled fun key hkey => ?_
    have hmem : key ∈ keys template.toList := List.mem_filterMap.mpr ⟨piece, hpiece, hkey⟩
    exact ⟨hvalue key hmem, hplain key hmem⟩
  have hsource : markup template.toList = (pieces template.toList).flatMap fun piece => markup piece.source := by
    unfold markup
    rw [← List.filter_flatMap, flatMap_source]
  rw [renderHtml_eq, render_eq, String.toList_ofList, hsource]
  unfold markup at hpieces ⊢
  rw [List.filter_flatMap]
  exact List.flatMap_congr hpieces

end Template

/-! ## Letters -/

namespace Letter

/-- The keys of letters have no markup. -/
theorem isPlain_of_mem_keys {l : Letter} {key : String} (h : key ∈ l.keys) : Template.IsPlain key := by
  have hall : ∀ key ∈ l.keys, Template.IsPlain key := by
    cases l <;> decide +kernel
  exact hall key h

end Letter

/-- **No value brings markup along.** An escaped value has no markup, every ampersand in it begins an entity, and reading the
entities gives the value back. A letter is rendered from every record that covers it, and its HTML body has the markup of the
template, whatever the values are. -/
theorem Letter.markup_of_template :
    (∀ value, Template.markup (Template.escapeHtml value).toList = [] ∧
      (∀ tail, '&' :: tail <:+ (Template.escapeHtml value).toList → ∃ entity ∈ Template.entities, entity <+: '&' :: tail) ∧
      Template.unescapeHtml (Template.escapeHtml value) = value) ∧
    Function.Injective Template.escapeHtml ∧
    ∀ (l : Letter) (data : TemplateData), l.CoveredBy data → ∃ rendered, RenderedLetter.ofPath l.path data = .ok rendered ∧
      Template.markup rendered.htmlBody.toList = Template.markup l.htmlBody.toList := by
  refine ⟨fun value => ⟨Template.markup_escapeHtml value, fun tail htail => ?_, Template.unescapeHtml_escapeHtml value⟩,
    Function.LeftInverse.injective Template.unescapeHtml_escapeHtml, fun l data hcovered => ?_⟩
  · rw [Template.escapeHtml, String.toList_ofList] at htail
    exact Template.entity_of_suffix htail
  · refine ⟨_, RenderedLetter.ofPath_path hcovered, Template.markup_renderHtml ?_ fun key hkey => ?_⟩
    · exact hcovered l.htmlBody (by simp [Letter.templates])
    · exact isPlain_of_mem_keys (l.keys_htmlBody hkey)

/-- Values that look like markup bring none into a welcome. -/
theorem Letter.markup_of_template_hostile : Letter.userWelcome.CoveredBy .hostile ∧
    ∃ rendered, RenderedLetter.ofPath "user-welcome" .hostile = .ok rendered ∧
      Template.markup rendered.htmlBody.toList = Template.markup Letter.userWelcome.htmlBody.toList := by
  have hcovered : Letter.userWelcome.CoveredBy .hostile := coveredBy_of_keys (by decide +kernel)
  exact ⟨hcovered, Letter.markup_of_template.2.2 .userWelcome .hostile hcovered⟩

end Tenancy
