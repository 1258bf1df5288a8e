import Tenancy.Text.Chars

/-!
# Templates

A template is a text with placeholders, each a key between double braces. It is rendered in one pass: from the left,
each pair of opening braces and the nearest closing pair after it make a placeholder, which is replaced by the value of its
key; inserted values are never read again. A placeholder whose key has no value stays as it is, and opening braces that
are never closed are plain text.
-/

namespace Tenancy.Template

open Text

/-- The braces that open a placeholder. -/
def openMark : List Char := ['\x7b', '\x7b']

/-- The braces that close a placeholder. -/
def closeMark : List Char := ['\x7d', '\x7d']

/-- The text before and after the first occurrence of a marker. -/
def splitMarker? (marker : List Char) : List Char → Option (List Char × List Char)
  | [] => (dropMarker? marker []).map fun rest => ([], rest)
  | c :: cs =>
    match dropMarker? marker (c :: cs) with
    | some rest => some ([], rest)
    | none => (splitMarker? marker cs).map fun (before, after) => (c :: before, after)

theorem length_dropMarker? {marker cs rest : List Char} (h : dropMarker? marker cs = some rest) :
    rest.length + marker.length = cs.length := by
  induction marker generalizing cs with
  | nil => simp_all [dropMarker?]
  | cons m ms ih =>
    cases cs with
    | nil => simp [dropMarker?] at h
    | cons c cs =>
      simp only [dropMarker?] at h
      split at h
      · simp only [List.length_cons, ← ih h]; omega
      · simp at h

theorem length_splitMarker? {marker cs before after : List Char} (h : splitMarker? marker cs = some (before, after)) :
    before.length + marker.length + after.length = cs.length := by
  induction cs generalizing before with
  | nil =>
    simp only [splitMarker?, Option.map_eq_some_iff] at h
    obtain ⟨rest, hr, he⟩ := h
    simp only [Prod.mk.injEq] at he
    obtain ⟨rfl, rfl⟩ := he
    have := length_dropMarker? hr
    simp only [List.length_nil] at this ⊢
    omega
  | cons c cs ih =>
    simp only [splitMarker?] at h
    split at h
    · next rest hr =>
      simp only [Option.some.injEq, Prod.mk.injEq] at h
      obtain ⟨rfl, rfl⟩ := h
      have := length_dropMarker? hr
      simp only [List.length_nil, List.length_cons] at this ⊢
      omega
    · simp only [Option.map_eq_some_iff] at h
      obtain ⟨⟨b, a⟩, hs, he⟩ := h
      simp only [Prod.mk.injEq] at he
      obtain ⟨rfl, rfl⟩ := he
      have := ih hs
      simp only [List.length_cons]
      omega

/-- The first placeholder of a text: what stands before it, its key, and what stands after it. -/
def firstPlaceholder? (cs : List Char) : Option (List Char × List Char × List Char) :=
  match splitMarker? openMark cs with
  | none => none
  | some (before, inner) => (splitMarker? closeMark inner).map fun (key, after) => (before, key, after)

theorem length_firstPlaceholder? {cs before key after : List Char}
    (h : firstPlaceholder? cs = some (before, key, after)) : after.length < cs.length := by
  unfold firstPlaceholder? at h
  split at h
  · simp at h
  · next b inner hs =>
    simp only [Option.map_eq_some_iff] at h
    obtain ⟨⟨k, a⟩, hc, he⟩ := h
    simp only [Prod.mk.injEq] at he
    obtain ⟨rfl, rfl, rfl⟩ := he
    have h1 := length_splitMarker? hs
    have h2 := length_splitMarker? hc
    simp only [openMark, closeMark, List.length_cons, List.length_nil] at h1 h2
    omega

/-- The rendered text, and the key of the first placeholder without a value. -/
def expand (value? : String → Option String) (escape : String → String) (cs : List Char) :
    List Char × Option String :=
  match _h : firstPlaceholder? cs with
  | none => (cs, none)
  | some (before, key, after) =>
    let (rest, missing) := expand value? escape after
    match value? (String.ofList key) with
    | some value => (before ++ (escape value).toList ++ rest, missing)
    | none => (before ++ openMark ++ key ++ closeMark ++ rest, some (String.ofList key))
termination_by cs.length
decreasing_by exact length_firstPlaceholder? _h

/-- What stands for a character in HTML. -/
def escapeChar : Char → List Char
  | '&' => "&amp;".toList
  | '<' => "&lt;".toList
  | '>' => "&gt;".toList
  | '"' => "&quot;".toList
  | '\'' => "&#39;".toList
  | c => [c]

/-- A value as HTML text. -/
def escapeHtml (value : String) : String := String.ofList (value.toList.flatMap escapeChar)

/-- The template with its placeholders replaced. -/
def render (value? : String → Option String) (template : String) : String :=
  String.ofList (expand value? id template.toList).1

/-- The template with its placeholders replaced by values in HTML. -/
def renderHtml (value? : String → Option String) (template : String) : String :=
  String.ofList (expand value? escapeHtml template.toList).1

/-- The key of the first placeholder that has no value. -/
def missing? (value? : String → Option String) (template : String) : Option String :=
  (expand value? id template.toList).2

end Tenancy.Template
