import Tenancy.Id
import Tenancy.Proofs.Json.Records

/-!
# Ids read back

An id is read from a text if and only if the text is the label of its type, a colon, and one of the forms of its UUID; the
first colon is the one that counts, also where the UUID has colons of its own. A text that is no id is blamed for the first
thing that is wrong with it: the missing colon, then the type, and only then the UUID.
-/

namespace Tenancy

open Text

/-- The alternative that is found has the label. -/
theorem Labelled.ofLabel?_eq_some {α : Type} [Labelled α] [LawfulLabelled α] {s : String} {a : α} :
    Labelled.ofLabel? s = some a ↔ Labelled.label a = s := by
  constructor
  · intro h
    simpa using List.find?_some h
  · rintro rfl
    exact LawfulLabelled.ofLabel?_label a

/-- No alternative is found exactly when none has the label. -/
theorem Labelled.ofLabel?_eq_none {α : Type} [Labelled α] [LawfulLabelled α] {s : String} :
    (Labelled.ofLabel? s : Option α) = none ↔ ∀ a : α, Labelled.label a ≠ s := by
  rw [Option.eq_none_iff_forall_ne_some]
  exact forall_congr' fun a => not_congr Labelled.ofLabel?_eq_some

namespace Id

variable {s before after : String}

/-- A text without a colon is no id. -/
theorem parse_of_not_mem (h : ':' ∉ s.toList) : parse s = .error (.noColon s) := by
  unfold parse
  rw [splitFirst?_eq_none.mpr h]

/-- A text with a colon is split at the first one. -/
theorem exists_split (h : ':' ∈ s.toList) : ∃ before after, s = before ++ ":" ++ after ∧ ':' ∉ before.toList := by
  cases hsplit : splitFirst? ':' s.toList with
  | none => exact absurd h (splitFirst?_eq_none.mp hsplit)
  | some parts =>
    obtain ⟨hparts, hbefore⟩ := splitFirst?_eq_some.mp hsplit
    refine ⟨String.ofList parts.1, String.ofList parts.2, ?_, by rwa [String.toList_ofList]⟩
    rw [← String.toList_inj]
    simpa using hparts

/-- No kind of resource has a colon in its label. -/
theorem colon_not_mem_label (kind : ResourceType) : ':' ∉ (Labelled.label kind).toList := by
  cases kind <;> decide +kernel

/-- Before the first colon stands a label, or the text is no id. -/
theorem parse_of_unknown (hbefore : ':' ∉ before.toList) (h : ∀ kind : ResourceType, Labelled.label kind ≠ before) :
    parse (before ++ ":" ++ after) = .error (.unknownKind before) := by
  have hsplit : splitFirst? ':' (before ++ ":" ++ after).toList = some (before.toList, after.toList) :=
    splitFirst?_eq_some.mpr ⟨by simp, hbefore⟩
  unfold parse
  rw [hsplit]
  simp only [String.ofList_toList, Labelled.ofLabel?_eq_none.mpr h]

/-- After a label and a colon, it is the UUID that counts. -/
theorem parse_label (kind : ResourceType) (after : String) : parse (Labelled.label kind ++ ":" ++ after) =
    ((Uuid.parse after).mapError (.uuid (Labelled.label kind ++ ":" ++ after))).map fun uuid => ⟨uuid, kind⟩ := by
  have hsplit : splitFirst? ':' (Labelled.label kind ++ ":" ++ after).toList =
      some ((Labelled.label kind).toList, after.toList) := splitFirst?_eq_some.mpr ⟨by simp, colon_not_mem_label kind⟩
  unfold parse
  rw [hsplit]
  simp only [String.ofList_toList, LawfulLabelled.ofLabel?_label]
  cases Uuid.parse after with
  | ok uuid => rfl
  | error cause => rfl

/-- What is read from a text depends on whether it has a colon, and on what is before the first one. -/
theorem text_cases (s : String) : ':' ∉ s.toList ∨ ∃ before after, s = before ++ ":" ++ after ∧ ':' ∉ before.toList ∧
    ((∀ kind : ResourceType, Labelled.label kind ≠ before) ∨ ∃ kind : ResourceType, Labelled.label kind = before) := by
  by_cases hcolon : ':' ∈ s.toList
  · obtain ⟨before, after, hparts, hbefore⟩ := exists_split hcolon
    refine .inr ⟨before, after, hparts, hbefore, ?_⟩
    by_cases hkind : ∃ kind : ResourceType, Labelled.label kind = before
    · exact .inr hkind
    · exact .inl (not_exists.mp hkind)
  · exact .inl hcolon

/-- A text is read as an id exactly when it names the kind before its first colon and spells the UUID after it. -/
theorem parse_eq_ok_iff {id : Id} : parse s = .ok id ↔ ∃ (f : Uuid.Form) (spelled : String),
    s = Labelled.label id.kind ++ ":" ++ spelled ∧ lower spelled = f.text id.uuid := by
  constructor
  · intro h
    rcases text_cases s with hcolon | ⟨before, after, rfl, hbefore, hunknown | ⟨kind, rfl⟩⟩
    · rw [parse_of_not_mem hcolon] at h
      cases h
    · rw [parse_of_unknown hbefore hunknown] at h
      cases h
    · rw [parse_label] at h
      cases hparse : Uuid.parse after with
      | error cause =>
        rw [hparse] at h
        cases h
      | ok uuid =>
        rw [hparse] at h
        obtain rfl := Except.ok.inj h
        obtain ⟨f, hform⟩ := Uuid.parse_eq_ok_iff.mp hparse
        exact ⟨f, after, rfl, hform⟩
  · rintro ⟨f, spelled, rfl, hform⟩
    rw [parse_label, Uuid.parse_eq_ok_iff.mpr ⟨f, hform⟩]
    rfl

/-- Without a colon a text is refused, and with one it is for the kind first, then for the UUID. -/
theorem parse_eq_error_iff {fault : IdTextError} : parse s = .error fault ↔
    (':' ∉ s.toList ∧ fault = .noColon s) ∨
      ∃ before after, s = before ++ ":" ++ after ∧ ':' ∉ before.toList ∧
        (((∀ kind : ResourceType, Labelled.label kind ≠ before) ∧ fault = .unknownKind before) ∨
          ∃ (kind : ResourceType) (cause : Uuid.TextError), Labelled.label kind = before ∧ Uuid.parse after = .error cause ∧
            fault = .uuid s cause) := by
  constructor
  · intro h
    rcases text_cases s with hcolon | ⟨before, after, rfl, hbefore, hunknown | ⟨kind, rfl⟩⟩
    · rw [parse_of_not_mem hcolon] at h
      exact .inl ⟨hcolon, (Except.error.inj h).symm⟩
    · rw [parse_of_unknown hbefore hunknown] at h
      exact .inr ⟨before, after, rfl, hbefore, .inl ⟨hunknown, (Except.error.inj h).symm⟩⟩
    · rw [parse_label] at h
      cases hparse : Uuid.parse after with
      | error cause =>
        rw [hparse] at h
        exact .inr ⟨_, after, rfl, hbefore, .inr ⟨kind, cause, rfl, hparse, (Except.error.inj h).symm⟩⟩
      | ok uuid =>
        rw [hparse] at h
        cases h
  · rintro (⟨hcolon, rfl⟩ | ⟨before, after, rfl, hbefore, ⟨hunknown, rfl⟩ | ⟨kind, cause, rfl, hcause, rfl⟩⟩)
    · exact parse_of_not_mem hcolon
    · exact parse_of_unknown hbefore hunknown
    · rw [parse_label, hcause]
      rfl

/-- An id is read from its written form. -/
theorem parse_text (id : Id) : parse id.text = .ok id := by
  rw [text, parse_label, Uuid.parse_text]
  rfl

/-- **The text form of ids.** An id is read from its written form, so that no two ids have the same one. A text is read as an id
if and only if it is the label of the type, a colon and one of the forms of the UUID, in any case. Otherwise the text has no
colon, or what is before the first one is no label, or what is after it is no UUID, and the first of these is what is
reported. -/
theorem read_iff_spelled :
    (∀ id : Id, Id.parse id.text = .ok id) ∧
    Function.Injective Id.text ∧
    (∀ (s : String) (id : Id), Id.parse s = .ok id ↔ ∃ (f : Uuid.Form) (spelled : String),
      s = Labelled.label id.kind ++ ":" ++ spelled ∧ lower spelled = f.text id.uuid) ∧
    (∀ (s : String) (fault : IdTextError), Id.parse s = .error fault ↔
      (':' ∉ s.toList ∧ fault = .noColon s) ∨
        ∃ before after, s = before ++ ":" ++ after ∧ ':' ∉ before.toList ∧
          (((∀ kind : ResourceType, Labelled.label kind ≠ before) ∧ fault = .unknownKind before) ∨
            ∃ (kind : ResourceType) (cause : Uuid.TextError), Labelled.label kind = before ∧
              Uuid.parse after = .error cause ∧ fault = .uuid s cause)) ∧
    ∀ t : String, (∃ cause, Uuid.parse t = .error cause) ↔ ∀ (f : Uuid.Form) (u : Uuid), lower t ≠ f.text u := by
  refine ⟨parse_text, fun id id' h => ?_, fun s id => parse_eq_ok_iff, fun s fault => parse_eq_error_iff, fun t => ?_⟩
  · have hread := parse_text id
    rw [h, parse_text id'] at hread
    exact (Except.ok.inj hread).symm
  · exact Uuid.parse_eq_error_iff

/-- The colons of a UUID do not count, nor does the case of its digits. -/
example : Id.parse "user:URN:uuid:550E8400-e29b-41d4-a716-446655440000" =
    .ok ⟨Uuid.ofNat 0x550e8400e29b41d4a716446655440000, .user⟩ := by
  decide +kernel

end Id

end Tenancy
