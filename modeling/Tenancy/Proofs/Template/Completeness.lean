import Tenancy.Letter
import Tenancy.Proofs.Template.Pieces

/-!
# Which records are enough for a letter

A letter is rendered if and only if its record has a value for each of its placeholders, and otherwise the first placeholder
without one is reported: those of the subject come first, then those of the HTML body, then those of the text body
(`RenderedLetter.ofPath_eq`). The placeholders are those of the templates. So nothing else in the record makes a difference,
neither the values of other keys nor what the values look like.
-/

namespace Tenancy

namespace Template

variable {value? value?' : String → Option String}

/-- A piece is filled in with no value but that of its own key. -/
theorem Piece.filled_congr {piece : Piece} (h : ∀ key, piece.key? = some key → value?' key = value? key) :
    piece.filled value?' = piece.filled value? := by
  cases piece with
  | literal text => rfl
  | placeholder key => simp only [filled, h _ rfl]

/-- A template is rendered with no values but those of its placeholders. -/
theorem render_congr {template : String} (h : ∀ key ∈ keys template.toList, value?' key = value? key) :
    render value?' template = render value? template := by
  rw [render_eq, render_eq]
  refine congrArg String.ofList (List.flatMap_congr fun piece hpiece => Piece.filled_congr fun key hkey => ?_)
  exact h key (List.mem_filterMap.mpr ⟨piece, hpiece, hkey⟩)

/-- Values that agree on the placeholders of a template give the same markup. -/
theorem renderHtml_congr {template : String} (h : ∀ key ∈ keys template.toList, value?' key = value? key) :
    renderHtml value?' template = renderHtml value? template := by
  rw [renderHtml_eq, renderHtml_eq]
  exact render_congr fun key hkey => by rw [h key hkey]

end Template

namespace Letter

variable {l : Letter} {data data' : TemplateData} {path key : String}

/-- The templates of a letter. -/
def templates (l : Letter) : List String := [l.subject, l.htmlBody, l.textBody]

/-- The placeholders of a letter, in the order in which they are filled in. -/
def placeholders (l : Letter) : List String := l.templates.flatMap fun template => Template.keys template.toList

/-- The keys for which a letter needs values. -/
def keys : Letter → List String
  | passwordReset => ["FirstName", "Username", "PasswordResetURL", "SupportEmail"]
  | organizationInvite => ["OrganizationName", "FirstName", "InvitationURL", "SupportEmail"]
  | licenseExpiryReminder =>
    ["LicenseOrganization", "LicenseID", "LicenseEmail", "LicenseExpiresAt", "ServerURL", "RenewEmail", "SupportEmail"]
  | userWelcome => ["Hostname", "FirstName", "ServerURL", "SupportEmail"]

/-- A record has a value for every placeholder of a letter. -/
def CoveredBy (l : Letter) (data : TemplateData) : Prop :=
  ∀ template ∈ l.templates, ∀ key ∈ Template.keys template.toList, (data.value? key).isSome = true

/-- A letter is covered exactly when each of its placeholders has a value. -/
theorem coveredBy_iff : l.CoveredBy data ↔ ∀ key ∈ l.placeholders, (data.value? key).isSome = true := by
  simp only [CoveredBy, placeholders, List.mem_flatMap]
  exact ⟨fun h key ⟨template, htemplate, hkey⟩ => h template htemplate key hkey,
    fun h template htemplate key hkey => h key ⟨template, htemplate, hkey⟩⟩

/-- The placeholders of a subject are keys of its letter. -/
theorem keys_subject (l : Letter) : Template.keys l.subject.toList ⊆ l.keys := by
  cases l
  all_goals
    unfold subject
    rw [String.toList_ofList]
    decide +kernel

/-- The placeholders of a body in HTML are keys of its letter. -/
theorem keys_htmlBody (l : Letter) : Template.keys l.htmlBody.toList ⊆ l.keys := by
  cases l
  all_goals
    -- the characters of a long text are only found at once where it is not put together
    unfold htmlBody page
    repeat rw [String.toList_append]
    repeat rw [String.toList_ofList]
    decide +kernel

/-- The placeholders of a body in plain text are keys of its letter. -/
theorem keys_textBody (l : Letter) : Template.keys l.textBody.toList ⊆ l.keys := by
  cases l
  all_goals
    unfold textBody
    repeat rw [String.toList_append]
    repeat rw [String.toList_ofList]
    decide +kernel

/-- The placeholders of a letter are among its keys. -/
theorem placeholders_subset_keys (l : Letter) : l.placeholders ⊆ l.keys := by
  simp only [placeholders, templates, List.flatMap_cons, List.flatMap_nil, List.append_nil, List.append_subset]
  exact ⟨l.keys_subject, l.keys_htmlBody, l.keys_textBody⟩

/-- A record that has a value for each key of a letter covers it. -/
theorem coveredBy_of_keys (h : ∀ key ∈ l.keys, (data.value? key).isSome = true) : l.CoveredBy data :=
  coveredBy_iff.mpr fun key hkey => h key (l.placeholders_subset_keys hkey)

/-- The first placeholder of a letter for which a record has no value. -/
def uncovered? (l : Letter) (data : TemplateData) : Option String :=
  l.placeholders.find? fun key => (data.value? key).isNone

/-- No placeholder is without a value exactly when the letter is covered. -/
theorem uncovered?_eq_none : l.uncovered? data = none ↔ l.CoveredBy data := by
  rw [coveredBy_iff, uncovered?, List.find?_eq_none]
  simp [Option.isSome_iff_ne_none]

/-- The first placeholder without a value is one before which all have values. -/
theorem uncovered?_eq_some : l.uncovered? data = some key ↔ data.value? key = none ∧
    ∃ before after, l.placeholders = before ++ key :: after ∧ ∀ k ∈ before, (data.value? k).isSome = true := by
  rw [uncovered?, List.find?_eq_some_iff_append]
  simp [Option.isSome_iff_ne_none]

/-- Records that have the same values for the placeholders of a letter leave the same one uncovered. -/
theorem uncovered?_congr (h : ∀ key ∈ l.placeholders, data'.value? key = data.value? key) :
    l.uncovered? data' = l.uncovered? data := by
  unfold uncovered?
  rw [← List.head?_filter, ← List.head?_filter]
  exact congrArg List.head? (List.filter_congr fun key hkey => by rw [h key hkey])

/-- The templates of a letter with the values of a record, which are escaped in the HTML body. -/
def filled (l : Letter) (data : TemplateData) : RenderedLetter where
  path := l.path
  subject := Template.render data.value? l.subject
  data
  htmlBody := Template.renderHtml data.value? l.htmlBody
  textBody := Template.render data.value? l.textBody

/-- Records that have the same values for the placeholders of a letter give the same texts. -/
theorem filled_congr (h : ∀ key ∈ l.placeholders, data'.value? key = data.value? key) :
    l.filled data' = { l.filled data with data := data' } := by
  have hkeys : ∀ template ∈ l.templates, ∀ key ∈ Template.keys template.toList, data'.value? key = data.value? key :=
    fun template htemplate key hkey => h key (List.mem_flatMap.mpr ⟨template, htemplate, hkey⟩)
  simp only [filled, Template.render_congr (hkeys l.subject (by simp [templates])),
    Template.renderHtml_congr (hkeys l.htmlBody (by simp [templates])),
    Template.render_congr (hkeys l.textBody (by simp [templates]))]

/-- Every letter is found by its path. -/
theorem ofPath?_path (l : Letter) : ofPath? l.path = some l := by
  cases l <;> decide +kernel

/-- The letter that is found has the path. -/
theorem ofPath?_eq_some : ofPath? path = some l ↔ l.path = path := by
  constructor
  · intro h
    simpa using List.find?_some h
  · rintro rfl
    exact l.ofPath?_path

/-- No letter is found exactly when none has the path. -/
theorem ofPath?_eq_none : ofPath? path = none ↔ ∀ l : Letter, l.path ≠ path := by
  rw [Option.eq_none_iff_forall_ne_some]
  exact forall_congr' fun l => not_congr ofPath?_eq_some

end Letter

namespace RenderedLetter

variable {path : String} {data : TemplateData}

theorem complete_eq {escape : String → String} {template : String} : complete path data escape template =
    match (Template.keys template.toList).find? fun key => (data.value? key).isNone with
    | some key => .error (.missingVariable path key)
    | none => .ok (String.ofList (Template.expand data.value? escape template.toList).1) := by
  unfold complete
  rw [← Template.snd_expand data.value? escape template]
  generalize Template.expand data.value? escape template.toList = expanded
  obtain ⟨text, missing⟩ := expanded
  cases missing with
  | some key => rfl
  | none => rfl

/-- A letter is filled in, or the first placeholder without a value is reported. -/
theorem ofPath_eq (l : Letter) (data : TemplateData) : ofPath l.path data =
    match l.uncovered? data with
    | some key => .error (.missingVariable l.path key)
    | none => .ok (l.filled data) := by
  unfold ofPath Letter.uncovered? Letter.placeholders
  simp only [l.ofPath?_path, complete_eq, Letter.templates, List.flatMap_cons, List.flatMap_nil, List.append_nil,
    List.find?_append]
  cases (Template.keys l.subject.toList).find? fun key => (data.value? key).isNone with
  | some key => rfl
  | none =>
    cases (Template.keys l.htmlBody.toList).find? fun key => (data.value? key).isNone with
    | some key => rfl
    | none =>
      cases (Template.keys l.textBody.toList).find? fun key => (data.value? key).isNone with
      | some key => rfl
      | none => rfl

/-- A letter is rendered from every record that covers it. -/
theorem ofPath_path {l : Letter} (h : l.CoveredBy data) : ofPath l.path data = .ok (l.filled data) := by
  rw [ofPath_eq, Letter.uncovered?_eq_none.mpr h]

/-- Nothing is rendered of a path that is no letter's. -/
theorem ofPath_unknown (h : ∀ l : Letter, l.path ≠ path) : ofPath path data = .error (.notFound path) := by
  unfold ofPath
  rw [Letter.ofPath?_eq_none.mpr h]

/-- The path is unknown, or it is that of a letter, which is covered and filled in, or not covered. -/
theorem ofPath_cases (path : String) (data : TemplateData) :
    (ofPath path data = .error (.notFound path) ∧ ∀ l : Letter, l.path ≠ path) ∨
      ∃ l : Letter, l.path = path ∧ (l.CoveredBy data ∧ ofPath path data = .ok (l.filled data) ∨
        ∃ key, l.uncovered? data = some key ∧ ofPath path data = .error (.missingVariable path key)) := by
  by_cases hpath : ∃ l : Letter, l.path = path
  · obtain ⟨l, rfl⟩ := hpath
    refine .inr ⟨l, rfl, ?_⟩
    cases hmissing : l.uncovered? data with
    | some key => exact .inr ⟨key, rfl, by rw [ofPath_eq, hmissing]⟩
    | none =>
      have hcovered := Letter.uncovered?_eq_none.mp hmissing
      exact .inl ⟨hcovered, ofPath_path hcovered⟩
  · have hunknown := not_exists.mp hpath
    exact .inl ⟨ofPath_unknown hunknown, hunknown⟩

/-- Something is rendered exactly when the path is that of a letter that the record covers. -/
theorem ofPath_eq_ok_iff {rendered : RenderedLetter} :
    ofPath path data = .ok rendered ↔ ∃ l : Letter, l.path = path ∧ l.CoveredBy data ∧ rendered = l.filled data := by
  constructor
  · intro h
    rcases ofPath_cases path data with ⟨hfault, -⟩ | ⟨l, hpath, ⟨hcovered, hfilled⟩ | ⟨key, -, hfault⟩⟩
    · cases h.symm.trans hfault
    · exact ⟨l, hpath, hcovered, Except.ok.inj (h.symm.trans hfilled)⟩
    · cases h.symm.trans hfault
  · rintro ⟨l, rfl, hcovered, rfl⟩
    exact ofPath_path hcovered

/-- To render fails when the path is no letter's, and with the first placeholder without a value otherwise. -/
theorem ofPath_eq_error_iff {fault : TemplateError} : ofPath path data = .error fault ↔
    (fault = .notFound path ∧ ∀ l : Letter, l.path ≠ path) ∨
      ∃ l : Letter, l.path = path ∧ ∃ key, l.uncovered? data = some key ∧ fault = .missingVariable path key := by
  constructor
  · intro h
    rcases ofPath_cases path data with ⟨hfault, hunknown⟩ | ⟨l, hpath, ⟨-, hfilled⟩ | ⟨key, hmissing, hfault⟩⟩
    · exact .inl ⟨Except.error.inj (h.symm.trans hfault), hunknown⟩
    · cases h.symm.trans hfilled
    · exact .inr ⟨l, hpath, key, hmissing, Except.error.inj (h.symm.trans hfault)⟩
  · rintro (⟨rfl, hunknown⟩ | ⟨l, rfl, key, hmissing, rfl⟩)
    · exact ofPath_unknown hunknown
    · rw [ofPath_eq, hmissing]

/-- Records with the same values for the placeholders of a letter are rendered alike, or fail alike. -/
theorem ofPath_congr {data' : TemplateData}
    (h : ∀ l : Letter, l.path = path → ∀ key ∈ l.placeholders, data'.value? key = data.value? key) :
    ofPath path data' = (ofPath path data).map fun rendered => { rendered with data := data' } := by
  by_cases hpath : ∃ l : Letter, l.path = path
  · obtain ⟨l, rfl⟩ := hpath
    rw [ofPath_eq, ofPath_eq, Letter.uncovered?_congr (h l rfl)]
    cases l.uncovered? data with
    | some key => rfl
    | none => exact congrArg Except.ok (Letter.filled_congr (h l rfl))
  · rw [ofPath_unknown (not_exists.mp hpath), ofPath_unknown (not_exists.mp hpath)]
    rfl

end RenderedLetter

/-- **A letter is rendered whenever it can be.** Rendering succeeds if and only if the path is that of a letter and the record
has a value for each of its placeholders. Otherwise the path is unknown, or the first placeholder without a value is reported.
The record is passed on as it is. Records with the same values for the placeholders are rendered alike, and a record that has
values for more keys is rendered as well. -/
theorem rendered_iff_covered (path : String) (data : TemplateData) :
    ((∃ rendered, RenderedLetter.ofPath path data = .ok rendered) ↔ ∃ l : Letter, l.path = path ∧ l.CoveredBy data) ∧
    (∀ fault, RenderedLetter.ofPath path data = .error fault ↔
      (fault = .notFound path ∧ ∀ l : Letter, l.path ≠ path) ∨
      ∃ l : Letter, l.path = path ∧ ∃ before key after, l.placeholders = before ++ key :: after ∧
        (∀ k ∈ before, (data.value? k).isSome = true) ∧ data.value? key = none ∧ fault = .missingVariable path key) ∧
    (∀ rendered, RenderedLetter.ofPath path data = .ok rendered → rendered.path = path ∧ rendered.data = data) ∧
    (∀ data' : TemplateData,
      (∀ l : Letter, l.path = path → ∀ key ∈ l.placeholders, data'.value? key = data.value? key) →
      RenderedLetter.ofPath path data' =
        (RenderedLetter.ofPath path data).map fun rendered => { rendered with data := data' }) ∧
    ∀ data' : TemplateData, (∀ key, (data.value? key).isSome = true → (data'.value? key).isSome = true) →
      (∃ rendered, RenderedLetter.ofPath path data = .ok rendered) →
      ∃ rendered, RenderedLetter.ofPath path data' = .ok rendered := by
  refine ⟨?_, fun fault => ?_, fun rendered h => ?_, fun data' => RenderedLetter.ofPath_congr, fun data' hmore h => ?_⟩
  · constructor
    · rintro ⟨rendered, h⟩
      obtain ⟨l, hpath, hcovered, -⟩ := RenderedLetter.ofPath_eq_ok_iff.mp h
      exact ⟨l, hpath, hcovered⟩
    · rintro ⟨l, hpath, hcovered⟩
      exact ⟨l.filled data, RenderedLetter.ofPath_eq_ok_iff.mpr ⟨l, hpath, hcovered, rfl⟩⟩
  · rw [RenderedLetter.ofPath_eq_error_iff]
    refine or_congr_right (exists_congr fun l => and_congr_right fun _ => ?_)
    simp only [Letter.uncovered?_eq_some]
    constructor
    · rintro ⟨key, ⟨hnone, before, after, hsplit, hbefore⟩, hfault⟩
      exact ⟨before, key, after, hsplit, hbefore, hnone, hfault⟩
    · rintro ⟨before, key, after, hsplit, hbefore, hnone, hfault⟩
      exact ⟨key, ⟨hnone, before, after, hsplit, hbefore⟩, hfault⟩
  · obtain ⟨l, rfl, -, rfl⟩ := RenderedLetter.ofPath_eq_ok_iff.mp h
    exact ⟨rfl, rfl⟩
  · obtain ⟨rendered, h⟩ := h
    obtain ⟨l, hpath, hcovered, -⟩ := RenderedLetter.ofPath_eq_ok_iff.mp h
    have hcovered' : l.CoveredBy data' := fun template htemplate key hkey => hmore key (hcovered template htemplate key hkey)
    exact ⟨l.filled data', RenderedLetter.ofPath_eq_ok_iff.mpr ⟨l, hpath, hcovered', rfl⟩⟩

/-- A record of values that look like tags, attributes and placeholders. -/
def TemplateData.hostile : TemplateData :=
  [("FirstName", "<script>alert('1')</script>"), ("Hostname", "\x7b\x7bFirstName\x7d\x7d"),
    ("ServerURL", "\" onclick=\"alert(1)"), ("SupportEmail", "a&b@example.com")]

/-- A value that looks like a placeholder is not filled in, and a value that no template asks for makes no difference. -/
theorem rendered_iff_covered_hostile :
    let more : TemplateData := ("Username", "\x7b\x7bMissing\x7d\x7d") :: TemplateData.hostile
    (∃ rendered, RenderedLetter.ofPath "user-welcome" more = .ok rendered) ∧
      RenderedLetter.ofPath "user-welcome" more =
        (RenderedLetter.ofPath "user-welcome" .hostile).map fun rendered => { rendered with data := more } := by
  intro more
  obtain ⟨hiff, -, -, hsame, hmore⟩ := rendered_iff_covered "user-welcome" .hostile
  refine ⟨hmore more (fun key hkey => ?_) ?_, hsame more fun l hpath key hkey => ?_⟩
  · rw [TemplateData.value?, List.find?_cons]
    split
    · rfl
    · exact hkey
  · exact hiff.mpr ⟨.userWelcome, rfl, Letter.coveredBy_of_keys (by decide +kernel)⟩
  · obtain rfl : l = .userWelcome := Option.some.inj (Letter.ofPath?_eq_some.mpr hpath).symm
    have hkeys : ∀ key ∈ Letter.userWelcome.keys, more.value? key = TemplateData.hostile.value? key := by decide +kernel
    exact hkeys key (Letter.placeholders_subset_keys _ hkey)

end Tenancy
