import Tenancy.Monitoring
import Tenancy.Proofs.Operation.Tasks

/-!
# What stands between the start and the end of a span

An operation leaves the start of its span with the tracer, then what happens inside, and then the end. `Within` is the grammar
of the inside: lookups of access, each between two events of the span; announcements of components; what spans do not speak
of; and the complete records of other operations, with spans of their own. A letter is written in a span by itself
(`Correspondence.Posted`). What a tracer that is not silent has of the inside is counted by `Within.tally`.
-/

namespace Tenancy

open Telemetry

/-! ## Moments that are left with a tracer -/

/-- A moment in the life of a span, as it can be told from what any tracer but a silent one keeps. -/
inductive Mark where
  | start (span : String)
  | event (span message : String)
  | finish (span : String)
deriving DecidableEq

/-- The span of a mark. -/
def Mark.span : Mark → String
  | start span => span
  | event span _ => span
  | finish span => span

/-- The mark of a moment. -/
def Telemetry.SpanNote.mark : SpanNote → Mark
  | started span _ => .start span
  | event span message => .event span message
  | ended span => .finish span

/-- The mark that a note is for a tracer. Of the records of one moment, one counts. -/
def Note.mark? : Note → Option Mark
  | span note => some note.mark
  | record (.opened name) => some (.start name)
  | record (.entry .info name message) => some (.event name message)
  | record (.closed name) => some (.finish name)
  | _ => none

/-- The marks that events leave with the tracers. -/
def marks (es : List Event) : List Mark := (es.flatMap Event.notes).filterMap Note.mark?

@[simp] theorem marks_nil : marks [] = [] := rfl

@[simp] theorem marks_append {es es' : List Event} : marks (es ++ es') = marks es ++ marks es' := by
  simp [marks]

/-- The marks of a run are in its notes. -/
theorem marks_trace {σ α : Type} (w : World σ) (p : Program α) (s : σ) :
    marks (p.trace w s) = (p.run w s).notes.filterMap Note.mark? := by
  rw [Program.notes_run, marks]

namespace Equipment

variable {e : Equipment} {ctx : Context} {note : SpanNote} {past : List Event}

/-- A tracer that is not silent keeps one mark of each moment. -/
theorem marks_left (heard : e.tracer ≠ .silent) : marks (e.left note) = [note.mark] := by
  unfold left
  cases htracer : e.tracer with
  | silent => exact absurd htracer heard
  | recording => rfl
  | structured =>
    cases note with
    | started span principal => cases principal <;> rfl
    | event span message => rfl
    | ended span => rfl

/-- A tracer keeps no mark of a moment but the one. -/
theorem eq_mark_of_left {m : Mark} (h : m ∈ marks (e.left note)) : m = note.mark := by
  by_cases heard : e.tracer = .silent
  · simp only [left, heard, marks_nil, List.not_mem_nil] at h
  · rw [marks_left heard] at h
    exact List.mem_singleton.mp h

/-- What happens in a span leaves marks of that span only, if the inside does. -/
theorem span_of_enclosed {name : String} {inner : List Event} (h : ∀ m ∈ marks inner, m.span = name) :
    ∀ m ∈ marks (e.enclosed ctx name inner), m.span = name := by
  intro m hm
  rw [enclosed, marks_append, marks_append] at hm
  obtain hm | hm := List.mem_append.mp hm
  · obtain hm | hm := List.mem_append.mp hm
    · rw [eq_mark_of_left hm]
      rfl
    · exact h m hm
  · rw [eq_mark_of_left hm]
    rfl

end Equipment

/-! ## The grammar -/

/-- The operations that others call: each pair has the span of the one that calls and the span of the one that is called. -/
def spanCalls : List (String × String) :=
  [("service.user/create", Licensing.thresholdSpan),
    ("service.organization/create", Licensing.thresholdSpan),
    ("service.organization/add_member", Licensing.thresholdSpan),
    ("service.organization/invite", Correspondence.invitationSpan),
    ("service.license/get_license", AccessControl.rolesSpan)]

/-- An operation that is called by another one calls no further one. -/
theorem spanCalls_leaf : ∀ p ∈ spanCalls, ∀ q ∈ spanCalls, q.1 ≠ p.2 := by
  decide

/-- Whether the operation of a span looks up access itself with such a question: roles are looked up by one operation, and
permissions by no operation that others call. -/
def AccessCall.isAskedIn (span : String) : AccessCall → Bool
  | hasPermission _ _ _ => spanCalls.all fun calls => calls.2 != span
  | hasSystemRole _ _ => span == AccessControl.rolesSpan

/-- Whether the operation of a span may make a call of which the span does not speak. Nothing is counted but in the operation
that asks whether there is room. -/
def Call.isPlainIn (span : String) : Call → Bool
  | access _ => false
  | count _ => span == Licensing.thresholdSpan
  | c => !c.isLetter

namespace Event

/-- Whether an event is an attempt of the operation of a span to look up access. -/
def isLookupOf (span : String) (e : Event) : Bool :=
  match e.subject? with
  | some (.access c) => c.isAskedIn span
  | _ => false

/-- Whether an event is one that a span does not speak of, and that leaves nothing with a tracer. -/
def isUntoldIn (span : String) : Event → Bool
  | noted (.logged _ _ _) => true
  | noted _ => false
  | refused _ c _ => c.isPlainIn span
  | answered _ c _ => c.isPlainIn span
  | insisted c _ => c.isPlainIn span
  | surveyed _ _ _ notes => notes.all fun n => n.mark?.isNone

/-- An attempt at a call leaves nothing with a tracer. -/
theorem Attempts.marks_cons {ctx : Context} {c : Call} {e : Event} {es : List Event} (h : e.Attempts ctx c) :
    marks (e :: es) = marks es := by
  obtain ⟨cause, rfl⟩ | ⟨reply, rfl⟩ := h
  · rfl
  · rfl

/-- An event of which a span does not speak leaves no marks. -/
theorem marks_of_isUntoldIn {span : String} {e : Event} (h : e.isUntoldIn span = true) : marks [e] = [] := by
  cases e with
  | noted note =>
    cases note with
    | logged level logger message => rfl
    | _ => cases h
  | refused ctx c cause => rfl
  | answered ctx c reply => rfl
  | insisted c reply => rfl
  | surveyed ctx components reports notes =>
    simp only [isUntoldIn, List.all_eq_true, Option.isNone_iff_eq_none] at h
    simpa [marks, Event.notes, List.filterMap_eq_nil_iff] using h

/-- A lookup of access is nothing that a span does not speak of. -/
theorem isLookupOf_of_isUntoldIn {span other : String} {e : Event} (h : e.isUntoldIn span = true) :
    e.isLookupOf other = false := by
  have plain (c : Call) (hc : c.isPlainIn span = true) : ∀ a, c ≠ .access a := by
    rintro a rfl
    cases hc
  unfold isLookupOf
  split
  · rename_i a hsubject
    cases e with
    | refused ctx c cause => exact absurd (Option.some.inj hsubject) (plain c h a)
    | answered ctx c reply => exact absurd (Option.some.inj hsubject) (plain c h a)
    | insisted c reply => exact absurd (Option.some.inj hsubject) (plain c h a)
    | _ => cases hsubject
  · rfl

end Event

/-- What is left with a tracer looks up nothing. -/
theorem Equipment.countP_left {e : Equipment} {note : SpanNote} {span : String} :
    (e.left note).countP (Event.isLookupOf span) = 0 := by
  refine List.countP_eq_zero.mpr fun event hmem => ?_
  simp [Event.isLookupOf, subject_left hmem]

/-- Between two moments that are left with a tracer, an attempt is the one lookup. -/
theorem Event.Attempts.countP_lookup {ctx : Context} {c : AccessCall} {attempt : Event} {e : Equipment}
    {note note' : SpanNote} {span : String} (h : attempt.Attempts ctx (.access c)) :
    (e.left note ++ attempt :: e.left note').countP (Event.isLookupOf span) = if c.isAskedIn span = true then 1 else 0 := by
  rw [List.countP_append, List.countP_cons, Equipment.countP_left, Equipment.countP_left, Nat.zero_add, Nat.zero_add]
  simp only [Event.isLookupOf, h.subject]

/-- What happens in the span of an operation that writes a letter: the letter is rendered, and if that goes well, its sending is
announced and then attempted. -/
inductive Correspondence.Posted (s : Correspondence) (ctx : Context) (span path recipient : String) (data : TemplateData) :
    List Event → Prop where
  | unrendered {fault : TemplateError} {rendering : List Event} : s.Renders path data (.error fault) rendering →
    Posted s ctx span path recipient data rendering
  | rendered {letter : RenderedLetter} {rendering last : List Event} {attempt : Event} :
    s.Renders path data (.ok letter) rendering → attempt.Attempts ctx (.send recipient letter) →
    (∀ e ∈ last, e.isUntoldIn span = true) →
    Posted s ctx span path recipient data
      (rendering ++ (s.equipment.left (.event span "send email") ++ attempt :: last))

/-- What happens in the span of an operation that writes no letter. -/
inductive Within (ctx : Context) : Equipment → String → List Event → Prop where
  | nothing {e : Equipment} {span : String} : Within ctx e span []
  | append {e : Equipment} {span : String} {es es' : List Event} : Within ctx e span es → Within ctx e span es' →
    Within ctx e span (es ++ es')
  /-- Access is looked up. -/
  | lookup {e : Equipment} {span : String} {c : AccessCall} {attempt : Event} : c.isAskedIn span = true →
    attempt.Attempts ctx (.access c) →
    Within ctx e span (e.left (.event span "check permission") ++ attempt :: e.left (.event span "permission checked"))
  /-- A component is about to be asked for its health. -/
  | component {e : Equipment} {span : String} (c : Component) :
    Within ctx e span (e.left (.event span ("Check " ++ Labelled.label c ++ " health")))
  | untold {e : Equipment} {span : String} {event : Event} : event.isUntoldIn span = true → Within ctx e span [event]
  /-- Another operation is called, and leaves its complete record. -/
  | operation {e e' : Equipment} {span name : String} {es : List Event} : (span, name) ∈ spanCalls →
    Within ctx e' name es → Within ctx e span (e'.enclosed ctx name es)
  /-- An operation that writes a letter is called, and leaves its complete record. -/
  | letter {e : Equipment} {s : Correspondence} {span name path recipient : String} {data : TemplateData}
    {es : List Event} : (span, name) ∈ spanCalls → s.Posted ctx name path recipient data es →
    Within ctx e span (s.equipment.enclosed ctx name es)

/-! ## What the tracer has of a span -/

/-- What the tracer has of the inside of a span: its start and its end are not there, and there is one question about access, and
one answer, for each lookup that the operation attempts. -/
structure Tally (span : String) (es : List Event) : Prop where
  start : .start span ∉ marks es
  finish : .finish span ∉ marks es
  asked : (marks es).count (.event span "check permission") = es.countP (Event.isLookupOf span)
  checked : (marks es).count (.event span "permission checked") = es.countP (Event.isLookupOf span)

/-- What tallies in a span does so one after the other. -/
theorem Tally.append {span : String} {es es' : List Event} (h : Tally span es) (h' : Tally span es') :
    Tally span (es ++ es') where
  start := by
    rw [marks_append, List.mem_append, not_or]
    exact ⟨h.start, h'.start⟩
  finish := by
    rw [marks_append, List.mem_append, not_or]
    exact ⟨h.finish, h'.finish⟩
  asked := by rw [marks_append, List.count_append, List.countP_append, h.asked, h'.asked]
  checked := by rw [marks_append, List.count_append, List.countP_append, h.checked, h'.checked]

/-- What looks up nothing and leaves no question and no answer has nothing to be counted. -/
theorem tally_of_marks {span : String} {es : List Event} (hlookups : es.countP (Event.isLookupOf span) = 0)
    (h : ∀ m ∈ marks es, m.span = span →
      ∃ message, m = .event span message ∧ message ≠ "check permission" ∧ message ≠ "permission checked") :
    Tally span es where
  start mem := by simpa using h _ mem rfl
  finish mem := by simpa using h _ mem rfl
  asked := by
    rw [hlookups, List.count_eq_zero]
    exact fun mem => by simpa using h _ mem rfl
  checked := by
    rw [hlookups, List.count_eq_zero]
    exact fun mem => by simpa using h _ mem rfl

namespace Correspondence

variable {s : Correspondence} {ctx : Context} {span path recipient : String} {data : TemplateData} {es : List Event}

/-- To render a letter leaves nothing with a tracer, and looks up nothing. -/
theorem Renders.unmarked {reply : Except TemplateError RenderedLetter} {rendering : List Event}
    (h : s.Renders path data reply rendering) :
    marks rendering = [] ∧ ∀ other, rendering.countP (Event.isLookupOf other) = 0 := by
  unfold Renders at h
  split at h
  · rw [h.2]
    exact ⟨marks_nil, fun other => rfl⟩
  · rw [h]
    exact ⟨rfl, fun other => rfl⟩

/-- Events of which a span does not speak leave no marks, and look up nothing. -/
theorem unmarked_of_untold (h : ∀ e ∈ es, e.isUntoldIn span = true) :
    marks es = [] ∧ ∀ other, es.countP (Event.isLookupOf other) = 0 := by
  constructor
  · induction es with
    | nil => rfl
    | cons e rest ih =>
      rw [← List.singleton_append, marks_append, Event.marks_of_isUntoldIn (h e List.mem_cons_self),
        ih fun e he => h e (List.mem_cons_of_mem _ he), List.append_nil]
  · intro other
    refine List.countP_eq_zero.mpr fun e he => ?_
    rw [Event.isLookupOf_of_isUntoldIn (h e he)]
    exact Bool.false_ne_true

/-- The announcement that a letter is sent is all that its writing leaves with the tracer. -/
theorem Posted.eq_mark (h : s.Posted ctx span path recipient data es) {m : Mark} (hm : m ∈ marks es) :
    m = .event span "send email" := by
  cases h with
  | unrendered renders =>
    rw [renders.unmarked.1] at hm
    cases hm
  | rendered renders attempts untold =>
    rw [marks_append, marks_append, renders.unmarked.1, attempts.marks_cons, (unmarked_of_untold untold).1, List.nil_append,
      List.append_nil] at hm
    exact Equipment.eq_mark_of_left hm

/-- To write a letter looks up nothing. -/
theorem Posted.countP_lookups (h : s.Posted ctx span path recipient data es) (other : String) :
    es.countP (Event.isLookupOf other) = 0 := by
  cases h with
  | unrendered renders => exact renders.unmarked.2 other
  | rendered renders attempts untold =>
    rw [List.countP_append, List.countP_append, List.countP_cons, renders.unmarked.2, Equipment.countP_left,
      (unmarked_of_untold untold).2]
    simp [Event.isLookupOf, attempts.subject]

/-- In the writing of a letter nothing is asked about access, and the span neither starts nor ends. -/
theorem Posted.tally (h : s.Posted ctx span path recipient data es) : Tally span es := by
  refine tally_of_marks (h.countP_lookups span) fun m hm _ => ⟨"send email", h.eq_mark hm, ?_⟩
  decide

/-- A letter has been rendered: from the built-in templates, or by a renderer from outside that has answered with it. -/
def Rendered (s : Correspondence) (path : String) (data : TemplateData) (es : List Event) : Prop :=
  ∃ letter rendering, s.Renders path data (.ok letter) rendering ∧ rendering ⊆ es

/-- The sending of a letter is announced if and only if the letter has been rendered. -/
theorem Posted.announced_iff (h : s.Posted ctx span path recipient data es) (heard : s.equipment.tracer ≠ .silent) :
    .event span "send email" ∈ marks es ↔ s.Rendered path data es := by
  cases h with
  | @unrendered fault rendering renders =>
    rw [renders.unmarked.1]
    refine ⟨nofun, ?_⟩
    rintro ⟨letter, rendering', renders', hsub⟩
    unfold Renders at renders renders'
    split at renders
    · rename_i builtIn
      rw [builtIn] at renders'
      exact nomatch renders.1.trans renders'.1.symm
    · rename_i renderer supplied
      rw [supplied] at renders'
      subst renders renders'
      cases List.mem_singleton.mp (hsub (List.mem_singleton_self _))
  | @rendered letter rendering last attempt renders attempts untold =>
    refine ⟨fun _ => ⟨letter, rendering, renders, List.subset_append_left _ _⟩, fun _ => ?_⟩
    rw [marks_append, marks_append, Equipment.marks_left heard]
    exact List.mem_append_right _ (List.mem_append_left _ (List.mem_singleton_self _))

/-- What is left with the tracer renders no letter. -/
theorem rendered_enclosed {e : Equipment} {inner : List Event} :
    s.Rendered path data (e.enclosed ctx span inner) ↔ s.Rendered path data inner := by
  have noted (note : SpanNote) {c : Call} {reply : Except c.Fault c.Value} : .insisted c reply ∉ e.left note :=
    fun hmem => nomatch Equipment.subject_left hmem
  constructor
  · rintro ⟨letter, rendering, renders, hsub⟩
    refine ⟨letter, rendering, renders, ?_⟩
    unfold Renders at renders
    split at renders
    · rw [renders.2]
      exact List.nil_subset _
    · subst renders
      obtain hmem | hmem := List.mem_append.mp (hsub (List.mem_singleton_self _))
      · obtain hmem | hmem := List.mem_append.mp hmem
        · exact absurd hmem (noted _)
        · exact fun e he => List.mem_singleton.mp he ▸ hmem
      · exact absurd hmem (noted _)
  · rintro ⟨letter, rendering, renders, hsub⟩
    refine ⟨letter, rendering, renders, fun e he => ?_⟩
    exact List.mem_append_left _ (List.mem_append_right _ (hsub he))

end Correspondence

namespace Within

variable {ctx : Context} {e : Equipment} {span name : String} {es : List Event}

/-- An operation that others call leaves marks of its own span only, and attempts none of the lookups of those that call it. -/
theorem of_called (h : Within ctx e name es) (hcalls : (span, name) ∈ spanCalls) :
    (∀ m ∈ marks es, m.span = name) ∧ es.countP (Event.isLookupOf span) = 0 := by
  induction h with
  | nothing => exact ⟨nofun, rfl⟩
  | append _ _ ih ih' =>
    refine ⟨fun m hm => ?_, ?_⟩
    · rw [marks_append] at hm
      exact (List.mem_append.mp hm).elim ((ih hcalls).1 m) ((ih' hcalls).1 m)
    · rw [List.countP_append, (ih hcalls).2, (ih' hcalls).2]
  | @lookup e name c attempt asked attempts =>
    refine ⟨fun m hm => ?_, ?_⟩
    · rw [marks_append, attempts.marks_cons] at hm
      obtain hm | hm := List.mem_append.mp hm
      · rw [Equipment.eq_mark_of_left hm]
        rfl
      · rw [Equipment.eq_mark_of_left hm]
        rfl
    · have hother : c.isAskedIn span = false := by
        cases c with
        | hasPermission subject target kinds =>
          have hnone := List.all_eq_true.mp asked _ hcalls
          simp at hnone
        | hasSystemRole subject roles =>
          rw [AccessCall.isAskedIn, beq_iff_eq] at asked
          subst asked
          exact beq_eq_false_iff_ne.mpr (spanCalls_leaf _ hcalls _ hcalls)
      rw [attempts.countP_lookup, hother]
      rfl
  | component c =>
    refine ⟨fun m hm => ?_, Equipment.countP_left⟩
    rw [Equipment.eq_mark_of_left hm]
    rfl
  | untold untold =>
    refine ⟨fun m hm => ?_, ?_⟩
    · rw [Event.marks_of_isUntoldIn untold] at hm
      cases hm
    · rw [List.countP_singleton, Event.isLookupOf_of_isUntoldIn untold]
      rfl
  | operation calls _ _ => exact absurd rfl (spanCalls_leaf _ hcalls _ calls)
  | letter calls _ => exact absurd rfl (spanCalls_leaf _ hcalls _ calls)

/-- What a tracer that is not silent has of the inside of a span. -/
theorem tally (h : Within ctx e span es) (heard : e.tracer ≠ .silent) : Tally span es := by
  -- the marks of an operation that is called are those of another span
  have called {e' : Equipment} {name : String} {inner : List Event} (hcalls : (span, name) ∈ spanCalls)
      (hmarks : ∀ m ∈ marks inner, m.span = name) (hlookups : inner.countP (Event.isLookupOf span) = 0) :
      Tally span (e'.enclosed ctx name inner) := by
    refine tally_of_marks ?_ fun m hm heq => ?_
    · rw [Equipment.enclosed, List.countP_append, List.countP_append, hlookups, Equipment.countP_left,
        Equipment.countP_left]
    · rw [Equipment.span_of_enclosed hmarks m hm] at heq
      exact absurd heq.symm (spanCalls_leaf _ hcalls _ hcalls)
  induction h with
  | nothing => exact tally_of_marks rfl fun m hm _ => absurd hm List.not_mem_nil
  | append _ _ ih ih' => exact (ih heard called).append (ih' heard called)
  | lookup asked attempts =>
    constructor <;> simp [attempts.countP_lookup, asked, attempts.marks_cons, Equipment.marks_left heard, SpanNote.mark]
  | component c =>
    refine tally_of_marks Equipment.countP_left fun m hm _ => ⟨_, Equipment.eq_mark_of_left hm, ?_⟩
    cases c <;> decide
  | untold untold =>
    refine tally_of_marks ?_ ?_
    · rw [List.countP_singleton, Event.isLookupOf_of_isUntoldIn untold]
      rfl
    · rw [Event.marks_of_isUntoldIn untold]
      exact fun m hm _ => absurd hm List.not_mem_nil
  | operation calls inner _ => exact called calls (inner.of_called calls).1 (inner.of_called calls).2
  | letter calls posted =>
    refine called calls (fun m hm => ?_) (posted.countP_lookups _)
    rw [posted.eq_mark hm]
    rfl

end Within

end Tenancy
