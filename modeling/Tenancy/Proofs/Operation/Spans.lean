import Tenancy.Proofs.Request.Outline
import Tenancy.Proofs.Telemetry.Grammar

/-!
# The parts of operations leave nothing else in their spans

Whatever comes of a guard or of a task stands in the span of its operation as the grammar says (`Guard.Course.within`, and one
statement for each relation of `Tenancy.Proofs.Operation.Tasks`). `p.Adds R` says that what the program `p` adds to the events is
as `R` says, however its calls are answered, and `p.Stays ctx e span` that it is what may stand in a span; an operation whose body
stays in its span leaves a complete record, which may stand in the span of another one.
-/

namespace Tenancy

open Telemetry

namespace Program

variable {α β : Type} {R S T : List Event → Prop}

/-- However its calls are answered, what a program adds to the events is as `R` says. -/
def Adds (R : List Event → Prop) (p : Program α) : Prop :=
  ∀ past, p.Ensures past fun es _ => ∃ added, es = past ++ added ∧ R added

/-- What a program adds is all that there is when it is taken up at first. -/
theorem Adds.ensures {p : Program α} (h : p.Adds R) : p.Ensures [] fun es _ => R es := by
  refine (h []).mono ?_
  rintro _ a ⟨added, rfl, hadded⟩
  exact hadded

/-- In a run, there is what a program adds. -/
theorem Adds.trace {σ : Type} {p : Program α} (h : p.Adds R) (w : World σ) (s : σ) : R (p.trace w s) := h.ensures.run w s

/-- What is said of the events that a program adds can be weakened. -/
theorem Adds.mono {p : Program α} (h : p.Adds R) (hRT : ∀ es, R es → T es) : p.Adds T := by
  intro past
  refine (h past).mono ?_
  rintro _ a ⟨added, rfl, hadded⟩
  exact ⟨added, rfl, hRT added hadded⟩

/-- One program after the other adds what the first adds, and then what the other adds. -/
theorem Adds.bind {p : Program α} {f : α → Program β} (h : p.Adds R) (hf : ∀ a, (f a).Adds S)
    (hT : ∀ es es', R es → S es' → T (es ++ es')) : (p >>= f).Adds T := by
  intro past
  refine ensures_bind.mpr ((h past).mono ?_)
  rintro _ a ⟨added, rfl, hadded⟩
  refine (hf a _).mono ?_
  rintro _ b ⟨added', rfl, hadded'⟩
  exact ⟨added ++ added', List.append_assoc .., hT _ _ hadded hadded'⟩

/-- A program adds the same events when its value is turned. -/
theorem Adds.map {p : Program α} {f : α → β} (h : p.Adds R) : (f <$> p).Adds R := fun past => ensures_map.mpr (h past)

theorem adds_note {n : Note} (h : R [.noted n]) : (note n).Adds R := fun _ => ⟨_, rfl, h⟩

/-- What a program adds may stand in a span. -/
def Stays (ctx : Context) (e : Equipment) (span : String) (p : Program α) : Prop := p.Adds (Within ctx e span)

variable {ctx : Context} {e : Equipment} {span : String}

/-- Programs that stay in a span do so one after the other. -/
theorem Stays.bind {p : Program α} {f : α → Program β} (h : p.Stays ctx e span) (hf : ∀ a, (f a).Stays ctx e span) :
    (p >>= f).Stays ctx e span := by
  exact Adds.bind h hf fun _ _ => .append

theorem stays_pure {a : α} : (pure a : Program α).Stays ctx e span :=
  fun past => ⟨[], (List.append_nil past).symm, .nothing⟩

theorem stays_time : time.Stays ctx e span := fun past _ => ⟨[], (List.append_nil past).symm, .nothing⟩

end Program

/-- The complete record of an operation that writes no letter. -/
def Recorded (ctx : Context) (e : Equipment) (name : String) (es : List Event) : Prop :=
  ∃ inner, Within ctx e name inner ∧ es = e.enclosed ctx name inner

namespace Equipment

variable {α : Type} {ctx : Context} {e e' : Equipment} {name span : String}

/-- A span encloses what its body adds. -/
theorem adds_span {R : List Event → Prop} {body : Program α} (h : body.Adds R) :
    (e.span ctx name body).Adds fun es => ∃ inner, R inner ∧ es = e.enclosed ctx name inner := by
  intro past
  refine ensures_span.mpr ((h _).mono ?_)
  rintro _ value ⟨inner, rfl, hinner⟩
  refine ⟨e.enclosed ctx name inner, ?_, inner, hinner, rfl⟩
  simp only [enclosed, List.append_assoc]

/-- An operation whose body stays in its span leaves a complete record. -/
theorem recorded_span {body : Program α} (h : body.Stays ctx e name) :
    (e.span ctx name body).Adds (Recorded ctx e name) := adds_span h

/-- To log something stays in any span. -/
theorem stays_log {level : Level} {message : String} : (e'.log level message).Stays ctx e span :=
  Program.adds_note (.untold rfl)

end Equipment

/-! ## Guards -/

variable {ctx : Context} {e : Equipment} {span : String} {es : List Event}

/-- A call that spans do not speak of. -/
theorem Event.Attempts.within {c : Call} {attempt : Event} (h : attempt.Attempts ctx c) (hc : c.isPlainIn span = true) :
    Within ctx e span [attempt] := by
  obtain ⟨cause, rfl⟩ | ⟨reply, rfl⟩ := h
  · exact .untold hc
  · exact .untold hc

/-- What comes after a call that spans do not speak of. -/
theorem Within.answered {c : Call} {reply : Except (Refusal c.Fault) c.Value} (h : Within ctx e span es)
    (hc : c.isPlainIn span = true) : Within ctx e span (.answered ctx c reply :: es) :=
  .append (Event.Attempts.within (.inr ⟨reply, rfl⟩) hc) h

/-- A question about access stands between two events of the span. -/
theorem Equipment.Settles.within {q? : Option AccessCall} {yes : Bool} (h : e.Settles ctx span q? es yes)
    (hasked : ∀ a, q? = some a → a.isAskedIn span = true) : Within ctx e span es := by
  cases h with
  | unasked _ => exact .nothing
  | asked hsome attempts _ => exact .lookup (hasked _ hsome) attempts

/-- Whether subjects hold rights is asked in all spans but those of the operations that others call. -/
theorem Equipment.isAskedIn_question {subject target : Id} {kinds : List PermissionKind} {a : AccessCall}
    (h : e.question? subject target kinds = some a) (hspan : ∀ calls ∈ spanCalls, calls.2 ≠ span) : a.isAskedIn span = true := by
  obtain ⟨store, -, rfl⟩ := Option.map_eq_some_iff.mp h
  simpa [AccessCall.isAskedIn] using hspan

/-- Whether the principal holds a right is asked in all spans but those of the operations that others call. -/
theorem Equipment.isAskedIn_principalQuestion {target : Id} {kinds : List PermissionKind} {a : AccessCall}
    (h : e.principalQuestion? ctx target kinds = some a) (hspan : ∀ calls ∈ spanCalls, calls.2 ≠ span) :
    a.isAskedIn span = true := by
  obtain ⟨principal, -, h⟩ := Option.bind_eq_some_iff.mp h
  exact isAskedIn_question h hspan

/-- The count of what a license caps leaves a complete record. -/
theorem Licensing.Counts.recorded {s : Licensing} {quota : Quota} {x : Except ServiceError Bool} (h : s.Counts ctx quota es x) :
    Recorded ctx s.equipment thresholdSpan es := by
  cases h with
  | uncapped _ => exact ⟨[], .nothing, rfl⟩
  | uncounted _ hyields => exact ⟨_, hyields.attempts.within rfl, rfl⟩
  | counted count _ => exact ⟨_, Event.Attempts.within (.inr ⟨_, rfl⟩) rfl, rfl⟩

namespace Guard

/-- A guard may stand in a span: lookups of access are no business of operations that others call, and the question for room is
another operation's. -/
def MayStandIn (span : String) : Guard → Prop
  | demand _ _ => True
  | right _ _ => ∀ calls ∈ spanCalls, calls.2 ≠ span
  | room _ _ _ => (span, Licensing.thresholdSpan) ∈ spanCalls

/-- What comes of a guard that may stand in a span stays in it. -/
theorem Outcome.within {g : Guard} {y : Except Failure Unit} (h : g.Outcome e ctx span es y) (hg : g.MayStandIn span) :
    Within ctx e span es := by
  have found {target : Policy.Target} {finding : List Event} {x : Except Failure Id} (h : target.Finds ctx finding x) :
      Within ctx e span finding := by
    cases h with
    | resource id => exact .nothing
    | read permission => exact Event.Attempts.within (.inr ⟨_, rfl⟩) rfl
    | unread hyields => exact hyields.attempts.within rfl
  have called {s : Licensing} {quota : Quota} {x : Except ServiceError Bool} (h : s.Counts ctx quota es x)
      (hcalls : (span, Licensing.thresholdSpan) ∈ spanCalls) : Within ctx e span es := by
    obtain ⟨inner, hinner, rfl⟩ := h.recorded
    exact .operation hcalls hinner
  cases h with
  | demanded => exact .nothing
  | lost hfinds => exact found hfinds
  | asked hfinds hsettles =>
    exact (found hfinds).append (hsettles.within fun a ha => Equipment.isAskedIn_principalQuestion ha hg)
  | unsettled hcounts => exact called hcounts hg
  | counted hcounts => exact called hcounts hg

/-- Guards stay in the span of their operation. -/
theorem Course.within {gs : List Guard} {y : Except Failure Unit} (h : Course e ctx span gs es y)
    (hgs : ∀ g ∈ gs, g.MayStandIn span) : Within ctx e span es := by
  induction h with
  | through => exact .nothing
  | passed houtcome _ ih =>
    exact (houtcome.within (hgs _ List.mem_cons_self)).append (ih fun g hg => hgs g (List.mem_cons_of_mem _ hg))
  | turned houtcome => exact houtcome.within (hgs _ List.mem_cons_self)

end Guard

/-! ## Tasks -/

/-- What is logged is nothing that spans speak of. -/
theorem within_logged {logger : Equipment} {level : Level} {message : String} : Within ctx e span [logger.logged level message] :=
  .untold rfl

/-- To store a user stays in any span. -/
theorem Accounts.Enrolls.within {s : Accounts} {user : User} {y : Except Failure User} (h : s.Enrolls ctx user es y) :
    Within ctx e span es := by
  cases h with
  | failed hyields => exact hyields.attempts.within rfl
  | stored created => exact within_logged.answered rfl

namespace Organizations

variable {s : Organizations} {organization user : Id}

/-- To found an organization stays in any span. -/
theorem Founds.within {owner : Id} {given : Organization} {y : Except Failure Organization} (h : s.Founds ctx owner given es y) :
    Within ctx e span es := by
  have withdrawal {id : Id} {undone : Except RepositoryError Unit} : Within ctx e span (s.withdrawal id undone) := by
    cases undone with
    | ok v => exact .untold rfl
    | error fault => exact .append (.untold rfl) within_logged
  cases h with
  | unfounded hyields => exact hyields.attempts.within rfl
  | founded created granted => exact (Event.Attempts.within (.inr ⟨_, rfl⟩) rfl).answered rfl
  | withdrawn created undone hyields => exact ((hyields.attempts.within rfl).append withdrawal).answered rfl

/-- There is one lookup for each member. -/
theorem Annotates.within {members shown : List OrganizationMember} (h : s.Annotates ctx span organization members es shown)
    (hspan : ∀ calls ∈ spanCalls, calls.2 ≠ span) : Within ctx s.equipment span es := by
  induction h with
  | nil => exact .nothing
  | cons hsettles _ ih => exact (hsettles.within fun a ha => Equipment.isAskedIn_question ha hspan).append ih

/-- To read the members of an organization stays in the span of reading them. -/
theorem Shows.within {y : Except Failure (List OrganizationMember)} (h : s.Shows ctx organization es y) :
    Within ctx s.equipment "service.organization/get_members" es := by
  cases h with
  | unread hyields => exact hyields.attempts.within rfl
  | shown hannotates => exact (hannotates.within (by decide)).answered rfl

/-- To remove a member after their permissions stays in any span. -/
theorem Strips.within {held : List Permission} {y : Except Failure Unit} (h : Strips ctx organization user held es y) :
    Within ctx e span es := by
  induction h with
  | kept hyields => exact hyields.attempts.within rfl
  | removed => exact Event.Attempts.within (.inr ⟨_, rfl⟩) rfl
  | stuck hyields => exact hyields.attempts.within rfl
  | revoked _ ih => exact ih.answered rfl

/-- To remove a member stays in any span. -/
theorem Expels.within {y : Except Failure Unit} (h : Expels ctx organization user es y) : Within ctx e span es := by
  cases h with
  | unread hyields => exact hyields.attempts.within rfl
  | barred _ => exact Event.Attempts.within (.inr ⟨_, rfl⟩) rfl
  | stripped _ hstrips => exact hstrips.within.answered rfl

end Organizations

/-- An operation that writes a letter leaves a complete record, in which the sending is announced when the letter has been
rendered. -/
theorem Correspondence.Sends.posted {s : Correspondence} {name recipient : String} {letter : Letter} {data : TemplateData}
    {x : Except ServiceError Unit} (h : s.Sends ctx name letter recipient data es x) :
    ∃ inner, s.Posted ctx name letter.path recipient data inner ∧ es = s.equipment.enclosed ctx name inner := by
  cases h with
  | unrendered hrenders => exact ⟨_, .unrendered hrenders, rfl⟩
  | unsent hrenders hyields => exact ⟨_, .rendered hrenders hyields.attempts (List.forall_mem_nil _), rfl⟩
  | sent hrenders => exact ⟨_, .rendered hrenders (.inr ⟨_, rfl⟩) fun event hmem => List.mem_singleton.mp hmem ▸ rfl, rfl⟩

/-- To issue an invitation stays in the span of inviting. -/
theorem Organizations.Issues.within {s : Organizations} {organization user : Id} {path : String} {y : Except Failure Unit}
    (h : s.Issues ctx organization user path es y) : Within ctx e "service.organization/invite" es := by
  cases h with
  | unserved _ => exact .nothing
  | unread hyields => exact hyields.attempts.within rfl
  | unmet hyields => exact (hyields.attempts.within rfl).answered rfl
  | written _ hsends =>
    obtain ⟨inner, hposted, rfl⟩ := hsends.posted
    exact ((Within.letter (by decide) hposted).answered rfl).answered rfl

/-- The question for roles leaves a complete record. -/
theorem AccessControl.recorded_asking {s : AccessControl} {roles : List SystemRole} {yes : Bool}
    (h : s.equipment.Settles ctx rolesSpan (roleQuestion? ctx roles) es yes) :
    Recorded ctx s.equipment rolesSpan (s.equipment.enclosed ctx rolesSpan es) := by
  refine ⟨es, h.within fun a ha => ?_, rfl⟩
  obtain ⟨principal, -, rfl⟩ := Option.map_eq_some_iff.mp ha
  exact beq_self_eq_true _

/-- To disclose the license stays in the span of reading it. -/
theorem Licensing.Discloses.within {s : Licensing} {y : Except Failure License} (h : s.Discloses ctx es y) :
    Within ctx e "service.license/get_license" es := by
  cases h with
  | asked hsettles =>
    obtain ⟨inner, hinner, heq⟩ := AccessControl.recorded_asking hsettles
    rw [heq]
    exact .operation (by decide) hinner

end Tenancy
