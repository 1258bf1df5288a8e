import Tenancy.Licensing
import Tenancy.Proofs.Program.Ensures

/-!
# What operations leave behind

An event is about a call, or it is a moment of a span that is left with the tracer. What a span leaves is its start, then what
its body leaves, and its end (`ensures_span`); a call leaves the one attempt to make it (`Step.ensures_attempt`); a question about
access leaves its lookup between two events of the span (`Equipment.Settles`); and a count under a cap of the license leaves the
attempt to count in a span of its own (`Licensing.Counts`). Each of these says all that can come of it, and with which events.
-/

namespace Tenancy

open Telemetry

/-! ## Acting -/

/-- The name of the span in which an invitation is written and sent. -/
def Correspondence.invitationSpan : String := "service.email/send_organization_invitation_email"

/-- Whether a call renders or sends a letter. -/
def Call.isLetter : Call → Bool
  | send _ _ => true
  | render _ _ => true
  | _ => false

/-- Whether a moment in the life of a span opens the span of an invitation. -/
def Telemetry.SpanNote.opensInvitation : SpanNote → Bool
  | started name _ => name == Correspondence.invitationSpan
  | _ => false

namespace Event

/-- Whether a call that changes a store has been made. -/
def writes : Event → Bool
  | answered _ c _ => c.isWrite
  | insisted c _ => c.isWrite
  | _ => false

/-- Whether an invitation is in the hands of the service of letters: its span is opened, it is rendered, or an attempt is
made to send it. -/
def handsOver : Event → Bool
  | noted (.span note) => note.opensInvitation
  | noted (.record (.opened name)) => name == Correspondence.invitationSpan
  | refused _ c _ => c.isLetter
  | answered _ c _ => c.isLetter
  | insisted c _ => c.isLetter
  | _ => false

/-- Whether an event changes a store or hands over an invitation. -/
def acts (e : Event) : Bool := e.writes || e.handsOver

end Event

/-- Nothing has been changed and nothing handed over. -/
def Quiet (es : List Event) : Prop := ∀ e ∈ es, e.acts = false

theorem quiet_nil : Quiet [] := fun _ h => nomatch h

theorem quiet_singleton {e : Event} : Quiet [e] ↔ e.acts = false := by simp [Quiet]

/-- Events are quiet exactly when those before and those after are. -/
theorem quiet_append {es es' : List Event} : Quiet (es ++ es') ↔ Quiet es ∧ Quiet es' := List.forall_mem_append

theorem Quiet.append {es es' : List Event} (h : Quiet es) (h' : Quiet es') : Quiet (es ++ es') := quiet_append.mpr ⟨h, h'⟩

/-- Quiet events hold no writes. -/
theorem Quiet.filter_writes {es : List Event} (h : Quiet es) : es.filter Event.writes = [] := by
  rw [List.filter_eq_nil_iff]
  intro e he
  have hacts := h e he
  simp only [Event.acts, Bool.or_eq_false_iff] at hacts
  simp [hacts.1]

/-- The principal has been found to hold one of the kinds, or all of them, on a target. -/
def Granted (ctx : Context) (target : Id) (kinds : List PermissionKind) (es : List Event) : Prop :=
  ∃ principal, ctx.principal = some principal ∧
    .answered ctx (.access (.hasPermission principal target (PermissionKind.withAll kinds))) (.ok true) ∈ es

/-- What counts under a cap of the license has been counted, and there is room for one more. -/
def Roomy (license : License) (ctx : Context) (quota : Quota) (es : List Event) : Prop :=
  ∃ cap count, license.caps quota = some cap ∧ .answered ctx (.count quota) (.ok count) ∈ es ∧ count < cap.toNat

/-- A right that was found stays so. -/
theorem Granted.mono {ctx : Context} {target : Id} {kinds : List PermissionKind} {es es' : List Event}
    (h : Granted ctx target kinds es) (hsub : es ⊆ es') : Granted ctx target kinds es' := by
  obtain ⟨principal, hprincipal, hmem⟩ := h
  exact ⟨principal, hprincipal, hsub hmem⟩

/-- A right is found of a principal. -/
theorem Granted.isSome {ctx : Context} {target : Id} {kinds : List PermissionKind} {es : List Event}
    (h : Granted ctx target kinds es) : ctx.principal.isSome = true := by
  obtain ⟨principal, hprincipal, -⟩ := h
  rw [hprincipal]
  rfl

/-- Room that was found stays so. -/
theorem Roomy.mono {license : License} {ctx : Context} {quota : Quota} {es es' : List Event}
    (h : Roomy license ctx quota es) (hsub : es ⊆ es') : Roomy license ctx quota es' := by
  obtain ⟨cap, count, hcap, hmem, hroom⟩ := h
  exact ⟨cap, count, hcap, hsub hmem, hroom⟩

/-! ## Calls -/

/-- The call that an event is about, whether it is made or not. -/
def Event.subject? : Event → Option Call
  | refused _ c _ => some c
  | answered _ c _ => some c
  | insisted c _ => some c
  | _ => none

namespace Event

/-- An event is an attempt at a call under a context: the context refuses it, or it is made. -/
def Attempts (ctx : Context) (c : Call) (e : Event) : Prop :=
  (∃ cause, e = .refused ctx c cause) ∨ ∃ reply, e = .answered ctx c reply

/-- An attempt at a call is about the call. -/
theorem Attempts.subject {ctx : Context} {c : Call} {e : Event} (h : e.Attempts ctx c) : e.subject? = some c := by
  obtain ⟨cause, rfl⟩ | ⟨reply, rfl⟩ := h
  · rfl
  · rfl

/-- What comes of an attempt at a call under a context: a failure when it is refused or fails, and otherwise its answer. -/
inductive Yields (ctx : Context) (c : Call) : Event → Except Failure c.Value → Prop where
  | refused (cause : Interruption) : Yields ctx c (.refused ctx c cause) (.error (.interruption cause))
  | answered (v : c.Value) : Yields ctx c (.answered ctx c (.ok v)) (.ok v)
  | failed (refusal : Refusal c.Fault) : Yields ctx c (.answered ctx c (.error refusal)) (.error (c.refused refusal))

/-- What something comes of is an attempt at the call. -/
theorem Yields.attempts {ctx : Context} {c : Call} {e : Event} {r : Except Failure c.Value} (h : e.Yields ctx c r) :
    e.Attempts ctx c := by
  cases h with
  | refused cause => exact .inl ⟨cause, rfl⟩
  | answered v => exact .inr ⟨_, rfl⟩
  | failed refusal => exact .inr ⟨_, rfl⟩

end Event

/-- A call under a context leaves one attempt to make it. -/
theorem Step.ensures_attempt {ctx : Context} {c : Call} {past : List Event} {Q : List Event → Except Failure c.Value → Prop}
    (h : ∀ attempt r, attempt.Yields ctx c r → Q (past ++ [attempt]) r) : (Step.ask ctx c).Ensures past Q :=
  ensures_ask (fun cause => h _ _ (.refused cause)) (fun v => h _ _ (.answered v)) fun refusal => h _ _ (.failed refusal)

/-- The events that are about a call, whether it is made or not. -/
def calls (es : List Event) : List Event := es.filter fun e => e.subject?.isSome

/-- The calls of events are those before and those after. -/
@[simp] theorem calls_append {es es' : List Event} : calls (es ++ es') = calls es ++ calls es' := List.filter_append ..

/-- Events that are about no call hold none. -/
theorem calls_silent {es : List Event} (h : ∀ e ∈ es, e.subject? = none) : calls es = [] := by
  rw [calls, List.filter_eq_nil_iff]
  intro e he
  simp [h e he]

/-- What is about a call is among the calls. -/
theorem mem_calls_iff {es : List Event} {e : Event} {c : Call} (h : e.subject? = some c) : e ∈ calls es ↔ e ∈ es := by
  rw [calls, List.mem_filter, h]
  exact and_iff_left rfl

/-- An attempt at a call is among the calls. -/
theorem Event.Attempts.calls_cons {ctx : Context} {c : Call} {attempt : Event} {es : List Event}
    (h : attempt.Attempts ctx c) : calls (attempt :: es) = attempt :: calls es :=
  List.filter_cons_of_pos (by rw [h.subject]; rfl)

/-- All calls that some events are about are such calls. -/
def Concern (P : Call → Prop) (es : List Event) : Prop := ∀ e ∈ es, ∀ c, e.subject? = some c → P c

/-- A question about access. -/
def Call.IsAccess (c : Call) : Prop := ∃ a, c = .access a

section

variable {P Q : Call → Prop} {es es' : List Event} {ctx : Context}

/-- Events concern such calls when those before and those after do. -/
theorem concern_append : Concern P (es ++ es') ↔ Concern P es ∧ Concern P es' := List.forall_mem_append

/-- What events concern can be weakened. -/
theorem Concern.mono (h : Concern P es) (hPQ : ∀ c, P c → Q c) : Concern Q es := fun e he c hc => hPQ c (h e he c hc)

/-- A call that is answered among events is one that they concern. -/
theorem Concern.answered {c : Call} {reply : Except (Refusal c.Fault) c.Value} (h : Concern P es)
    (he : .answered ctx c reply ∈ es) : P c := h _ he c rfl

/-- A call that is refused among events is one that they concern. -/
theorem Concern.refused {c : Call} {cause : Interruption} (h : Concern P es) (he : .refused ctx c cause ∈ es) : P c :=
  h _ he c rfl

/-- Events that are about no call are about any calls whatever. -/
theorem concern_of_silent (h : ∀ e ∈ es, e.subject? = none) : Concern P es := by
  intro e he c hc
  rw [h e he] at hc
  cases hc

/-- A right has been found by a question about access. -/
theorem Granted.of_append {target : Id} {kinds : List PermissionKind} (h : Granted ctx target kinds (es ++ es'))
    (hes : Concern P es) (hother : ∀ c, P c → ¬c.IsAccess) : Granted ctx target kinds es' := by
  obtain ⟨principal, hprincipal, hmem⟩ := h
  refine ⟨principal, hprincipal, (List.mem_append.mp hmem).resolve_left fun hmem => ?_⟩
  exact hother _ (hes.answered hmem) ⟨_, rfl⟩

/-- An attempt at a call concerns that call. -/
theorem Event.Attempts.concern {c : Call} {attempt : Event} (h : attempt.Attempts ctx c) : Concern (· = c) [attempt] := by
  intro e he c' hc
  rw [List.mem_singleton.mp he, h.subject] at hc
  exact (Option.some.inj hc).symm

end

/-! ## Spans -/

namespace Equipment

variable {α : Type} {e : Equipment} {ctx : Context} {name : String} {note : SpanNote} {past : List Event}

/-- The events by which a moment is left with the tracer. -/
def left (e : Equipment) (note : SpanNote) : List Event :=
  match e.tracer with
  | .silent => []
  | .recording => [.noted (.span note)]
  | .structured => note.records.map fun r => .noted (.record r)

/-- What happens in a span, between its start and its end. -/
def enclosed (e : Equipment) (ctx : Context) (name : String) (inner : List Event) : List Event :=
  e.left (.started name ctx.principal) ++ inner ++ e.left (.ended name)

/-- To leave a moment with the tracer is to leave its events. -/
theorem ensures_leave {Q : List Event → Unit → Prop} : (e.leave note).Ensures past Q ↔ Q (past ++ e.left note) () := by
  unfold leave left
  cases e.tracer with
  | silent =>
    simp only [List.append_nil]
    exact Program.ensures_pure
  | recording => exact Iff.rfl
  | structured =>
    simp only
    generalize note.records = records
    induction records generalizing past with
    | nil =>
      simp only [List.map_nil, List.append_nil]
      exact Program.ensures_pure
    | cons r rest ih =>
      rw [List.forM_eq_forM, List.forM_cons, Program.ensures_bind, List.map_cons, List.append_cons]
      exact ih

/-- What is left with a tracer is noted. -/
theorem noted_left {event : Event} (h : event ∈ e.left note) : ∃ n, event = .noted n := by
  unfold left at h
  split at h
  · cases h
  · exact ⟨_, List.mem_singleton.mp h⟩
  · obtain ⟨r, -, rfl⟩ := List.mem_map.mp h
    exact ⟨_, rfl⟩

/-- What is left with a tracer is about no call. -/
theorem subject_left {event : Event} (h : event ∈ e.left note) : event.subject? = none := by
  obtain ⟨n, rfl⟩ := noted_left h
  rfl

/-- The moments of a span concern nothing. -/
theorem concern_left {P : Call → Prop} : Concern P (e.left note) := concern_of_silent fun _ => subject_left

/-- The moments of a span hold no calls. -/
@[simp] theorem calls_left : calls (e.left note) = [] := calls_silent fun _ => subject_left

/-- The calls of a span are those made inside. -/
@[simp] theorem calls_enclosed {inner : List Event} : calls (e.enclosed ctx name inner) = calls inner := by
  simp [enclosed]

/-- What a span concerns is what is done inside. -/
theorem concern_enclosed {P : Call → Prop} {inner : List Event} : Concern P (e.enclosed ctx name inner) ↔ Concern P inner := by
  rw [enclosed, concern_append, concern_append]
  exact ⟨fun h => h.1.2, fun h => ⟨⟨concern_left, h⟩, concern_left⟩⟩

/-- To leave a moment adds only its events. -/
theorem confined_leave {P : Event → Prop} (h : ∀ event ∈ e.left note, P event) : (e.leave note).Confined P :=
  fun _ => ensures_leave.mpr ⟨_, rfl, h⟩

/-- A moment of a span is about no call. -/
theorem silent_leave : (e.leave note).Confined fun e => e.subject? = none := confined_leave fun _ => subject_left

/-- A span adds only the moments of its own to what its body does. -/
theorem confined_span {P : Event → Prop} {body : Program α} (hleft : ∀ note, ∀ event ∈ e.left note, P event)
    (h : body.Confined P) : (e.span ctx name body).Confined P :=
  (confined_leave (hleft _)).bind fun _ => h.bind fun _ => (confined_leave (hleft _)).bind fun _ => Program.confined_pure

/-- Only the opening of the span of an invitation hands one over. -/
theorem quiet_left (hnote : note.opensInvitation = false) : Quiet (e.left note) := by
  unfold left
  split
  · exact quiet_nil
  · exact quiet_singleton.mpr (by simp [Event.acts, Event.writes, Event.handsOver, hnote])
  · intro event hmem
    obtain ⟨r, hr, rfl⟩ := List.mem_map.mp hmem
    cases note with
    | started span principal =>
      have hopened : (Event.noted (.record (.opened span))).acts = false := hnote
      cases principal with
      | none =>
        rw [List.mem_singleton.mp hr]
        exact hopened
      | some principal =>
        rcases List.mem_cons.mp hr with rfl | hr
        · exact hopened
        · rw [List.mem_singleton.mp hr]
          rfl
    | event span message =>
      rw [List.mem_singleton.mp hr]
      rfl
    | ended span =>
      rcases List.mem_cons.mp hr with rfl | hr
      · rfl
      · rw [List.mem_singleton.mp hr]
        rfl

/-- The start of a span hands over nothing, unless it is the span of an invitation. -/
theorem quiet_started {principal : Option Id} (hname : name ≠ Correspondence.invitationSpan) :
    Quiet (e.left (.started name principal)) :=
  quiet_left (by simpa [SpanNote.opensInvitation] using hname)

/-- A span in which nothing acts, unless it is the span of an invitation. -/
theorem quiet_enclosed {inner : List Event} (hname : name ≠ Correspondence.invitationSpan) (h : Quiet inner) :
    Quiet (e.enclosed ctx name inner) :=
  ((quiet_started hname).append h).append (quiet_left rfl)

/-- A span in which nothing acts, unless it is the span of an invitation. -/
theorem quiet_span {body : Program α} (hname : name ≠ Correspondence.invitationSpan)
    (h : body.Confined fun e => e.acts = false) : (e.span ctx name body).Confined fun e => e.acts = false :=
  (confined_leave (quiet_started hname)).bind fun _ =>
    h.bind fun _ => (confined_leave (quiet_left rfl)).bind fun _ => Program.confined_pure

/-- A span ensures what its body does between the start and the end. -/
theorem ensures_span {body : Program α} {Q : List Event → α → Prop} : (e.span ctx name body).Ensures past Q ↔
    body.Ensures (past ++ e.left (.started name ctx.principal)) fun es a => Q (es ++ e.left (.ended name)) a := by
  unfold span
  rw [Program.ensures_bind, ensures_leave, Program.ensures_bind]
  refine iff_of_eq (congrArg _ ?_)
  funext es a
  rw [Program.ensures_bind, ensures_leave]
  rfl

/-- An operation ensures what its body does, with the operation's own kind on top of a failure. -/
theorem ensures_operation {kind : ErrorKind} {body : Step α} {Q : List Event → Except ServiceError α → Prop} :
    (e.operation ctx name kind body).Ensures past Q ↔
      body.Ensures (past ++ e.left (.started name ctx.principal)) fun es r =>
        Q (es ++ e.left (.ended name)) (r.mapError (.join kind)) := by
  unfold operation
  rw [ensures_span, Program.ensures_map]
  rfl

end Equipment

/-! ## Questions about access -/

namespace Equipment

variable {e : Equipment} {ctx : Context} {span : String} {past : List Event}

/-- An attempt to look up access, between two events of the span. -/
def lookup (e : Equipment) (span : String) (attempt : Event) : List Event :=
  e.left (.event span "check permission") ++ attempt :: e.left (.event span "permission checked")

/-- What comes of a question about access, if there is one, and the events of it: only a plain yes is a yes. -/
inductive Settles (e : Equipment) (ctx : Context) (span : String) (question? : Option AccessCall) :
    List Event → Bool → Prop where
  | unasked : question? = none → Settles e ctx span question? [] false
  | asked {a : AccessCall} {attempt : Event} {yes : Bool} : question? = some a → attempt.Attempts ctx (.access a) →
    (yes = true ↔ attempt = .answered ctx (.access a) (.ok true)) → Settles e ctx span question? (e.lookup span attempt) yes

/-- The question whether a subject holds a right; there is none without a store of permissions. -/
def question? (e : Equipment) (subject target : Id) (kinds : List PermissionKind) : Option AccessCall :=
  e.permissions.map fun _ => .hasPermission subject target (PermissionKind.withAll kinds)

/-- The question whether the principal holds a right; there is none without a principal. -/
def principalQuestion? (e : Equipment) (ctx : Context) (target : Id) (kinds : List PermissionKind) : Option AccessCall :=
  ctx.principal.bind fun principal => e.question? principal target kinds

/-- A lookup holds one call, the attempt. -/
theorem calls_lookup {a : AccessCall} {attempt : Event} (h : attempt.Attempts ctx (.access a)) :
    calls (e.lookup span attempt) = [attempt] := by
  simp [lookup, h.calls_cons]

/-- A check of access ensures what holds of all ways in which its question is settled. -/
theorem ensures_check {a : AccessCall} {Q : List Event → Bool → Prop}
    (h : ∀ added yes, e.Settles ctx span (some a) added yes → Q (past ++ added) yes) :
    (e.check ctx span a).Ensures past Q := by
  refine Program.ensures_bind.mpr (ensures_leave.mpr (Program.ensures_bind.mpr ?_))
  -- whatever comes of the lookup, it is followed by the same moment
  have looked {attempt : Event} {yes : Bool} (attempts : attempt.Attempts ctx (.access a))
      (hyes : yes = true ↔ attempt = .answered ctx (.access a) (.ok true)) :
      (e.event span "permission checked" >>= fun _ => pure yes).Ensures
        (past ++ e.left (.event span "check permission") ++ [attempt]) Q := by
    have hQ := h _ yes (.asked rfl attempts hyes)
    refine Program.ensures_bind.mpr (ensures_leave.mpr (Program.ensures_pure.mpr ?_))
    simpa [lookup] using hQ
  refine ⟨fun cause => looked (.inl ⟨cause, rfl⟩) ⟨nofun, nofun⟩, fun reply => ?_⟩
  cases reply with
  | ok yes =>
    refine looked (.inr ⟨.ok yes, rfl⟩) ⟨fun hyes => ?_, fun heq => by cases heq; rfl⟩
    exact congrArg (fun v : (Call.access a).Value => Event.answered ctx (.access a) (.ok v)) hyes
  | error refusal => exact looked (.inr ⟨.error refusal, rfl⟩) ⟨nofun, nofun⟩

/-- Whether someone holds a right is settled by one question, or by none. -/
theorem ensures_holds {subject target : Id} {kinds : List PermissionKind} {Q : List Event → Bool → Prop}
    (h : ∀ added yes, e.Settles ctx span (e.question? subject target kinds) added yes → Q (past ++ added) yes) :
    (e.holds ctx span subject target kinds).Ensures past Q := by
  unfold holds
  unfold question? at h
  split
  · next store hstore =>
    rw [hstore] at h
    exact ensures_check h
  · next hnone =>
    have hQ := h [] false (.unasked (by rw [hnone]; rfl))
    rwa [List.append_nil] at hQ

/-- Whether the principal holds a right is settled by one question, or by none. -/
theorem ensures_permitted {target : Id} {kinds : List PermissionKind} {Q : List Event → Bool → Prop}
    (h : ∀ added yes, e.Settles ctx span (e.principalQuestion? ctx target kinds) added yes → Q (past ++ added) yes) :
    (e.permitted ctx span target kinds).Ensures past Q := by
  unfold permitted
  unfold principalQuestion? at h
  split
  · next principal hprincipal =>
    rw [hprincipal] at h
    exact ensures_holds h
  · next hnone =>
    have hQ := h [] false (.unasked (by rw [hnone]; rfl))
    rwa [List.append_nil] at hQ

namespace Settles

variable {q? : Option AccessCall} {es : List Event} {yes : Bool}

/-- Nothing is asked but a question about access. -/
theorem concern (h : e.Settles ctx span q? es yes) : Concern Call.IsAccess es := by
  cases h with
  | unasked _ => exact fun e he => nomatch he
  | asked _ attempts _ =>
    refine concern_append.mpr ⟨concern_left, ?_⟩
    rw [← List.singleton_append, concern_append]
    exact ⟨attempts.concern.mono fun _ hc => ⟨_, hc⟩, concern_left⟩

/-- To look up access changes nothing and hands nothing over. -/
theorem quiet (h : e.Settles ctx span q? es yes) : Quiet es := by
  cases h with
  | unasked _ => exact quiet_nil
  | asked _ attempts _ =>
    refine (quiet_left rfl).append ?_
    rw [← List.singleton_append]
    refine Quiet.append ?_ (quiet_left rfl)
    obtain ⟨cause, rfl⟩ | ⟨reply, rfl⟩ := attempts
    · exact quiet_singleton.mpr rfl
    · exact quiet_singleton.mpr rfl

/-- The answer is yes if and only if there is a question that was answered by yes. -/
theorem yes_iff (h : e.Settles ctx span q? es yes) :
    yes = true ↔ ∃ a, q? = some a ∧ .answered ctx (.access a) (.ok true) ∈ es := by
  cases h with
  | unasked hnone => simp [hnone]
  | @asked a attempt yes hsome attempts hyes =>
    have hmem {a' : AccessCall} : .answered ctx (.access a') (.ok true) ∈ e.lookup span attempt ↔
        attempt = .answered ctx (.access a') (.ok true) := by
      rw [← mem_calls_iff rfl, calls_lookup attempts, List.mem_singleton]
      exact eq_comm
    simp only [hmem, hsome, hyes]
    exact ⟨fun heq => ⟨a, rfl, heq⟩, fun ⟨a', ha, heq⟩ => by cases ha; exact heq⟩

/-- The answer to a question about the principal is yes if and only if the right has been found. -/
theorem granted_iff {target : Id} {kinds : List PermissionKind}
    (h : e.Settles ctx span (e.principalQuestion? ctx target kinds) es yes) : yes = true ↔ Granted ctx target kinds es := by
  rw [h.yes_iff]
  constructor
  · rintro ⟨a, ha, hmem⟩
    obtain ⟨principal, hprincipal, hquestion⟩ := Option.bind_eq_some_iff.mp ha
    obtain ⟨store, -, rfl⟩ := Option.map_eq_some_iff.mp hquestion
    exact ⟨principal, hprincipal, hmem⟩
  · rintro ⟨principal, hprincipal, hmem⟩
    -- a lookup is among the events only when there is a question, and then it is that of the principal
    obtain ⟨a, ha⟩ : ∃ a, e.principalQuestion? ctx target kinds = some a := by
      cases h with
      | unasked hnone => cases hmem
      | asked hsome _ _ => exact ⟨_, hsome⟩
    obtain ⟨principal', hprincipal', hquestion⟩ := Option.bind_eq_some_iff.mp ha
    obtain ⟨store, -, rfl⟩ := Option.map_eq_some_iff.mp hquestion
    obtain rfl : principal = principal' := Option.some.inj (hprincipal.symm.trans hprincipal')
    exact ⟨_, ha, hmem⟩

end Settles

end Equipment

/-! ## Room under a cap -/

/-- The span of the question whether there is room under a cap. -/
def Licensing.thresholdSpan : String := "service.license/within_threshold"

namespace Licensing

variable {s : Licensing} {ctx : Context} {quota : Quota} {past es : List Event} {r : Except ServiceError Bool}

/-- What comes of the question whether there is room under a cap, and the events of it: there is no cap, the resources cannot be
counted, or they are fewer than the cap or not. -/
inductive Counts (s : Licensing) (ctx : Context) (quota : Quota) : List Event → Except ServiceError Bool → Prop where
  | uncapped : s.license.caps quota = none →
    Counts s ctx quota (s.equipment.enclosed ctx thresholdSpan []) (.error ⟨.quotaInvalid, none⟩)
  | uncounted {cap : UInt32} {attempt : Event} {cause : Failure} : s.license.caps quota = some cap →
    attempt.Yields ctx (.count quota) (.error cause) →
    Counts s ctx quota (s.equipment.enclosed ctx thresholdSpan [attempt]) (.error (.join .quotaUsageGet cause))
  | counted {cap : UInt32} (count : Nat) : s.license.caps quota = some cap →
    Counts s ctx quota (s.equipment.enclosed ctx thresholdSpan [.answered ctx (.count quota) (.ok count)])
      (.ok (decide (count < cap.toNat)))

/-- The question for room ensures what holds of all that can come of counting. -/
theorem ensures_withinThreshold {Q : List Event → Except ServiceError Bool → Prop}
    (h : ∀ added r, s.Counts ctx quota added r → Q (past ++ added) r) : (s.withinThreshold ctx quota).Ensures past Q := by
  refine Equipment.ensures_span.mpr ?_
  split
  · next hcap => simpa [Equipment.enclosed, thresholdSpan] using h _ _ (.uncapped hcap)
  · next cap hcap =>
    refine Program.ensures_bind.mpr (Step.ensures_attempt fun attempt r hyields => ?_)
    cases hyields with
    | refused cause => simpa [Equipment.enclosed, thresholdSpan] using h _ _ (.uncounted hcap (.refused cause))
    | answered count => simpa [Equipment.enclosed, thresholdSpan] using h _ _ (.counted count hcap)
    | failed refusal => simpa [Equipment.enclosed, thresholdSpan] using h _ _ (.uncounted hcap (.failed refusal))

namespace Counts

/-- Nothing is asked but the number of the resources. -/
theorem concern (h : s.Counts ctx quota es r) : Concern (· = .count quota) es := by
  cases h with
  | uncapped _ => exact Equipment.concern_enclosed.mpr fun e he => nomatch he
  | uncounted _ hyields => exact Equipment.concern_enclosed.mpr hyields.attempts.concern
  | counted count _ => exact Equipment.concern_enclosed.mpr (Event.Attempts.concern (.inr ⟨_, rfl⟩))

/-- To count changes nothing and hands nothing over. -/
theorem quiet (h : s.Counts ctx quota es r) : Quiet es := by
  cases h with
  | uncapped _ => exact Equipment.quiet_enclosed (by decide) quiet_nil
  | uncounted _ hyields =>
    refine Equipment.quiet_enclosed (by decide) ?_
    obtain ⟨cause, rfl⟩ | ⟨reply, rfl⟩ := hyields.attempts
    · exact quiet_singleton.mpr rfl
    · exact quiet_singleton.mpr rfl
  | counted count _ => exact Equipment.quiet_enclosed (by decide) (quiet_singleton.mpr rfl)

/-- There is room if and only if the resources have been counted, and there are fewer than the cap. -/
theorem roomy_iff (h : s.Counts ctx quota es r) : r = .ok true ↔ Roomy s.license ctx quota es := by
  cases h with
  | uncapped hcap =>
    refine ⟨nofun, ?_⟩
    rintro ⟨cap, _, hcap', -⟩
    cases hcap.symm.trans hcap'
  | uncounted hcap hyields =>
    refine ⟨nofun, ?_⟩
    rintro ⟨_, count, -, hmem, -⟩
    rw [← mem_calls_iff rfl, Equipment.calls_enclosed, hyields.attempts.calls_cons] at hmem
    cases hyields <;> cases List.mem_singleton.mp hmem
  | counted count hcap =>
    have hmem {count' : Nat} : .answered ctx (.count quota) (.ok count') ∈
        s.equipment.enclosed ctx thresholdSpan [.answered ctx (.count quota) (.ok count)] ↔ count' = count := by
      rw [← mem_calls_iff rfl, Equipment.calls_enclosed]
      exact ⟨fun h => by cases List.mem_singleton.mp h; rfl, fun h => h ▸ List.mem_singleton_self _⟩
    constructor
    · exact fun hroom => ⟨_, count, hcap, hmem.mpr rfl, of_decide_eq_true (Except.ok.inj hroom)⟩
    · rintro ⟨cap', count', hcap', hcounted, hroom⟩
      cases hcap.symm.trans hcap'
      cases hmem.mp hcounted
      exact congrArg Except.ok (decide_eq_true hroom)

end Counts

end Licensing

end Tenancy
