import Tenancy.Proofs.Failure.Chain
import Tenancy.Proofs.Request.Outline

/-!
# How operations end when a call fails

A call that fails stops its operation, and the failure of the operation names that of the call as its cause. A question about
access is the exception: one that fails is answered by no, and what it failed with is told to nobody. `Request.Exit` says so of
the body of an operation, and `Request.Exits` of the operation itself. Guards exit so, whatever comes of them
(`Guard.Course.exit`).
-/

namespace Tenancy

open Step Telemetry Equipment

/-- The call of an event that comes to nothing, with its failure. The removal of what a failure has left behind is not counted,
since it makes no difference to the operation whether it goes well. -/
def Event.failing? : Event → Option (Call × Failure)
  | refused _ c cause => some (c, .interruption cause)
  | answered _ c reply =>
    match reply with
    | .ok _ => none
    | .error refusal => some (c, c.refused refusal)
  | insisted (.render path data) reply =>
    match reply with
    | .ok _ => none
    | .error fault => some (.render path data, (Call.render path data).failure fault)
  | _ => none

/-- The calls that come to nothing, with their failures. -/
def failings (es : List Event) : List (Call × Failure) := es.filterMap Event.failing?

@[simp] theorem failings_nil : failings [] = [] := rfl

/-- The calls that come to nothing are those before and those after. -/
@[simp] theorem failings_append {es es' : List Event} : failings (es ++ es') = failings es ++ failings es' :=
  List.filterMap_append

/-- Events that are about no call hold no call that fails. -/
theorem failings_silent {es : List Event} (h : ∀ e ∈ es, e.subject? = none) : failings es = [] := by
  rw [failings, List.filterMap_eq_nil_iff]
  intro e he
  have silent := h e he
  cases e with
  | refused ctx c cause => cases silent
  | answered ctx c reply => cases silent
  | insisted c reply => cases silent
  | noted note => rfl
  | surveyed ctx components reports notes => rfl

/-- Only events that are about a call can fail. -/
theorem failings_calls (es : List Event) : failings (calls es) = failings es := by
  rw [failings, failings, calls, List.filterMap_filter]
  refine List.filterMap_congr fun e _ => ?_
  cases e <;> rfl

/-- Nothing comes to nothing in the moments of a span. -/
@[simp] theorem failings_left {e : Equipment} {note : SpanNote} : failings (e.left note) = [] :=
  failings_silent fun _ => subject_left

/-- In a span, what comes to nothing does so inside. -/
@[simp] theorem failings_enclosed {e : Equipment} {ctx : Context} {name : String} {inner : List Event} :
    failings (e.enclosed ctx name inner) = failings inner := by
  simp [enclosed]

/-- An attempt that fails is the one call that does. -/
theorem Event.Yields.failings_error {ctx : Context} {c : Call} {attempt : Event} {f : Failure}
    (h : attempt.Yields ctx c (.error f)) : failings [attempt] = [(c, f)] := by
  cases h with
  | refused cause => rfl
  | failed refusal => rfl

/-- A question about access is answered by no when it fails, and otherwise holds no call that fails. -/
theorem Equipment.Settles.failings_cases {e : Equipment} {ctx : Context} {span : String} {q? : Option AccessCall} {es : List Event}
    {yes : Bool} (h : e.Settles ctx span q? es yes) :
    failings es = [] ∨ yes = false ∧ ∃ a f, failings es = [(.access a, f)] := by
  cases h with
  | unasked _ => exact .inl rfl
  | @asked a attempt yes _ attempts hyes =>
    have one : failings (e.lookup span attempt) = failings [attempt] := by
      rw [← failings_calls, calls_lookup attempts]
    obtain ⟨cause, rfl⟩ | ⟨reply, rfl⟩ := attempts
    · exact .inr ⟨Bool.eq_false_iff.mpr fun h => (nomatch hyes.mp h), a, _, one⟩
    · cases reply with
      | ok v => exact .inl one
      | error refusal => exact .inr ⟨Bool.eq_false_iff.mpr fun h => (nomatch hyes.mp h), a, _, one⟩

/-- A target that is found out is found out without a call that fails. -/
theorem Policy.Target.Finds.failings_ok {ctx : Context} {target : Policy.Target} {finding : List Event} {id : Id}
    (h : target.Finds ctx finding (.ok id)) : failings finding = [] := by
  cases h with
  | resource id => rfl
  | read permission => rfl

/-- Resources that are counted are counted without a call that fails. -/
theorem Licensing.Counts.failings_ok {s : Licensing} {ctx : Context} {quota : Quota} {counting : List Event} {yes : Bool}
    (h : s.Counts ctx quota counting (.ok yes)) : failings counting = [] := by
  cases h with
  | counted count _ => exact failings_enclosed

/-- A failure in which no collaborator has a part: each link is a kind, or a record that breaks rules. -/
def Failure.IsComplaint (f : Failure) : Prop :=
  ∀ g, f.Link g → g.family = .service ∨ g.family = .kind ∨ g.family = .invalid

namespace Failure

/-- A single failure of the service's own is a complaint. -/
theorem isComplaint_of_single {f : Failure} (h : f.cause? = none)
    (hfamily : f.family = .service ∨ f.family = .kind ∨ f.family = .invalid) : f.IsComplaint := by
  intro g link
  rw [(link_iff_of_single h).mp link]
  exact hfamily

/-- A kind of failure is a complaint. -/
theorem isComplaint_kind {k : ErrorKind} : (kind k).IsComplaint := isComplaint_of_single rfl (.inr (.inl rfl))

/-- A service's bare error is a complaint. -/
theorem isComplaint_service {k : ErrorKind} : (service k).IsComplaint := isComplaint_of_single rfl (.inl rfl)

/-- A violation of rules is a complaint. -/
theorem isComplaint_invalid {k : ErrorKind} {v : Violations} : (joined k (.invalid v)).IsComplaint := by
  intro g link
  rcases link_joined_iff.mp link with rfl | link
  · exact .inl rfl
  · exact isComplaint_of_single rfl (.inr (.inr rfl)) g link

end Failure

open Failure

/-- No collaborator has a part in a failure with which an operation turns a request away by itself. -/
theorem Complaint.isComplaint (c : Complaint) : c.failure.IsComplaint := by
  cases c with
  | kind k => exact isComplaint_kind
  | service k => exact isComplaint_service
  | broken k rules => exact isComplaint_invalid

/-! ## Exits -/

namespace Request

/-- The kind of the operation of another service that makes a call on behalf of a request: resources are counted by the
service of the license, and the letter of an invitation is written by the service of letters. -/
def nested? : Request → Call → Option ErrorKind
  | _, .count _ => some .quotaUsageGet
  | invite _ _ _, .send _ _ => some .emailSend
  | invite _ _ _, .render _ _ => some .emailSend
  | _, _ => none

/-- What a call that fails is reported as by the operation: its failure, under the kind of the operation that made it. -/
def blame (r : Request) (c : Call) (f : Failure) : Failure :=
  match r.nested? c with
  | some k => .joined k f
  | none => f

/-- Whether a request asks about access only to mark the owners among members. -/
def marksOwners : Request → Bool
  | getMembers _ => true
  | _ => false

/-- The failure of a call that the operation makes itself is reported as it is. -/
theorem blame_of_own {r : Request} {c : Call} (own : r.nested? c = none) (f : Failure) : r.blame c f = f := by
  unfold blame
  rw [own]

/-- How the body of an operation ends, as its calls fail or not. -/
inductive Exit {α : Type} (r : Request) (es : List Event) : Except Failure α → Prop where
  | done {v : α} : failings es = [] → Exit r es (.ok v)
  /-- Questions about access have failed that count for no more than a no. -/
  | overlooked {v : α} : r.marksOwners = true → (∀ x ∈ failings es, x.1.IsAccess) → Exit r es (.ok v)
  /-- All calls went well, and the operation fails by itself. -/
  | complained {f : Failure} : failings es = [] → f.IsComplaint → Exit r es (.error f)
  /-- A question about access has failed. -/
  | turnedAway {a : AccessCall} {f : Failure} : r.marksOwners = false → failings es = [(.access a, f)] →
    Exit r es (.error (.kind .noPermission))
  | stopped {c : Call} {f : Failure} : ¬c.IsAccess → failings es = [(c, f)] → Exit r es (.error (r.blame c f))

/-- How an operation of a kind ends: as its body does, whose failure is joined with the kind. -/
def Exits {α : Type} (r : Request) (kind : ErrorKind) (es : List Event) (x : Except ServiceError α) : Prop :=
  ∃ y : Except Failure α, x = y.mapError (.join kind) ∧ r.Exit es y

section

variable {α β : Type} {r : Request} {kind : ErrorKind} {ctx : Context} {past es : List Event} {e : Equipment}

/-- What makes no difference to the calls that fail makes none to the exit. -/
theorem Exit.of_failings {es' : List Event} {y : Except Failure α} (h : r.Exit es y) (hes : failings es' = failings es) :
    r.Exit es' y := by
  cases h with
  | done clear => exact .done (hes.trans clear)
  | overlooked marks access => exact .overlooked marks (hes ▸ access)
  | complained clear complaint => exact .complained (hes.trans clear) complaint
  | turnedAway marks one => exact .turnedAway marks (hes.trans one)
  | stopped other one => exact .stopped other (hes.trans one)

/-- Calls that went well before make no difference to the exit. -/
theorem Exit.after {y : Except Failure α} (h : r.Exit es y) (clear : failings past = []) : r.Exit (past ++ es) y :=
  h.of_failings (by rw [failings_append, clear, List.nil_append])

/-- How the value is shown makes no difference to the exit. -/
theorem Exit.map {y : Except Failure α} (h : r.Exit es y) (shown : α → β) : r.Exit es (y.map shown) := by
  cases h with
  | done clear => exact .done clear
  | overlooked marks access => exact .overlooked marks access
  | complained clear complaint => exact .complained clear complaint
  | turnedAway marks one => exact .turnedAway marks one
  | stopped other one => exact .stopped other one

/-- A call of the operation itself stops it when it fails. -/
theorem exit_of_failed {c : Call} {attempt : Event} {cause : Failure} (h : attempt.Yields ctx c (.error cause))
    (other : ∀ a, c ≠ .access a) (own : r.nested? c = none) : r.Exit [attempt] (.error cause : Except Failure α) := by
  rw [← blame_of_own own cause]
  exact .stopped (not_exists.mpr other) h.failings_error

end

end Request

/-! ## Guards -/

namespace Guard

variable {e : Equipment} {ctx : Context} {span : String} {g : Guard} {gs : List Guard} {es : List Event}
  {r : Request} {y : Except Failure Unit}

/-- A guard that lets an operation pass has no call that fails. -/
theorem Outcome.failings_of_ok (h : g.Outcome e ctx span es y) (hy : y = .ok ()) : failings es = [] := by
  cases h with
  | demanded => rfl
  | lost hfinds => cases hy
  | asked hfinds hsettles =>
    rw [failings_append, hfinds.failings_ok, List.nil_append]
    rcases hsettles.failings_cases with clear | ⟨rfl, -⟩
    · exact clear
    · cases hy
  | unsettled hcounts => cases hy
  | counted hcounts => exact hcounts.failings_ok

/-- A guard that turns an operation away complains, or a call has failed that stops the operation. Questions about access that
fail are not overlooked. -/
theorem Outcome.exit (h : g.Outcome e ctx span es y) (hasks : ∀ a, g.Asks (.access a) → r.marksOwners = false) : r.Exit es y := by
  have settled {met : Bool} {cause : Failure} (clear : failings es = []) (complaint : cause.IsComplaint) :
      r.Exit es (passIf met cause) := by
    cases met with
    | true => exact .done clear
    | false => exact .complained clear complaint
  cases h with
  | @demanded met complaint => exact settled rfl complaint.isComplaint
  | lost hfinds =>
    cases hfinds with
    | unread hyields => exact Request.exit_of_failed hyields nofun (by cases r <;> rfl)
  | asked hfinds hsettles =>
    rcases hsettles.failings_cases with clear | ⟨rfl, a, f, one⟩
    · exact settled (by rw [failings_append, hfinds.failings_ok, clear, List.nil_append]) isComplaint_kind
    · exact .turnedAway (hasks a (.inl ⟨a, rfl⟩)) (by rw [failings_append, hfinds.failings_ok, one, List.nil_append])
  | @unsettled s quota complaint counting failure hcounts =>
    cases hcounts with
    | uncapped _ => exact .complained (by simp) isComplaint_service
    | @uncounted cap attempt cause _ hyields =>
      have blamed : r.blame (.count quota) cause = .joined .quotaUsageGet cause := by cases r <;> rfl
      change r.Exit _ (.error (.joined .quotaUsageGet cause))
      rw [← blamed]
      exact .stopped (by rintro ⟨a, ⟨⟩⟩) (by rw [failings_enclosed, hyields.failings_error])
  | @counted s quota complaint counting yes hcounts => exact settled hcounts.failings_ok complaint.isComplaint

/-- Guards that let an operation pass have no call that fails. -/
theorem Course.failings_of_ok (h : Course e ctx span gs es y) (hy : y = .ok ()) : failings es = [] := by
  induction h with
  | through => rfl
  | passed houtcome _ ih => rw [failings_append, houtcome.failings_of_ok rfl, ih hy, List.append_nil]
  | turned _ => cases hy

/-- Guards that are checked in order exit as the first one that turns the operation away. -/
theorem Course.exit (h : Course e ctx span gs es y) (hasks : ∀ g ∈ gs, ∀ a, g.Asks (.access a) → r.marksOwners = false) :
    r.Exit es y := by
  induction h with
  | through => exact .done rfl
  | passed houtcome _ ih =>
    exact (ih fun g hg => hasks g (List.mem_cons_of_mem _ hg)).after (houtcome.failings_of_ok rfl)
  | turned houtcome => exact houtcome.exit (hasks _ List.mem_cons_self)

end Guard

/-- Once the guards have let an operation pass, the calls that fail are those of its task. -/
theorem Platform.failings_served {p : Platform} {ctx : Context} {r : Request} {gs : List Guard} {checked later : List Event}
    (h : Guard.Course (r.home p).1 ctx (r.home p).2 gs checked (.ok ())) :
    failings (p.begun ctx r checked ++ later ++ (r.home p).1.left (.ended (r.home p).2)) = failings later := by
  simp [begun, h.failings_of_ok rfl]

end Tenancy
