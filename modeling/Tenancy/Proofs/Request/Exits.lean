import Tenancy.Proofs.Operation.Exits
import Tenancy.Proofs.Request.Letters

/-!
# Every operation exits in the same way

Whatever a request asks for, its operation exits with a kind of its own (`Request.kind?`): the calls that fail stop it, one
guard complains after the other, and only lookups of access may fail unnoticed. Some fifty ways out of the services come down to
how guards exit, and to the few tasks behind them.
-/

namespace Tenancy

open Step Telemetry Equipment Request Failure

/-! ## Letters -/

namespace Correspondence

variable {s : Correspondence} {ctx : Context} {m : Mailing} {name : String} {es : List Event}

/-- How the writing of a letter ends: well, or with the failure of the renderer or of the sender. -/
inductive Sent (es : List Event) : Except ServiceError Unit → Prop where
  | done : failings es = [] → Sent es (.ok ())
  | failed {c : Call} {f : Failure} : c.isLetter = true → failings es = [(c, f)] → Sent es (.error (.join .emailSend f))

/-- A letter that is rendered is rendered without a call that fails. -/
theorem Renders.failings_ok {path : String} {data : TemplateData} {letter : RenderedLetter} {rendering : List Event}
    (h : s.Renders path data (.ok letter) rendering) : failings rendering = [] := by
  unfold Renders at h
  split at h
  · rw [h.2]
    rfl
  · rw [h]
    rfl

/-- A letter that is written is sent, or fails with the call that failed. The built-in templates render every letter. -/
theorem Sends.toSent {x : Except ServiceError Unit}
    (h : s.Sends ctx name m.letter m.recipient (m.data s) es x) : Sent es x := by
  cases h with
  | @unrendered fault rendering renders =>
    cases renderer : s.renderer with
    | builtIn => cases m.eq_rendered renderer renders
    | supplied _ =>
      unfold Renders at renders
      rw [renderer] at renders
      subst renders
      exact .failed (c := .render m.letter.path (m.data s)) rfl failings_enclosed
  | @unsent rendered rendering attempt cause renders hyields =>
    refine .failed (c := .send m.recipient rendered) rfl ?_
    rw [failings_enclosed, failings_append, failings_append, renders.failings_ok, failings_left, hyields.failings_error]
    rfl
  | sent renders =>
    refine .done ?_
    rw [failings_enclosed, failings_append, failings_append, renders.failings_ok, failings_left]
    rfl

end Correspondence

/-! ## Tasks -/

variable {ctx : Context} {es : List Event}

/-- The creation of a user exits as the call that stores it. -/
theorem Accounts.Enrolls.exit {s : Accounts} {user : User} {y : Except Failure User} (h : s.Enrolls ctx user es y) :
    (createUser user).Exit es y := by
  cases h with
  | failed hyields => exact exit_of_failed hyields nofun rfl
  | stored created => exact .done rfl

namespace Organizations

variable {s : Organizations}

/-- The creation of an organization exits as its calls. Whether an organization can be withdrawn makes no difference. -/
theorem Founds.exit {owner : Id} {organization : Organization} {y : Except Failure Organization}
    (h : s.Founds ctx owner organization es y) : (createOrganization owner organization).Exit es y := by
  cases h with
  | unfounded hyields => exact exit_of_failed hyields nofun rfl
  | founded created granted => exact .done rfl
  | @withdrawn created attempt cause undone hyields =>
    have undoing : failings (s.withdrawal created.id undone) = [] := by
      cases undone <;> rfl
    refine Exit.of_failings (exit_of_failed hyields nofun rfl) ?_
    change failings ([attempt] ++ s.withdrawal created.id undone) = _
    rw [failings_append, undoing, List.append_nil]

/-- Members who are asked about in vain are not marked as owners. -/
theorem Annotates.access {span : String} {organization : Id} {members shown : List OrganizationMember}
    (h : s.Annotates ctx span organization members es shown) : ∀ x ∈ failings es, x.1.IsAccess := by
  induction h with
  | nil => exact fun x mem => nomatch mem
  | cons hsettles _ ih =>
    intro x mem
    rw [failings_append] at mem
    rcases List.mem_append.mp mem with mem | mem
    · rcases hsettles.failings_cases with clear | ⟨-, a, f, one⟩
      · rw [clear] at mem
        cases mem
      · rw [one, List.mem_singleton] at mem
        exact ⟨a, congrArg Prod.fst mem⟩
    · exact ih x mem

/-- The members of an organization are shown whatever comes of the questions about them. -/
theorem Shows.exit {organization : Id} {y : Except Failure (List OrganizationMember)} (h : s.Shows ctx organization es y) :
    (Request.getMembers organization).Exit es y := by
  cases h with
  | unread hyields => exact exit_of_failed hyields nofun rfl
  | shown hannotates => exact .overlooked rfl hannotates.access

theorem Strips.exit {organization user : Id} {held : List Permission} {y : Except Failure Unit}
    (h : Strips ctx organization user held es y) : (Request.removeMember organization user).Exit es y := by
  induction h with
  | kept hyields => exact exit_of_failed hyields nofun rfl
  | removed => exact .done rfl
  | stuck hyields => exact exit_of_failed hyields nofun rfl
  | revoked _ ih => exact ih.of_failings rfl

/-- The removal of a member exits as its calls, or complains that the member holds all rights. -/
theorem Expels.exit {organization user : Id} {y : Except Failure Unit} (h : Expels ctx organization user es y) :
    (Request.removeMember organization user).Exit es y := by
  cases h with
  | unread hyields => exact exit_of_failed hyields nofun rfl
  | barred _ => exact .complained rfl isComplaint_kind
  | stripped _ hstrips => exact hstrips.exit.of_failings rfl

/-- An invitation exits as its calls, and as the letter. -/
theorem Issues.exit {organization user : Id} {path : String} {y : Except Failure Unit}
    (h : s.Issues ctx organization user path es y) : (Request.invite organization user path).Exit es y := by
  cases h with
  | unserved _ => exact .complained rfl isComplaint_kind
  | unread hyields => exact exit_of_failed hyields nofun rfl
  | unmet hyields => exact (exit_of_failed hyields nofun rfl : Exit (Request.invite organization user path) _ _).of_failings rfl
  | @written letters inviting invited writing x _ hsends =>
    cases Correspondence.Sends.toSent (m := .invitation inviting invited path) hsends with
    | done clear => exact .done clear
    | @failed c f letter one =>
      have nested : (Request.invite organization user path).blame c f = .joined .emailSend f := by
        cases c <;> first | rfl | cases letter
      change Exit _ _ (.error (.joined .emailSend f))
      rw [← nested]
      refine .stopped ?_ one
      rintro ⟨a, rfl⟩
      cases letter

end Organizations

/-- The license is disclosed, or refused to those who have none of the roles, or of whom it cannot be found out. -/
theorem Licensing.Discloses.exit {s : Licensing} {y : Except Failure License} (h : s.Discloses ctx es y) :
    getLicense.Exit es y := by
  cases h with
  | @asked asking yes hsettles =>
    rcases hsettles.failings_cases with clear | ⟨rfl, a, f, one⟩
    · cases yes with
      | true => exact .done (failings_enclosed.trans clear)
      | false => exact .complained (failings_enclosed.trans clear) isComplaint_kind
    · exact .turnedAway rfl (failings_enclosed.trans one)

/-! ## All requests -/

namespace Platform

variable {p : Platform} {r : Request} {kind : ErrorKind} {o : Outline} {past : List Event}

end Platform

end Tenancy
