import Tenancy.Proofs.Request.Conduct
import Tenancy.Scene

/-!
# Every request is conducted

Whatever request is served, under whatever context and in whatever world: it acts only after its policy is met, and writes
what its work says, up to the point at which a call fails or the context is done. For the operations that are laid out this
follows from their guards and their tasks; the others only ask. Letters are left out, which go to whomever the request names.
-/

namespace Tenancy

open Step Request

namespace Platform

variable {p : Platform} {ctx : Context} {r : Request} {o : Outline}

/-- An operation that is laid out conducts its request: its guards make up the policy of the request, and its task is the
work. -/
theorem ensures_conducted (h : r.outline? p ctx = some o) :
    (p.serve ctx r).Ensures [] fun es x => r.Conducted (p.licenseOf r) ctx es x.toOption := by
  obtain ⟨⟨kind, hkind⟩, -⟩ := exists_kind h
  refine ensures_outline h hkind (fun checked cause hcourse => ?_) fun checked hcourse => ?_
  · exact .failed (Equipment.quiet_enclosed (home_ne_invitationSpan h) hcourse.quiet)
  · have hmet (policy : Policy) (hpolicy : r.policy? = some policy) :
        policy.Met (p.licenseOf r) ctx (p.begun ctx r checked) := by
      have hfound := (hcourse.ok_iff (apart_guards h)).mp rfl
      exact ((foundAll_guards_iff h hpolicy).mp hfound).2.mono (List.subset_append_right _ _)
    refine Program.Ensures.mono (conducts_task h (quiet_begun h hcourse.quiet) hmet) fun es x hx => ?_
    cases x with
    | ok response => exact hx.append (Equipment.quiet_left rfl)
    | error cause => exact hx.append (Equipment.quiet_left rfl)

/-- Nothing acts while a question is answered. -/
theorem quiet_question (h : r.outline? p ctx = none) (hr : r.isLetter = false) :
    (p.serve ctx r).Confined fun e => e.acts = false := by
  cases r with
  | hasPermission subject target kinds =>
    refine Program.Confined.map (Equipment.quiet_span (by decide) fun _ => ?_)
    exact Equipment.ensures_holds fun added _ hsettles => ⟨added, rfl, hsettles.quiet⟩
  | isPermitted target kinds =>
    refine Program.Confined.map (Equipment.quiet_span (by decide) fun _ => ?_)
    exact Equipment.ensures_permitted fun added _ hsettles => ⟨added, rfl, hsettles.quiet⟩
  | hasSystemRole roles =>
    refine Program.Confined.map fun _ => AccessControl.ensures_hasSystemRole fun asking _ hsettles => ⟨_, rfl, ?_⟩
    exact Equipment.quiet_enclosed (by decide) hsettles.quiet
  | isLicenseExpired =>
    exact Program.Confined.map (Equipment.quiet_span (by decide) (Program.confined_time.bind fun _ => Program.confined_pure))
  | hasFeature feature => exact Program.Confined.map (Equipment.quiet_span (by decide) Program.confined_pure)
  | isWithinThreshold quota =>
    exact Program.Confined.map fun _ => Licensing.ensures_withinThreshold fun added _ hcounts => ⟨added, rfl, hcounts.quiet⟩
  | pingLicense =>
    exact Program.Confined.map (Equipment.quiet_span (by decide) (Program.confined_time.bind fun _ => Program.confined_pure))
  | _ => first | cases h; done | cases hr

/-- Serving a request conducts it. -/
theorem ensures_serve (hr : r.isLetter = false) :
    (p.serve ctx r).Ensures [] fun es x => r.Conducted (p.licenseOf r) ctx es x.toOption := by
  cases h : r.outline? p ctx with
  | some o => exact ensures_conducted h
  | none =>
    refine (quiet_question h hr).ensures fun added x (hquiet : Quiet added) => ?_
    have hwork : r.work = .nothing := by
      cases r <;> first | rfl | cases h
    refine ⟨(Conducted.failed hquiet).orderly, ?_⟩
    rw [List.nil_append, hquiet.filter_writes, hwork]
    cases x with
    | ok v => exact .nothing _
    | error cause => exact .withheld

/-- In every world, serving a request conducts it. -/
theorem conducted {σ : Type} (p : Platform) (ctx : Context) (hr : r.isLetter = false) (w : World σ) (s : σ) :
    r.Conducted (p.licenseOf r) ctx ((p.serve ctx r).trace w s) ((p.serve ctx r).run w s).value.toOption :=
  (ensures_serve hr).run w s

/-- **The policy envelope.** In every world, a store is changed and an invitation handed over only after all has been found
out that the policy of the request asks for. -/
theorem acts_only_after_policy {σ : Type} (p : Platform) (ctx : Context) (r : Request) (hr : r.isLetter = false)
    (w : World σ) (s : σ) (before after : List Event) (e : Event) (htrace : (p.serve ctx r).trace w s = before ++ e :: after)
    (hacts : e.acts = true) :
    ∃ policy, r.policy? = some policy ∧ policy.Met (p.licenseOf r) ctx before :=
  (conducted p ctx hr w s).orderly before e after htrace hacts

/-- A platform without a tracer, in which users and organizations are capped alike. -/
def bare (cap : UInt32) : Platform :=
  let equipment : Equipment := { permissions := some ⟨"permissions"⟩ }
  let access : AccessControl := ⟨equipment⟩
  let license :=
    License.fresh (Id.nth .license 1) "" "" Store.creation |>.withQuota .users cap |>.withQuota .organizations cap
  let licensing : Licensing := ⟨equipment, license, access⟩
  { access, licensing
    correspondence := { equipment, client := ⟨"mail"⟩, hostname := "", supportAddress := "" }
    accounts := ⟨equipment, licensing⟩
    organizations := { equipment, licensing } }

/-- A live context on behalf of the first user. -/
def firstUser : Context := { principal := some (Id.nth .user 1), token := ⟨[0]⟩ }

/-- A member is added by a user who may write to the organization, after both the right and the room have been found. -/
theorem acts_only_after_policy_addMember :
    let added := Request.addMember (Id.nth .organization 1) (Id.nth .user 2)
    ∃ policy, added.policy? = some policy ∧ policy.Met ((bare 5).licenseOf added) firstUser
      [.answered firstUser (.access (.hasPermission (Id.nth .user 1) (Id.nth .organization 1) [.write, .all])) (.ok true),
        .answered firstUser (.count .users) (.ok (0 : Nat))] :=
  acts_only_after_policy (bare 5) firstUser (.addMember (Id.nth .organization 1) (Id.nth .user 2)) rfl Scene.world
    { store :=
        ({ organizations := [{ Organization.fresh "acme" "" with id := Id.nth .organization 1 }] } : Store).withPermission
          (Permission.fresh (Id.nth .user 1) (Id.nth .organization 1) .write)
      today := Store.creation }
    _ [] (.answered firstUser (.organizations (.addMember (Id.nth .organization 1) (Id.nth .user 2))) (.ok ())) rfl rfl

end Platform

end Tenancy
