import Tenancy.Proofs.Operation.Guards
import Tenancy.Request

/-!
# The policy of requests

What must have been found out before a request may change a store or hand over an invitation: ids name single resources of
their types, the record or patch that comes with the request is in order, the principal holds the right that the request
needs, or is the one who needs none, and the license has room. The table `Request.policy?` says it for each request.
-/

namespace Tenancy

/-- What a request asks for before it may act. -/
structure Policy where
  /-- The ids that name single resources, with their types. -/
  ids : List (Id × ResourceType) := []
  /-- Whether the record or patch that comes with the request is in order, and the patch sets a field. -/
  sound : Bool := true
  /-- What the principal needs a right on. -/
  target : Policy.Target
  /-- The kind of the right; all rights serve as well. -/
  kind : PermissionKind
  /-- The principal who needs no right. -/
  exempt : Option Id := none
  /-- The principal who may not, whatever their rights. -/
  barred : Option Id := none
  /-- The cap under which there must be room. -/
  quota : Option Quota := none

namespace Policy

/-- The principal of a context is not barred, and is exempt or has been found to hold the right. -/
def Allows (policy : Policy) (ctx : Context) (es : List Event) : Prop :=
  ∃ principal, ctx.principal = some principal ∧ policy.barred ≠ some principal ∧
    (policy.exempt = some principal ∨ ∃ target, policy.target.Found ctx es target ∧ Granted ctx target [policy.kind] es)

/-- What a policy allowed stays allowed. -/
theorem Allows.mono {policy : Policy} {ctx : Context} {es es' : List Event} (h : policy.Allows ctx es) (hsub : es ⊆ es') :
    policy.Allows ctx es' := by
  obtain ⟨principal, hprincipal, hbarred, hexempt | ⟨target, htarget, hgranted⟩⟩ := h
  · exact ⟨principal, hprincipal, hbarred, .inl hexempt⟩
  · exact ⟨principal, hprincipal, hbarred, .inr ⟨target, htarget.mono hsub, hgranted.mono hsub⟩⟩

/-- A policy allows a principal who is not barred, and who is exempt or holds the right. -/
theorem allows_iff {policy : Policy} {ctx : Context} {es : List Event} : policy.Allows ctx es ↔
    ctx.principal.isSome = true ∧ ctx.principal ≠ policy.barred ∧
      (ctx.principal = policy.exempt ∨ ∃ target, policy.target.Found ctx es target ∧ Granted ctx target [policy.kind] es) := by
  cases hprincipal : ctx.principal <;> simp [Allows, hprincipal, eq_comm]

/-- Whom a policy allows was found out from answers. -/
theorem Allows.of_answers {policy : Policy} {ctx : Context} {es es' : List Event} (h : policy.Allows ctx es)
    (hes : ∀ c reply, .answered ctx c reply ∈ es → .answered ctx c reply ∈ es') : policy.Allows ctx es' := by
  obtain ⟨principal, hprincipal, hbarred, hexempt | ⟨target, hfound, principal', hprincipal', hmem⟩⟩ := h
  · exact ⟨principal, hprincipal, hbarred, .inl hexempt⟩
  · refine ⟨principal, hprincipal, hbarred, .inr ⟨target, ?_, principal', hprincipal', hes _ _ hmem⟩⟩
    cases htarget : policy.target with
    | resource id => rwa [htarget] at hfound
    | ofPermission id =>
      rw [htarget] at hfound
      obtain ⟨permission, hread, hsame⟩ := hfound
      exact ⟨permission, hes _ _ hread, hsame⟩

/-- What a policy asks for has been found out under a context. -/
structure Met (policy : Policy) (license : License) (ctx : Context) (es : List Event) : Prop where
  named : ∀ id ∈ policy.ids, id.1.names id.2 = true
  sound : policy.sound = true
  allowed : policy.Allows ctx es
  roomy : ∀ quota, policy.quota = some quota → Roomy license ctx quota es

/-- A policy is met when its ids name what they must, its record is sound, the right is held and there is room under
its quota. -/
theorem met_iff {policy : Policy} {license : License} {ctx : Context} {es : List Event} : policy.Met license ctx es ↔
    (∀ id ∈ policy.ids, id.1.names id.2 = true) ∧ policy.sound = true ∧ policy.Allows ctx es ∧
      ∀ quota, policy.quota = some quota → Roomy license ctx quota es :=
  ⟨fun h => ⟨h.named, h.sound, h.allowed, h.roomy⟩, fun h => ⟨h.1, h.2.1, h.2.2.1, h.2.2.2⟩⟩

/-- What has been found out stays so. -/
theorem Met.mono {policy : Policy} {license : License} {ctx : Context} {es es' : List Event} (h : policy.Met license ctx es)
    (hsub : es ⊆ es') : policy.Met license ctx es' :=
  ⟨h.named, h.sound, h.allowed.mono hsub, fun quota hquota => (h.roomy quota hquota).mono hsub⟩

end Policy

/-- The policy of a request; nothing for one that never changes a store and hands over no invitation of its own. -/
def Request.policy? : Request → Option Policy
  | createUser user => some
    { sound := !user.email.isEmpty && user.violations.isEmpty
      target := .resource (Id.nil .user)
      kind := .create
      quota := some .users }
  | updateUser id patch => some
    { ids := [(id, .user)]
      sound := !patch.isEmpty && patch.violations.isEmpty
      target := .resource id
      kind := .write
      exempt := some id }
  | deleteUser id _ => some { ids := [(id, .user)], target := .resource id, kind := .delete, barred := some id }
  | createOrganization owner organization => some
    { ids := [(owner, .user)]
      sound := organization.violations.isEmpty
      target := .resource (Id.nil .organization)
      kind := .create
      exempt := some owner
      quota := some .organizations }
  | updateOrganization id patch => some
    { ids := [(id, .organization)]
      sound := !patch.isEmpty && patch.violations.isEmpty
      target := .resource id
      kind := .write }
  | deleteOrganization id _ => some { ids := [(id, .organization)], target := .resource id, kind := .delete }
  | addMember organization user => some
    { ids := [(organization, .organization), (user, .user)]
      target := .resource organization
      kind := .write
      quota := some .users }
  | removeMember organization user => some
    { ids := [(organization, .organization), (user, .user)], target := .resource organization, kind := .write }
  | invite organization user _ => some
    { ids := [(organization, .organization), (user, .user)], target := .resource organization, kind := .write }
  | grant permission => some { sound := permission.isValid, target := .resource permission.target, kind := .all }
  | revoke id => some { ids := [(id, .permission)], target := .ofPermission id, kind := .all }
  | _ => none

namespace Request

/-- The policy of a request is met. -/
def Met (r : Request) (license : License) (ctx : Context) (es : List Event) : Prop :=
  ∃ policy, r.policy? = some policy ∧ policy.Met license ctx es

/-- A policy that was met stays so. -/
theorem Met.mono {r : Request} {license : License} {ctx : Context} {es es' : List Event} (h : r.Met license ctx es)
    (hsub : es ⊆ es') : r.Met license ctx es' := by
  obtain ⟨policy, hr, hmet⟩ := h
  exact ⟨policy, hr, hmet.mono hsub⟩

end Request

/-- Whether a request asks for a letter to be sent, to whomever it names. -/
def Request.isLetter : Request → Bool
  | sendPasswordReset _ _ => true
  | sendInvitation _ _ _ => true
  | sendLicenseExpiry _ _ _ _ => true
  | sendWelcome _ => true
  | _ => false

/-- Whether a request is made of the service of organizations. -/
def Request.onOrganizations : Request → Bool
  | createOrganization _ _ => true
  | getOrganization _ => true
  | getOrganizations _ _ => true
  | updateOrganization _ _ => true
  | deleteOrganization _ _ => true
  | addMember _ _ => true
  | getMembers _ => true
  | removeMember _ _ => true
  | invite _ _ _ => true
  | _ => false

theorem Request.not_isLetter_of_onOrganizations {r : Request} (h : r.onOrganizations = true) : r.isLetter = false := by
  cases r <;> first | rfl | cases h

/-- The license that a request is measured against: the one that its service was given. -/
def Platform.licenseOf (p : Platform) : Request → License
  | .createUser _ => p.accounts.licensing.license
  | .updateUser _ _ => p.accounts.licensing.license
  | .deleteUser _ _ => p.accounts.licensing.license
  | _ => p.organizations.licensing.license

end Tenancy
