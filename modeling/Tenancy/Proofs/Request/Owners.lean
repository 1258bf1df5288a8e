import Mathlib.Data.List.Infix
import Tenancy.Proofs.Request.Rollback
import Tenancy.Proofs.World.Roster

/-!
# Owners of organizations

Every organization keeps a member who holds all rights on it. The owner of a new organization is given these rights before
its creation succeeds, or the organization is removed again; and a member who holds them is not removed. Only the deletion of
an organization whose owner could not be given rights has to succeed for that.
-/

namespace Tenancy

namespace Roster

/-- A member of an organization holds all rights on it. -/
def HasOwner (R : Roster) (organization : Id) : Prop :=
  ∃ g ∈ R.grants, g.target = organization ∧ g.kind = .all ∧ (organization, g.subject) ∈ R.members

/-- Every organization that is stored, deleted ones included, has a member who holds all rights on it. -/
def Owned (R : Roster) : Prop := ∀ o ∈ R.organizations, R.HasOwner o.id

/-- Permissions are stored under ids of their own. -/
def Distinct (R : Roster) : Prop := ∀ g ∈ R.grants, ∀ g' ∈ R.grants, g.id = g'.id → g = g'

instance (R : Roster) : Decidable R.Distinct := inferInstanceAs (Decidable (∀ g ∈ R.grants, _))

/-- An organization keeps its owner while grants and its own memberships stay. -/
theorem HasOwner.mono {R R' : Roster} {organization : Id} (h : R.HasOwner organization) (hgrants : R.grants ⊆ R'.grants)
    (hmembers : ∀ user, (organization, user) ∈ R.members → (organization, user) ∈ R'.members) : R'.HasOwner organization := by
  obtain ⟨g, hg, htarget, hkind, hmember⟩ := h
  exact ⟨g, hgrants hg, htarget, hkind, hmembers g.subject hmember⟩

variable {R R' : Roster} {ctx : Context}

/-- To update an organization takes no owner away. -/
theorem owned_updated (hR : R.Owned) {id : Id} {patch : OrganizationPatch} {stored : Organization}
    (h : Turns R (.answered ctx (.organizations (.update id patch)) (.ok stored)) R') : R'.Owned := by
  obtain ⟨⟨hid, old, hold, holdid, -⟩, horganizations⟩ := h.organizations
  have hgrants : R'.grants = R.grants := h.grants
  have hmembers : R'.members = R.members := h.members
  have hkept : ∀ o ∈ R.organizations, R'.HasOwner o.id := fun o ho => (hR o ho).mono (by rw [hgrants]) (by simp [hmembers])
  intro o ho
  rw [horganizations] at ho
  rcases Finset.mem_insert.mp ho with rfl | ho
  · have hsame : old.id = o.id := holdid.trans hid.symm
    exact hsame ▸ hkept old hold
  · exact hkept o (Finset.mem_filter.mp ho).1

/-- To delete an organization leaves those owned that stay. -/
theorem owned_deleted (hR : R.Owned) {id : Id}
    (h : Turns R (.answered ctx (.organizations (.delete id)) (.ok ())) R') : R'.Owned := by
  have horganizations : R'.organizations = {o ∈ R.organizations | o.id ≠ id} := h.organizations.2
  have hgrants : R'.grants = R.grants := h.grants
  have hmembers : R'.members = {m ∈ R.members | m.1 ≠ id} := h.members
  intro o ho
  rw [horganizations] at ho
  obtain ⟨ho, hother⟩ := Finset.mem_filter.mp ho
  exact (hR o ho).mono (by rw [hgrants]) fun user huser => hmembers ▸ Finset.mem_filter.mpr ⟨huser, hother⟩

/-- To add a member takes no owner away. -/
theorem owned_joined (hR : R.Owned) {organization user : Id}
    (h : Turns R (.answered ctx (.organizations (.addMember organization user)) (.ok ())) R') : R'.Owned := by
  have horganizations : R'.organizations = R.organizations := h.organizations
  have hgrants : R'.grants = R.grants := h.grants
  have hmembers : R'.members = insert (organization, user) R.members := h.members
  intro o ho
  rw [horganizations] at ho
  exact (hR o ho).mono (by rw [hgrants]) fun user huser => hmembers ▸ Finset.mem_insert_of_mem huser

/-- To grant a permission takes no owner away. -/
theorem owned_granted (hR : R.Owned) {permission granted : Permission}
    (h : Turns R (.answered ctx (.permissions (.create permission)) (.ok granted)) R') : R'.Owned := by
  have horganizations : R'.organizations = R.organizations := h.organizations
  have hgrants : R'.grants = insert granted R.grants := h.grants.2
  have hmembers : R'.members = R.members := h.members
  intro o ho
  rw [horganizations] at ho
  exact (hR o ho).mono (hgrants ▸ Finset.subset_insert _ _) (by simp [hmembers])

/-- A new organization whose owner has been given all rights has an owner. -/
theorem owned_founded (hR : R.Owned) {owner : Id} {organization created : Organization} {granted : Permission} {R₁ : Roster}
    (hcreate : Turns R (.answered ctx (.organizations (.create owner organization)) (.ok created)) R₁)
    (hgrant : Turns R₁ (.answered ctx (.permissions (.create (Permission.fresh owner created.id .all))) (.ok granted)) R') :
    R'.Owned := by
  have horganizations : R'.organizations = insert created R.organizations :=
    Eq.trans hgrant.organizations hcreate.organizations.2
  have hmembers : R'.members = insert (created.id, owner) R.members := hgrant.members.trans hcreate.members
  have hgrants : R'.grants = insert granted R.grants :=
    hgrant.grants.2.trans (congrArg (insert granted) hcreate.grants)
  have hgranted : granted.Resembles (Permission.fresh owner created.id .all) := hgrant.grants.1
  intro o ho
  rw [horganizations] at ho
  rcases Finset.mem_insert.mp ho with rfl | ho
  · refine ⟨granted, hgrants ▸ Finset.mem_insert_self _ _, by rw [hgranted]; rfl, by rw [hgranted]; rfl, ?_⟩
    rw [hmembers, show granted.subject = owner by rw [hgranted]; rfl]
    exact Finset.mem_insert_self _ _
  · exact (hR o ho).mono (hgrants ▸ Finset.subset_insert _ _) fun user huser => hmembers ▸ Finset.mem_insert_of_mem huser

/-- A new organization that is removed again leaves the owners of the others. -/
theorem owned_undone (hR : R.Owned) {owner : Id} {organization created : Organization} {R₁ : Roster}
    {undone : Except RepositoryError Unit}
    (hcreate : Turns R (.answered ctx (.organizations (.create owner organization)) (.ok created)) R₁)
    (hdelete : Chained Turns R₁ ([.insisted (.organizations (.delete created.id)) undone].filter Event.changes) R')
    (hundone : ∀ fault, undone ≠ .error fault) : R'.Owned := by
  cases undone with
  | error fault => exact absurd rfl (hundone fault)
  | ok v => exact undone hcreate (chained_singleton.mp hdelete) ▸ hR

/-- Who does not hold all rights on an organization can be removed from it. -/
theorem owned_released (hR : R.Owned) (hdistinct : R.Distinct) {organization user : Id} {permissions : List Permission}
    (hread : ∀ g, g ∈ permissions ↔ g ∈ R.grants ∧ g.target = organization)
    (hcommon : ∀ permission ∈ permissions, permission.subject = user → permission.kind ≠ .all)
    (h : R.Released organization user (permissions.filter fun p => p.subject == user) R') : R'.Owned := by
  obtain ⟨horganizations, revoked, hrevoked, hgrants, hmembers⟩ := h
  intro o ho
  rw [horganizations] at ho
  obtain ⟨g, hg, htarget, hkind, hmember⟩ := hR o ho
  refine ⟨g, ?_, htarget, hkind, ?_⟩
  · rw [hgrants]
    refine Finset.mem_filter.mpr ⟨hg, fun permission hpermission hid => ?_⟩
    obtain ⟨hheld, hsubject⟩ := List.mem_filter.mp (hrevoked.subset hpermission)
    obtain rfl := hdistinct g hg permission ((hread permission).mp hheld).1 hid
    exact hcommon g hheld (beq_iff_eq.mp hsubject) hkind
  · rcases hmembers with hmembers | ⟨-, hmembers⟩
    · rw [hmembers]
      exact hmember
    · rw [hmembers]
      refine Finset.mem_erase.mpr ⟨fun hsame => ?_, hmember⟩
      obtain ⟨horganization, hsubject⟩ := Prod.mk.inj hsame
      exact hcommon g ((hread g).mpr ⟨hg, htarget.trans horganization⟩) hsubject hkind

end Roster

/-! ## Requests -/

/-- Whether a request is made of the service of organizations, or grants a permission. -/
def Request.organizesOrGrants (r : Request) : Bool := r.onOrganizations || r matches .grant _

/-- A single deed leaves every organization with an owner. -/
theorem Roster.owned_deed {R R' : Roster} {ctx : Context} {r : Request} {deed : Deed} {v : deed.call.Value}
    (hr : r.organizesOrGrants = true) (hwork : r.work = .deed deed) (hR : R.Owned)
    (h : Turns R (.answered ctx deed.call (.ok v)) R') : R'.Owned := by
  cases r with
  | updateOrganization id patch => cases hwork; exact owned_updated hR h
  | deleteOrganization id force =>
    cases force with
    | true => cases hwork; exact owned_deleted hR h
    | false => cases hwork; exact owned_updated hR h
  | addMember organization user => cases hwork; exact owned_joined hR h
  | grant permission => cases hwork; exact owned_granted hR h
  | _ => first | (cases hr; done) | cases hwork

namespace Platform

variable {σ : Type} {p : Platform} {w : World σ} {view : σ → Roster} {ctx : Context} {r : Request} {s : σ}

/-- A request leaves every organization with an owner, unless an organization without one cannot be removed again. -/
theorem owned_serve (hw : w.Follows view Roster.Turns) (hr : r.organizesOrGrants = true) (hs : (view s).Owned)
    (hdistinct : (view s).Distinct)
    (hundone : ∀ id fault, .insisted (.organizations (.delete id)) (.error fault) ∉ (p.serve ctx r).trace w s) :
    (view ((p.serve ctx r).run w s).state).Owned := by
  have hletter : r.isLetter = false := by cases r <;> first | rfl | cases hr
  have hwrites := (p.conducted ctx hletter w s).writes
  have hchained := hw.served Roster.isSteady_turns p ctx r s
  have hundone : ∀ id fault, .insisted (.organizations (.delete id)) (.error fault) ∉
      ((p.serve ctx r).trace w s).filter Event.writes := fun id fault h => hundone id fault (List.mem_filter.mp h).1
  generalize hwork : r.work = work at hwrites
  generalize hws : ((p.serve ctx r).trace w s).filter Event.writes = ws at hwrites hchained hundone
  generalize ((p.serve ctx r).run w s).value.toOption = response at hwrites
  generalize view ((p.serve ctx r).run w s).state = R' at hchained ⊢
  cases hwrites with
  | withheld => exact chained_nil.mp hchained ▸ hs
  | nothing response => exact chained_nil.mp hchained ▸ hs
  | failed fault => exact chained_nil.mp hchained ▸ hs
  | unfounded fault => exact chained_nil.mp hchained ▸ hs
  | @done deed v =>
    have hdone : [Event.answered ctx deed.call (.ok v)].filter Event.changes = [.answered ctx deed.call (.ok v)] :=
      List.filter_cons_of_pos (Request.isWrite_deed hwork)
    rw [hdone] at hchained
    exact Roster.owned_deed hr hwork hs (chained_singleton.mp hchained)
  | founded created granted =>
    obtain ⟨R₁, hcreate, hgrant⟩ := chained_pair.mp hchained
    exact Roster.owned_founded hs hcreate hgrant
  | interrupted created undone =>
    obtain ⟨R₁, hcreate, hdelete⟩ := hchained
    refine Roster.owned_undone hs hcreate hdelete ?_
    rintro fault rfl
    exact hundone created.id fault (List.mem_cons_of_mem _ List.mem_cons_self)
  | withdrawn created fault undone =>
    obtain ⟨R₁, hcreate, hdelete⟩ := hchained
    refine Roster.owned_undone hs hcreate hdelete ?_
    rintro fault rfl
    exact hundone created.id fault (List.mem_cons_of_mem _ (List.mem_cons_of_mem _ List.mem_cons_self))
  | removal permissions hasked hquiet read common removing =>
    obtain ⟨R₁, hread⟩ := hw.early_of_quiet Roster.isSteady_turns (w.leads_trace _ s) hasked hquiet read
    exact Roster.owned_released hs hdistinct (hread.truthful _ _ rfl) common
      (Roster.released removing (List.prefix_refl _) hchained)

/-- **Every organization keeps an owner.** When every organization has a member who holds all rights on it at first, so it is
after a run in which no organization without an owner could not be removed again. -/
theorem owners_kept (hw : w.Follows view Roster.Turns) (requests : List (Context × Request))
    (hrequests : ∀ request ∈ requests, request.2.organizesOrGrants = true) (s : σ) (hs : (view s).Owned)
    (hdistinct : ∀ served, served <+: requests → (view (p.serveAll w s served)).Distinct)
    (hundone : ∀ id fault, .insisted (.organizations (.delete id)) (.error fault) ∉ p.traceAll w s requests) :
    (view (p.serveAll w s requests)).Owned := by
  induction requests generalizing s with
  | nil => exact hs
  | cons request rest ih =>
    obtain ⟨ctx, r⟩ := request
    have hserved : (view ((p.serve ctx r).run w s).state).Owned :=
      owned_serve hw (hrequests (ctx, r) List.mem_cons_self) hs (hdistinct [] List.nil_prefix)
        fun id fault h => hundone id fault (List.mem_append_left _ h)
    exact ih (fun request hrequest => hrequests request (List.mem_cons_of_mem _ hrequest)) _ hserved
      (fun served hserved => hdistinct ((ctx, r) :: served) (List.cons_prefix_cons.mpr ⟨rfl, hserved⟩))
      fun id fault h => hundone id fault (List.mem_append_right _ h)

/-- The creation of an organization is cancelled before its owner is given rights; another one is created, a member comes and
goes, and its owner stays. -/
def succession : List (Context × Request) :=
  let beta := Id.nth .organization 2
  let second : Context := { principal := some (Id.nth .user 2), token := ⟨[1]⟩ }
  [(firstUser, .createOrganization (Id.nth .user 1) (Organization.fresh "acme" "a@b.c")),
    (second, .createOrganization (Id.nth .user 2) (Organization.fresh "beta" "b@b.c")),
    (second, .addMember beta (Id.nth .user 3)), (second, .removeMember beta (Id.nth .user 3)),
    (second, .removeMember beta (Id.nth .user 2))]

/-- The only organization that remains has its owner as its only member. -/
theorem owners_kept_succession :
    ((bare 5).serveAll Scene.strict Scene.hasty succession).roster.Owned ∧
      ((bare 5).serveAll Scene.strict Scene.hasty succession).memberTable =
        {(Id.nth .organization 2, Id.nth .user 2)} := by
  have hdistinct : ∀ served ∈ succession.inits, ((bare 5).serveAll Scene.strict Scene.hasty served).roster.Distinct := by
    decide +kernel
  have hundone : ((bare 5).traceAll Scene.strict Scene.hasty succession).all
      (fun | .insisted _ (.error _) => false | _ => true) = true := by
    decide +kernel
  refine ⟨owners_kept (p := bare 5) Scene.strict_roster succession (by decide) Scene.hasty ?_ ?_ ?_, by decide +kernel⟩
  · intro o ho
    exact absurd ho (Finset.notMem_empty o)
  · exact fun served hserved => hdistinct served ((List.mem_inits _ _).mpr hserved)
  · exact fun id fault hmem => Bool.false_ne_true (List.all_eq_true.mp hundone _ hmem)

end Platform

end Tenancy
