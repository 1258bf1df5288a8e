import Tenancy.Proofs.Request.Owners

/-!
# Outsiders

Permissions on organizations are held by their members. A member who is removed loses their permissions first. An organization
that is deleted for good loses its members, but permissions on it are left behind (`Request.Strands`). This is the only way in
which a run of requests on organizations leaves a permission on an organization with someone who is not a member.
-/

namespace Tenancy

namespace Roster

/-- Permissions on organizations are held by their members only. -/
def Insular (R : Roster) : Prop := ∀ g ∈ R.grants, g.target.kind = .organization → (g.target, g.subject) ∈ R.members

instance (R : Roster) : Decidable R.Insular :=
  inferInstanceAs (Decidable (∀ g ∈ R.grants, g.target.kind = .organization → (g.target, g.subject) ∈ R.members))

/-- Outsiders hold nothing when grants are taken away, or members added. -/
theorem Insular.mono {R R' : Roster} (h : R.Insular) (hgrants : R'.grants ⊆ R.grants) (hmembers : R.members ⊆ R'.members) :
    R'.Insular := fun g hg hkind => hmembers (h g (hgrants hg) hkind)

variable {R R' : Roster} {ctx : Context}

/-- To update an organization gives nothing to outsiders. -/
theorem insular_updated (hR : R.Insular) {id : Id} {patch : OrganizationPatch} {stored : Organization}
    (h : Turns R (.answered ctx (.organizations (.update id patch)) (.ok stored)) R') : R'.Insular := by
  have hgrants : R'.grants = R.grants := h.grants
  have hmembers : R'.members = R.members := h.members
  exact hR.mono hgrants.subset hmembers.superset

/-- To add a member gives nothing to outsiders. -/
theorem insular_joined (hR : R.Insular) {organization user : Id}
    (h : Turns R (.answered ctx (.organizations (.addMember organization user)) (.ok ())) R') : R'.Insular := by
  have hgrants : R'.grants = R.grants := h.grants
  have hmembers : R'.members = insert (organization, user) R.members := h.members
  exact hR.mono hgrants.subset (hmembers ▸ Finset.subset_insert _ _)

/-- To create an organization gives nothing to outsiders. -/
theorem insular_created (hR : R.Insular) {owner : Id} {organization created : Organization}
    (h : Turns R (.answered ctx (.organizations (.create owner organization)) (.ok created)) R') : R'.Insular := by
  have hgrants : R'.grants = R.grants := h.grants
  have hmembers : R'.members = insert (created.id, owner) R.members := h.members
  exact hR.mono hgrants.subset (hmembers ▸ Finset.subset_insert _ _)

/-- The owner of a new organization is a member of it when they are given rights. -/
theorem insular_founded (hR : R.Insular) {owner : Id} {organization created : Organization} {granted : Permission}
    {R₁ : Roster}
    (hcreate : Turns R (.answered ctx (.organizations (.create owner organization)) (.ok created)) R₁)
    (hgrant : Turns R₁ (.answered ctx (.permissions (.create (Permission.fresh owner created.id .all))) (.ok granted)) R') :
    R'.Insular := by
  have hmembers₁ : R₁.members = insert (created.id, owner) R.members := hcreate.members
  have hmembers : R'.members = R₁.members := hgrant.members
  have hgrants : R'.grants = insert granted R₁.grants := hgrant.grants.2
  have hgranted : granted.Resembles (Permission.fresh owner created.id .all) := hgrant.grants.1
  intro g hg hkind
  rw [hgrants] at hg
  rcases Finset.mem_insert.mp hg with rfl | hg
  · rw [hmembers, hmembers₁, hgranted]
    exact Finset.mem_insert_self _ _
  · exact hmembers ▸ insular_created hR hcreate g hg hkind

/-- An organization that is removed again leaves everything as it was. -/
theorem insular_undone (hR : R.Insular) {owner : Id} {organization created : Organization} {R₁ : Roster} {es : List Event}
    {undone : Except RepositoryError Unit}
    (hcreate : Turns R (.answered ctx (.organizations (.create owner organization)) (.ok created)) R₁)
    (hes : es <+: [.insisted (.organizations (.delete created.id)) undone].filter Event.changes)
    (hchained : Chained Turns R₁ es R') : R'.Insular := by
  rcases es with - | ⟨e, es⟩
  · exact chained_nil.mp hchained ▸ insular_created hR hcreate
  · cases undone with
    | error fault => cases List.prefix_nil.mp hes
    | ok v =>
      obtain ⟨rfl, hrest⟩ := List.cons_prefix_cons.mp hes
      obtain rfl := List.prefix_nil.mp hrest
      exact Roster.undone hcreate (chained_singleton.mp hchained) ▸ hR

/-- With an organization, its members are gone; so there must have been no permissions on it. -/
theorem insular_deleted_iff (hR : R.Insular) {id : Id} (hid : id.kind = .organization)
    (h : Turns R (.answered ctx (.organizations (.delete id)) (.ok ())) R') :
    R'.Insular ↔ ∀ g ∈ R.grants, g.target ≠ id := by
  have hgrants : R'.grants = R.grants := h.grants
  have hmembers : R'.members = {m ∈ R.members | m.1 ≠ id} := h.members
  constructor
  · rintro hR' g hg rfl
    have hmember := hR' g (hgrants ▸ hg) hid
    rw [hmembers] at hmember
    exact (Finset.mem_filter.mp hmember).2 rfl
  · intro hnone g hg hkind
    rw [hgrants] at hg
    rw [hmembers]
    exact Finset.mem_filter.mpr ⟨hR g hg hkind, hnone g hg⟩

/-- Who is removed from an organization holds no permissions on it any more. -/
theorem insular_released (hR : R.Insular) {organization user : Id} {permissions : List Permission}
    (hread : ∀ g, g ∈ permissions ↔ g ∈ R.grants ∧ g.target = organization)
    (h : R.Released organization user (permissions.filter fun p => p.subject == user) R') : R'.Insular := by
  obtain ⟨-, revoked, -, hgrants, hmembers⟩ := h
  have hsub : R'.grants ⊆ R.grants := hgrants ▸ Finset.filter_subset _ _
  rcases hmembers with hmembers | ⟨rfl, hmembers⟩
  · exact hR.mono hsub hmembers.superset
  · intro g hg hkind
    rw [hmembers]
    refine Finset.mem_erase.mpr ⟨fun hsame => ?_, hR g (hsub hg) hkind⟩
    obtain ⟨htarget, hsubject⟩ := Prod.mk.inj hsame
    have hheld : g ∈ permissions.filter fun p => p.subject == user :=
      List.mem_filter.mpr ⟨(hread g).mpr ⟨hsub hg, htarget⟩, beq_iff_eq.mpr hsubject⟩
    rw [hgrants] at hg
    exact (Finset.mem_filter.mp hg).2 g hheld rfl

end Roster

/-! ## Requests -/

/-- A request deletes an organization for good, and leaves permissions on it behind. -/
def Request.Strands (r : Request) (grants : Finset Permission) (value : Except ServiceError Response) : Prop :=
  ∃ id response, r = .deleteOrganization id true ∧ value = .ok response ∧ ∃ g ∈ grants, g.target = id

/-- A single deed leaves permissions on organizations with their members, unless it is the deletion of an organization on
which there are some. -/
theorem Roster.insular_deed {R R' : Roster} {ctx : Context} {r : Request} {deed : Deed} {v : deed.call.Value}
    (hr : r.onOrganizations = true) (hwork : r.work = .deed deed) (hR : R.Insular)
    (hdelete : ∀ id, r = .deleteOrganization id true → id.kind = .organization ∧ ∀ g ∈ R.grants, g.target ≠ id)
    (h : Turns R (.answered ctx deed.call (.ok v)) R') : R'.Insular := by
  cases r with
  | updateOrganization id patch => cases hwork; exact insular_updated hR h
  | deleteOrganization id force =>
    cases force with
    | true =>
      cases hwork
      obtain ⟨hid, hnone⟩ := hdelete id rfl
      exact (insular_deleted_iff hR hid h).mpr hnone
    | false => cases hwork; exact insular_updated hR h
  | addMember organization user => cases hwork; exact insular_joined hR h
  | _ => first | (cases hr; done) | cases hwork

namespace Platform

variable {σ : Type} {p : Platform} {w : World σ} {view : σ → Roster} {ctx : Context} {r : Request} {s s' : σ}

/-- Only an organization is deleted as one. -/
theorem kind_of_deleted {id : Id} {reply : Except (Refusal RepositoryError) Unit}
    (h : ((p.serve ctx (.deleteOrganization id true)).trace w s).filter Event.writes =
      [.answered ctx (.organizations (.delete id)) reply]) : id.kind = .organization := by
  have hmem : .answered ctx (.organizations (.delete id)) reply ∈ (p.serve ctx (.deleteOrganization id true)).trace w s :=
    List.mem_of_mem_filter (h ▸ List.mem_singleton_self _)
  obtain ⟨before, after, htrace⟩ := List.append_of_mem hmem
  obtain ⟨policy, ⟨⟩, hmet⟩ := (p.conducted ctx rfl w s).orderly before _ after htrace rfl
  have hnames := hmet.named (id, .organization) List.mem_cons_self
  simp only [Id.names, Bool.and_eq_true, beq_iff_eq] at hnames
  exact hnames.2

/-- All along a request on organizations, permissions on them stay with their members, when those on an organization that it
deletes for good are none. -/
theorem insular_amid (hw : w.Follows view Roster.Turns) (hr : r.onOrganizations = true) (hs : (view s).Insular)
    (hdelete : ¬ r.Strands (view s).grants ((p.serve ctx r).run w s).value) (hamid : p.Amid w s ctx r s') :
    (view s').Insular := by
  have hwrites := (p.conducted ctx (Request.not_isLetter_of_onOrganizations hr) w s).writes
  obtain ⟨es, hes, hchained⟩ := hw.amid Roster.isSteady_turns hamid
  generalize hwork : r.work = work at hwrites
  generalize hresponse : ((p.serve ctx r).run w s).value.toOption = response at hwrites
  generalize hws : ((p.serve ctx r).trace w s).filter Event.writes = ws at hwrites hes
  generalize view s' = R' at hchained ⊢
  -- before the first change everything is as it was
  rcases es with - | ⟨e, es⟩
  · exact chained_nil.mp hchained ▸ hs
  obtain ⟨R₁, hfirst, hchained⟩ := hchained
  cases hwrites with
  | withheld => cases List.prefix_nil.mp hes
  | nothing response => cases List.prefix_nil.mp hes
  | failed fault => cases List.prefix_nil.mp hes
  | unfounded fault => cases List.prefix_nil.mp hes
  | @done deed v =>
    have hdone : [Event.answered ctx deed.call (.ok v)].filter Event.changes = [.answered ctx deed.call (.ok v)] :=
      List.filter_cons_of_pos (Request.isWrite_deed hwork)
    rw [hdone] at hes
    obtain ⟨rfl, rfl⟩ : e = .answered ctx deed.call (.ok v) ∧ es = [] := by simpa using hes
    rw [chained_nil.mp hchained]
    refine Roster.insular_deed hr hwork hs (fun id hid => ?_) hfirst
    subst hid
    cases hwork
    refine ⟨kind_of_deleted hws, fun g hg htarget => ?_⟩
    cases hvalue : ((p.serve ctx (.deleteOrganization id true)).run w s).value with
    | ok response => exact hdelete ⟨id, response, rfl, hvalue, g, hg, htarget⟩
    | error failure =>
      rw [hvalue] at hresponse
      cases hresponse
  | founded created granted =>
    obtain ⟨rfl, hrest⟩ := List.cons_prefix_cons.mp hes
    rcases es with - | ⟨e, es⟩
    · exact chained_nil.mp hchained ▸ Roster.insular_created hs hfirst
    · obtain ⟨rfl, hnil⟩ := List.cons_prefix_cons.mp hrest
      obtain rfl := List.prefix_nil.mp hnil
      exact Roster.insular_founded hs hfirst (chained_singleton.mp hchained)
  | interrupted created undone =>
    obtain ⟨rfl, hrest⟩ := List.cons_prefix_cons.mp hes
    exact Roster.insular_undone hs hfirst hrest hchained
  | withdrawn created fault undone =>
    obtain ⟨rfl, hrest⟩ := List.cons_prefix_cons.mp hes
    exact Roster.insular_undone hs hfirst hrest hchained
  | removal permissions hasked hquiet read common removing =>
    obtain ⟨R₂, hread⟩ := hw.early_of_quiet Roster.isSteady_turns (w.leads_trace _ s) hasked hquiet read
    exact Roster.insular_released hs (hread.truthful _ _ rfl) (Roster.released removing hes ⟨R₁, hfirst, hchained⟩)

/-- A request that strands permissions leaves them with nobody who is a member. -/
theorem not_insular_of_strands (hw : w.Follows view Roster.Turns) (hs : (view s).Insular)
    (h : r.Strands (view s).grants ((p.serve ctx r).run w s).value) :
    ¬ (view ((p.serve ctx r).run w s).state).Insular := by
  obtain ⟨id, response, rfl, hvalue, g, hg, htarget⟩ := h
  have hwrites := (p.conducted ctx (r := .deleteOrganization id true) rfl w s).writes
  have hchained := hw.served Roster.isSteady_turns p ctx (.deleteOrganization id true) s
  rw [hvalue] at hwrites
  generalize hws : ((p.serve ctx (.deleteOrganization id true)).trace w s).filter Event.writes = ws at hwrites hchained
  cases hwrites with
  | done v =>
    rw [Roster.insular_deleted_iff hs (kind_of_deleted hws) (chained_singleton.mp hchained)]
    exact fun hnone => hnone g hg htarget

/-- **Outsiders hold no permissions.** When permissions on organizations are held by members only at first, they are so in
every state of a run of requests on organizations if and only if none of the requests deletes an organization for good while
there are permissions on it. -/
theorem insular_iff (hw : w.Follows view Roster.Turns) (hs : (view s).Insular) (requests : List (Context × Request))
    (hrequests : ∀ request ∈ requests, request.2.onOrganizations = true) :
    (∀ s', p.Visits w s requests s' → (view s').Insular) ↔
      ∀ served ctx r, served ++ [(ctx, r)] <+: requests →
        ¬ r.Strands (view (p.serveAll w s served)).grants ((p.serve ctx r).run w (p.serveAll w s served)).value := by
  refine visits_iff (fun s ctx r => r.Strands (view s).grants ((p.serve ctx r).run w s).value) hs
    fun s ctx r hrequest hs => ⟨fun h hstrands => ?_, fun h s' hamid => ?_⟩
  · exact not_insular_of_strands hw hs hstrands (h _ (amid_state s ctx r))
  · exact insular_amid hw (hrequests (ctx, r) hrequest) hs h hamid

/-- In every state of the succession of one organization by another, permissions are held by members. -/
theorem insular_iff_succession :
    (∀ s', (bare 5).Visits Scene.strict Scene.hasty succession s' → s'.roster.Insular) ∧
      ((bare 5).serveAll Scene.strict Scene.hasty succession).permissionTable.card = 1 := by
  refine ⟨(insular_iff (p := bare 5) Scene.strict_roster (s := Scene.hasty) (fun g hg => absurd hg (Finset.notMem_empty g))
    succession (by decide)).mpr ?_, by decide +kernel⟩
  rintro served ctx r hserved ⟨id, response, rfl, -⟩
  have hmem : (ctx, Request.deleteOrganization id true) ∈ succession := hserved.subset (by simp)
  simp [succession] at hmem

/-- The owner of an organization that is deleted for good still holds all rights on it. -/
theorem stranded_by_deletion :
    Scene.strict.Follows Scene.roster Roster.Turns ∧ Scene.blank.roster = ⟨∅, ∅, ∅⟩ ∧
      ¬ ∀ requests : List (Context × Request), (∀ request ∈ requests, request.2.onOrganizations = true) →
        ∀ s', (bare 5).Visits Scene.strict Scene.blank requests s' → s'.roster.Insular := by
  refine ⟨Scene.strict_roster, rfl, fun h => ?_⟩
  have hinsular : ((bare 5).serveAll Scene.strict Scene.blank
      [(firstUser, .createOrganization (Id.nth .user 1) (Organization.fresh "acme" "a@b.c")),
        (firstUser, .deleteOrganization (Id.nth .organization 1) true)]).roster.Insular :=
    h _ (by decide) _ (visits_serveAll (List.prefix_refl _))
  revert hinsular
  decide +kernel

end Platform

end Tenancy
