import Tenancy.Proofs.Operation.Exits
import Tenancy.Proofs.Request.Owners

/-!
# The removal of a member

The removal of a member revokes what they hold on the organization, one permission after the other, and then ends their
membership. It can stop anywhere: a call can fail, and the context can be done. At each of these points the membership is only
gone when all the permissions are, and nothing else has changed (`Removal`). A member who holds all rights keeps everything;
what their removal fails with depends on whether the permissions could be read (`removal_in_order`).
-/

namespace Tenancy

open Step Telemetry

namespace Roster

/-- The permissions of a user on an organization. -/
def held (R : Roster) (organization user : Id) : Finset Permission :=
  {g ∈ R.grants | g.target = organization ∧ g.subject = user}

theorem mem_held {R : Roster} {organization user : Id} {g : Permission} :
    g ∈ R.held organization user ↔ g ∈ R.grants ∧ g.target = organization ∧ g.subject = user := Finset.mem_filter

/-- Nothing of a user on an organization is left. -/
def without (R : Roster) (organization user : Id) : Roster where
  organizations := R.organizations
  members := R.members.erase (organization, user)
  grants := R.grants \ R.held organization user

/-- A point on the way from a roster to the one without a member: some of what they hold is gone, and the membership is only
gone when all of it is. -/
structure Removal (R : Roster) (organization user : Id) (R' : Roster) : Prop where
  organizations : R'.organizations = R.organizations
  grants : ∃ lost ⊆ R.held organization user, R'.grants = R.grants \ lost
  members : R'.members = R.members ∨ R' = R.without organization user

theorem Removal.refl (R : Roster) (organization user : Id) : R.Removal organization user R where
  organizations := rfl
  grants := ⟨∅, Finset.empty_subset _, Finset.sdiff_empty.symm⟩
  members := .inl rfl

/-- After the removal the user holds nothing on the organization. -/
theorem held_without (R : Roster) (organization user : Id) : (R.without organization user).held organization user = ∅ := by
  ext g
  simp only [mem_held, without, Finset.mem_sdiff, Finset.notMem_empty, iff_false]
  rintro ⟨⟨hg, hnot⟩, hof⟩
  exact hnot ⟨hg, hof⟩

/-- At a point at which the membership is gone, the user holds nothing on the organization. -/
theorem Removal.held_eq_empty {R R' : Roster} {organization user : Id} (h : R.Removal organization user R')
    (hmember : (organization, user) ∈ R.members) (hgone : (organization, user) ∉ R'.members) :
    R'.held organization user = ∅ := by
  rcases h.members with hmembers | hwithout
  · rw [hmembers] at hgone
    exact absurd hmember hgone
  · rw [hwithout]
    exact held_without R organization user

section

variable {R R' : Roster} {organization user : Id} {permissions : List Permission} {ctx : Context}

/-- Among permissions with ids of their own, those with the ids of others are these others. -/
theorem filter_ids (hdistinct : R.Distinct) {revoked : List Permission} (hrevoked : ∀ p ∈ revoked, p ∈ R.grants) :
    {g ∈ R.grants | ∀ p ∈ revoked, g.id ≠ p.id} = R.grants \ revoked.toFinset := by
  ext g
  simp only [Finset.mem_filter, Finset.mem_sdiff, List.mem_toFinset]
  constructor
  · rintro ⟨hg, hother⟩
    exact ⟨hg, fun hmem => hother g hmem rfl⟩
  · rintro ⟨hg, hnot⟩
    refine ⟨hg, ?_⟩
    intro p hp hid
    obtain rfl := hdistinct g hg p (hrevoked p hp) hid
    exact hnot hp

/-- What is read of a user among the permissions on an organization is what they hold on it. -/
theorem toFinset_read (hread : ∀ g, g ∈ permissions ↔ g ∈ R.grants ∧ g.target = organization) :
    (permissions.filter fun p => p.subject == user).toFinset = R.held organization user := by
  ext g
  simp only [List.mem_toFinset, List.mem_filter, hread, mem_held, beq_iff_eq, and_assoc]

/-- What a member who is being removed has lost is a point on the way. -/
theorem Released.removal (hdistinct : R.Distinct)
    (hread : ∀ g, g ∈ permissions ↔ g ∈ R.grants ∧ g.target = organization)
    (h : R.Released organization user (permissions.filter fun p => p.subject == user) R') :
    R.Removal organization user R' := by
  obtain ⟨horganizations, revoked, hrevoked, hgrants, hmembers⟩ := h
  have hstored : ∀ p ∈ revoked, p ∈ R.grants := by
    intro p hp
    exact ((hread p).mp (List.mem_filter.mp (hrevoked.subset hp)).1).1
  rw [filter_ids hdistinct hstored] at hgrants
  refine ⟨horganizations, ⟨revoked.toFinset, ?_, hgrants⟩, ?_⟩
  · rw [← toFinset_read hread]
    intro g hg
    exact List.mem_toFinset.mpr (hrevoked.subset (List.mem_toFinset.mp hg))
  · rcases hmembers with hmembers | ⟨rfl, hmembers⟩
    · exact .inl hmembers
    · refine .inr (Roster.ext horganizations hmembers ?_)
      rw [hgrants, toFinset_read hread]
      rfl

/-- A removal that has come to its end has a response exactly when the membership was ended, after all was revoked. -/
theorem released_end {held : List Permission} {ws : List Event} {response : Option Response}
    (h : Removing ctx organization user held ws response) (hchained : Chained Turns R (ws.filter Event.changes) R') :
    (response = none ∧ R'.members = R.members) ∨
      (response = some .nothing ∧ R'.members = R.members.erase (organization, user) ∧
        R'.grants = {g ∈ R.grants | ∀ p ∈ held, g.id ≠ p.id}) := by
  induction h generalizing R with
  | stopped => exact .inl ⟨rfl, congrArg Roster.members (chained_nil.mp hchained)⟩
  | stuck fault => exact .inl ⟨rfl, congrArg Roster.members (chained_nil.mp hchained)⟩
  | @revoked permission rest ws response later ih =>
    obtain ⟨R₁, hturns, hchained⟩ := hchained
    have hgrants : R₁.grants = {g ∈ R.grants | g.id ≠ permission.id} := hturns.grants.2
    have hmembers : R₁.members = R.members := hturns.members
    rcases ih hchained with ⟨hnone, hkept⟩ | ⟨hsome, hended, hrest⟩
    · exact .inl ⟨hnone, hkept.trans hmembers⟩
    · refine .inr ⟨hsome, by rw [hended, hmembers], ?_⟩
      rw [hrest, hgrants, Finset.filter_filter]
      simp only [List.forall_mem_cons]
  | kept fault => exact .inl ⟨rfl, congrArg Roster.members (chained_nil.mp hchained)⟩
  | removed =>
    have hturns := chained_singleton.mp hchained
    have hgrants : R'.grants = R.grants := hturns.grants
    have hmembers : R'.members = R.members.erase (organization, user) := hturns.members
    refine .inr ⟨rfl, hmembers, ?_⟩
    simp only [hgrants, List.not_mem_nil, false_implies, implies_true, Finset.filter_true]

end

end Roster

/-! ## What stands in the way -/

/-- A call that fails is one that the events are about. -/
theorem Concern.failing {P : Call → Prop} {es : List Event} (h : Concern P es) {c : Call} {f : Failure}
    (hmem : (c, f) ∈ failings es) : P c := by
  obtain ⟨e, he, hfailing⟩ := List.mem_filterMap.mp hmem
  refine h e he c ?_
  unfold Event.failing? at hfailing
  split at hfailing
  · cases hfailing; rfl
  · split at hfailing
    · cases hfailing
    · cases hfailing; rfl
  · split at hfailing
    · cases hfailing
    · cases hfailing; rfl
  · cases hfailing

/-- Whenever the permissions on an organization have been read, they show that a user holds all rights on it. -/
def ShowsOwner (ctx : Context) (organization user : Id) (es : List Event) : Prop :=
  ∀ permissions : List Permission, .answered ctx (.permissions (.getByTarget organization)) (.ok permissions) ∈ es →
    ∃ p ∈ permissions, p.subject = user ∧ p.kind = .all

/-- What the removal of a member who holds all rights fails with: that reading the permissions on the organization failed, or
else that there is no right to it. -/
def Barred {α : Type} (organization : Id) (es : List Event) (x : Except Failure α) : Prop :=
  ((∀ f, (.permissions (.getByTarget organization), f) ∉ failings es) → x = .error (.kind .noPermission)) ∧
    ∀ f, (.permissions (.getByTarget organization), f) ∈ failings es → x = .error f

section

variable {α : Type} {organization : Id} {es es' : List Event} {x : Except Failure α} {f : Failure}

/-- Only the calls that fail make a difference to what bars a removal. -/
theorem Barred.of_failings (h : Barred organization es x) (hes : failings es' = failings es) : Barred organization es' x := by
  unfold Barred at h ⊢
  rwa [hes]

/-- Who has no right is turned away, unless reading the permissions has failed. -/
theorem barred_of_unread (h : ∀ f, (.permissions (.getByTarget organization), f) ∉ failings es) :
    Barred (α := α) organization es (.error (.kind .noPermission)) :=
  ⟨fun _ => rfl, fun f hmem => absurd hmem (h f)⟩

/-- When reading the permissions fails, that is what the removal fails with. -/
theorem barred_of_failed (h : failings es = [(.permissions (.getByTarget organization), f)]) :
    Barred (α := α) organization es (.error f) := by
  unfold Barred
  rw [h]
  refine ⟨fun hnone => absurd (List.mem_singleton_self _) (hnone f), fun f' hmem => ?_⟩
  cases List.mem_singleton.mp hmem
  rfl

end

/-- The removal of a member is barred when the member is shown to hold all rights: the demands are met, so that only the question
about access and the reading of the permissions can fail. -/
theorem Platform.ensures_barred {p : Platform} {ctx : Context} {organization user : Id}
    (horganization : organization.names .organization = true) (huser : user.names .user = true)
    (hprincipal : ctx.principal.isSome = true) :
    (p.serve ctx (.removeMember organization user)).Ensures [] fun es x => ShowsOwner ctx organization user es →
      ∃ y : Except Failure Response, x = y.mapError (.join .organizationRemoveMember) ∧ Barred organization es y := by
  have houtline : (Request.removeMember organization user).outline? p ctx = some _ := rfl
  refine ensures_outline houtline rfl (fun checked cause hcourse _ => ?_) fun checked hcourse => ?_
  · have hunread (f : Failure) : (.permissions (.getByTarget organization), f) ∉ failings checked := by
      intro hmem
      obtain ⟨g, hg, hasks⟩ := hcourse.concern.failing hmem
      simp only [List.mem_cons, List.not_mem_nil, or_false] at hg
      obtain rfl | rfl | rfl | rfl := hg
      · cases hasks
      · cases hasks
      · cases hasks
      · rcases hasks with ⟨a, ⟨⟩⟩ | ⟨id, ⟨⟩⟩
    obtain ⟨g, hg, es', houtcome⟩ := hcourse.turned_by
    have hcause : cause = .kind .noPermission := by
      simp only [List.mem_cons, List.not_mem_nil, or_false] at hg
      obtain rfl | rfl | rfl | rfl := hg
      · cases houtcome.demand_error.1.symm.trans horganization
      · cases houtcome.demand_error.1.symm.trans huser
      · cases houtcome.demand_error.1.symm.trans hprincipal
      · exact houtcome.resource_error
    rw [hcause]
    exact ⟨_, rfl, (barred_of_unread hunread).of_failings failings_enclosed⟩
  · refine ensures_map.mpr (Organizations.ensures_expel fun added y hexpels hshows => ?_)
    cases hexpels with
    | unread hyields => exact ⟨_, rfl, barred_of_failed ((failings_served hcourse).trans hyields.failings_error)⟩
    | barred _ => exact ⟨_, rfl, (barred_of_unread fun f => List.not_mem_nil).of_failings (failings_served hcourse)⟩
    | @stripped permissions later y hcommon _ =>
      -- a member who is shown to hold all rights does not get here
      obtain ⟨held, hmem, hsubject, hkind⟩ := hshows permissions (by simp)
      have hnot := List.all_eq_true.mp hcommon held (List.mem_filter.mpr ⟨hmem, beq_iff_eq.mpr hsubject⟩)
      rw [hkind] at hnot
      cases hnot

namespace Platform

variable {σ : Type} {p : Platform} {w : World σ} {view : σ → Roster} {ctx : Context} {organization user : Id} {s s' : σ}

/-- The removal of a member who is shown to hold all rights fails, with what barred it. -/
theorem barred_serve (horganization : organization.names .organization = true) (huser : user.names .user = true)
    (hprincipal : ctx.principal.isSome = true)
    (hshows : ShowsOwner ctx organization user ((p.serve ctx (.removeMember organization user)).trace w s)) :
    ∃ cause, ((p.serve ctx (.removeMember organization user)).run w s).value =
        .error (.join .organizationRemoveMember cause) ∧
      ((∀ f, (.permissions (.getByTarget organization), f) ∉
        failings ((p.serve ctx (.removeMember organization user)).trace w s)) → cause = .kind .noPermission) ∧
      ∀ f, (.permissions (.getByTarget organization), f) ∈
        failings ((p.serve ctx (.removeMember organization user)).trace w s) → cause = f := by
  obtain ⟨y, hvalue, hbarred, hstopped⟩ := (ensures_barred horganization huser hprincipal).run w s hshows
  rw [List.nil_append] at hbarred hstopped
  by_cases hread : ∃ f, (.permissions (.getByTarget organization), f) ∈
      failings ((p.serve ctx (.removeMember organization user)).trace w s)
  · obtain ⟨f, hmem⟩ := hread
    rw [hstopped f hmem] at hvalue
    refine ⟨f, hvalue, fun hnone => absurd hmem (hnone f), ?_⟩
    intro f' hmem'
    exact Except.error.inj ((hstopped f hmem).symm.trans (hstopped f' hmem'))
  · have hnone := not_exists.mp hread
    rw [hbarred hnone] at hvalue
    exact ⟨_, hvalue, fun _ => rfl, fun f hmem => absurd hmem (hnone f)⟩

/-- A removal writes nothing and fails, or it goes through the permissions that the member holds, none of which are all
rights. -/
theorem removal_course (hw : w.Follows view Roster.Turns) (p : Platform) (ctx : Context) (organization user : Id) (s : σ) :
    let served := p.serve ctx (.removeMember organization user)
    ((served.trace w s).filter Event.writes = [] ∧ (served.run w s).value.toOption = none) ∨
      ∃ permissions : List Permission, (∀ g, g ∈ permissions ↔ g ∈ (view s).grants ∧ g.target = organization) ∧
        (∀ g ∈ permissions, g.subject = user → g.kind ≠ .all) ∧
        Removing ctx organization user (permissions.filter fun p => p.subject == user)
          ((served.trace w s).filter Event.writes) (served.run w s).value.toOption := by
  intro served
  have hwrites := (p.conducted ctx (r := .removeMember organization user) rfl w s).writes
  generalize hws : (served.trace w s).filter Event.writes = ws at hwrites ⊢
  generalize (served.run w s).value.toOption = response at hwrites ⊢
  cases hwrites with
  | withheld => exact .inl ⟨rfl, rfl⟩
  | removal permissions hasked hquiet read common removing =>
    obtain ⟨R₁, hread⟩ := hw.early_of_quiet Roster.isSteady_turns (w.leads_trace _ s) hasked hquiet read
    exact .inr ⟨permissions, hread.truthful _ _ rfl, common, removing⟩

/-- What a removal writes revokes what the member holds, or ends the membership. -/
theorem removal_writes (hw : w.Follows view Roster.Turns) {e : Event}
    (he : e ∈ (p.serve ctx (.removeMember organization user)).trace w s) (hwrites : e.writes = true) :
    (∃ g ∈ (view s).held organization user, ∃ reply, e = .answered ctx (.permissions (.delete g.id)) reply) ∨
      ∃ reply, e = .answered ctx (.organizations (.removeMember organization user)) reply := by
  have hmem := List.mem_filter.mpr ⟨he, hwrites⟩
  rcases removal_course hw p ctx organization user s with ⟨hnone, -⟩ | ⟨permissions, hread, -, hremoving⟩
  · rw [hnone] at hmem
    cases hmem
  · rcases hremoving.mem hmem with ⟨g, hg, hreply⟩ | hreply
    · left
      refine ⟨g, ?_, hreply⟩
      rw [← Roster.toFinset_read hread]
      exact List.mem_toFinset.mpr hg
    · exact .inr hreply

/-- Every state that a removal comes to is a point on the way. -/
theorem removal_amid (hw : w.Follows view Roster.Turns) (hdistinct : (view s).Distinct)
    (hamid : p.Amid w s ctx (.removeMember organization user) s') : (view s).Removal organization user (view s') := by
  obtain ⟨es, hes, hchained⟩ := hw.amid Roster.isSteady_turns hamid
  rcases removal_course hw p ctx organization user s with ⟨hnone, -⟩ | ⟨permissions, hread, -, hremoving⟩
  · rw [hnone] at hes
    obtain rfl := List.prefix_nil.mp hes
    rw [chained_nil.mp hchained]
    exact .refl _ _ _
  · exact (Roster.released hremoving hes hchained).removal hdistinct hread

/-- At the end of a removal that goes well nothing of the member is left, and at the end of another one the membership is as it
was. -/
theorem removal_served (p : Platform) (ctx : Context) (organization user : Id) (hw : w.Follows view Roster.Turns)
    (hdistinct : (view s).Distinct) :
    (((p.serve ctx (.removeMember organization user)).run w s).value.toOption = none ∧
        (view ((p.serve ctx (.removeMember organization user)).run w s).state).members = (view s).members) ∨
      (((p.serve ctx (.removeMember organization user)).run w s).value.toOption = some .nothing ∧
        view ((p.serve ctx (.removeMember organization user)).run w s).state = (view s).without organization user) := by
  have hchained := hw.served Roster.isSteady_turns p ctx (.removeMember organization user) s
  rcases removal_course hw p ctx organization user s with ⟨hnone, hvalue⟩ | ⟨permissions, hread, -, hremoving⟩
  · rw [hnone] at hchained
    exact .inl ⟨hvalue, congrArg Roster.members (chained_nil.mp hchained)⟩
  · rcases Roster.released_end hremoving hchained with hkept | ⟨hvalue, hmembers, hgrants⟩
    · exact .inl hkept
    · right
      have hway := removal_amid hw hdistinct (amid_state s ctx (.removeMember organization user) (p := p))
      have hstored : ∀ g ∈ permissions.filter fun p => p.subject == user, g ∈ (view s).grants := by
        intro g hg
        exact ((hread g).mp (List.mem_filter.mp hg).1).1
      rw [Roster.filter_ids hdistinct hstored, Roster.toFinset_read hread] at hgrants
      exact ⟨hvalue, Roster.ext hway.organizations hmembers hgrants⟩

/-- A member who holds all rights keeps everything, and the reading of the permissions shows why. -/
theorem removal_of_owner (p : Platform) (ctx : Context) (hw : w.Follows view Roster.Turns)
    (howner : ∃ g ∈ (view s).held organization user, g.kind = .all) :
    (∀ e ∈ (p.serve ctx (.removeMember organization user)).trace w s, e.writes = false) ∧
      ShowsOwner ctx organization user ((p.serve ctx (.removeMember organization user)).trace w s) := by
  obtain ⟨g, hg, hkind⟩ := howner
  obtain ⟨hstored, htarget, hsubject⟩ := Roster.mem_held.mp hg
  rcases removal_course hw p ctx organization user s with ⟨hnone, -⟩ | ⟨permissions, hread, hcommon, -⟩
  · have hunwritten : ∀ e ∈ (p.serve ctx (.removeMember organization user)).trace w s, e.writes = false := by
      intro e he
      exact Bool.eq_false_iff.mpr (List.filter_eq_nil_iff.mp hnone e he)
    have hunchanged : ((p.serve ctx (.removeMember organization user)).trace w s).filter Event.changes = [] := by
      rw [Event.filter_changes, hnone]
      rfl
    refine ⟨hunwritten, ?_⟩
    intro permissions hmem
    obtain ⟨R₁, hturns⟩ := hw.early Roster.isSteady_turns (w.leads_trace _ s) (List.prefix_refl _) hunchanged hmem
    have hread : ∀ g, g ∈ permissions ↔ g ∈ (view s).grants ∧ g.target = organization := hturns.truthful _ _ rfl
    exact ⟨g, (hread g).mpr ⟨hstored, htarget⟩, hsubject, hkind⟩
  · exact absurd hkind (hcommon g ((hread g).mpr ⟨hstored, htarget⟩) hsubject)

/-- **A member is removed in order, whatever fails.** In a world that keeps its stores, with permissions under ids of their own,
let a user be removed from an organization. All that is written revokes permissions of this user on this organization, or ends
the membership; at every point the organizations are as they were, nothing but such permissions is lost, and once the membership is
gone the user holds nothing on the organization. A user who holds all rights keeps everything: nothing is written, and the removal, on
behalf of a principal and with proper ids, fails for want of a right unless reading the permissions fails, which is then what it
fails with. At the end of a removal that goes well nothing of the user is left on the organization and all else is as it was; at
the end of one that fails some of what they hold may be gone, and nothing else. -/
theorem removal_in_order (p : Platform) (ctx : Context) (organization user : Id) (w : World σ) (view : σ → Roster)
    (hw : w.Follows view Roster.Turns) (s : σ) (hdistinct : (view s).Distinct) :
    let served := p.serve ctx (.removeMember organization user)
    let reading : Call := .permissions (.getByTarget organization)
    (∀ e ∈ served.trace w s, e.writes = true →
      (∃ g ∈ (view s).held organization user, ∃ reply, e = .answered ctx (.permissions (.delete g.id)) reply) ∨
        ∃ reply, e = .answered ctx (.organizations (.removeMember organization user)) reply) ∧
    (∀ s', p.Amid w s ctx (.removeMember organization user) s' → (view s).Removal organization user (view s') ∧
      ((organization, user) ∈ (view s).members → (organization, user) ∉ (view s').members →
        (view s').held organization user = ∅)) ∧
    ((∃ g ∈ (view s).held organization user, g.kind = .all) →
      (∀ e ∈ served.trace w s, e.writes = false) ∧
      (∀ s', p.Amid w s ctx (.removeMember organization user) s' → view s' = view s) ∧
      (organization.names .organization = true → user.names .user = true → ctx.principal.isSome = true →
        ∃ cause, (served.run w s).value = .error (.join .organizationRemoveMember cause) ∧
          ((∀ f, (reading, f) ∉ failings (served.trace w s)) → cause = .kind .noPermission) ∧
          ∀ f, (reading, f) ∈ failings (served.trace w s) → cause = f)) ∧
    (∀ response, (served.run w s).value = .ok response →
      view (served.run w s).state = (view s).without organization user) ∧
    ∀ e, (served.run w s).value = .error e → ∃ lost ⊆ (view s).held organization user,
      view (served.run w s).state = ⟨(view s).organizations, (view s).members, (view s).grants \ lost⟩ := by
  intro served reading
  refine ⟨fun e he hwrites => removal_writes hw he hwrites, fun s' hamid => ?_, ?_, ?_, ?_⟩
  · have hway := removal_amid hw hdistinct hamid
    exact ⟨hway, hway.held_eq_empty⟩
  · intro howner
    obtain ⟨hunwritten, hshows⟩ := removal_of_owner p ctx hw howner
    refine ⟨hunwritten, ?_, fun horganization huser hprincipal => barred_serve horganization huser hprincipal hshows⟩
    rintro s' ⟨es, hes, hleads⟩
    have hunchanged : es.filter Event.changes = [] := by
      refine List.filter_eq_nil_iff.mpr fun e he hchanges => ?_
      have hwritten := hunwritten e (hes.subset he)
      rw [Event.writes_of_changes hchanges] at hwritten
      cases hwritten
    exact (hw.steady Roster.isSteady_turns).leads hleads hunchanged
  · intro response hok
    rcases removal_served p ctx organization user hw hdistinct with
      ⟨hnone, -⟩ | ⟨-, hgone⟩
    · rw [show ((p.serve ctx (.removeMember organization user)).run w s).value = .ok response from hok] at hnone
      cases hnone
    · exact hgone
  · intro e hfailed
    rcases removal_served p ctx organization user hw hdistinct with
      ⟨-, hkept⟩ | ⟨hsome, -⟩
    · have hway := removal_amid hw hdistinct (amid_state s ctx (.removeMember organization user) (p := p))
      obtain ⟨lost, hlost, hgrants⟩ := hway.grants
      exact ⟨lost, hlost, Roster.ext hway.organizations hkept hgrants⟩
    · rw [show ((p.serve ctx (.removeMember organization user)).run w s).value = .error e from hfailed] at hsome
      cases hsome

end Platform

/-! ## A scene -/

/-- A scene with an organization of two, of whom the first holds all rights and the second may read and write. -/
def Scene.staffed (faults : (c : Call) → Option c.Fault) : Scene where
  store :=
    let organization := Id.nth .organization 1
    let founded : Store :=
      { organizations := [{ Organization.fresh "acme" "a@b.c" with id := organization }]
        memberships := [⟨organization, Id.nth .user 1, LabelSet.empty⟩, ⟨organization, Id.nth .user 2, LabelSet.empty⟩] }
    founded.withPermission (Permission.fresh (Id.nth .user 1) organization .all)
      |>.withPermission (Permission.fresh (Id.nth .user 2) organization .read)
      |>.withPermission (Permission.fresh (Id.nth .user 2) organization .write)
  faults
  today := Store.creation

namespace Platform

/-- The second permission of a member cannot be revoked: the first is gone, and the member stays. -/
theorem removal_in_order_stuck :
    let s := Scene.staffed fun
      | .permissions (.delete id) => if id = Id.nth .permission 3 then some (.storage "full") else none
      | _ => none
    let outcome := ((bare 5).serve firstUser (.removeMember (Id.nth .organization 1) (Id.nth .user 2))).run Scene.strict s
    outcome.value = .error (.join .organizationRemoveMember (.repository (.storage "full"))) ∧
      outcome.state.permissionTable.card = 2 ∧
      ∃ lost ⊆ s.roster.held (Id.nth .organization 1) (Id.nth .user 2),
        outcome.state.roster = ⟨s.roster.organizations, s.roster.members, s.roster.grants \ lost⟩ := by
  intro s outcome
  have hvalue : outcome.value = .error (.join .organizationRemoveMember (.repository (.storage "full"))) := rfl
  have hinOrder := removal_in_order (bare 5) firstUser (Id.nth .organization 1) (Id.nth .user 2) Scene.strict
    Scene.roster Scene.strict_roster s (by decide +kernel)
  exact ⟨hvalue, by decide +kernel, hinOrder.2.2.2.2 _ hvalue⟩

/-- When the permissions cannot be read, the removal of a member who holds all rights does not fail for want of a right. -/
theorem owner_removal_unread :
    let s := Scene.staffed fun | .permissions (.getByTarget _) => some .notFound | _ => none
    let removal := Request.removeMember (Id.nth .organization 1) (Id.nth .user 1)
    (∃ g ∈ s.roster.held (Id.nth .organization 1) (Id.nth .user 1), g.kind = .all) ∧
      (((bare 5).serve firstUser removal).run Scene.strict s).value =
        .error (.join .organizationRemoveMember (.repository .notFound)) ∧
      ¬ ∀ (p : Platform) (ctx : Context) (organization user : Id) (s : Scene), organization.names .organization = true →
        user.names .user = true → ctx.principal.isSome = true → s.roster.Distinct →
        (∃ g ∈ s.roster.held organization user, g.kind = .all) →
        ((p.serve ctx (.removeMember organization user)).run Scene.strict s).value =
          .error (.join .organizationRemoveMember (.kind .noPermission)) := by
  intro s removal
  have howner : ∃ g ∈ s.roster.held (Id.nth .organization 1) (Id.nth .user 1), g.kind = .all := by decide +kernel
  have hvalue : (((bare 5).serve firstUser removal).run Scene.strict s).value =
      .error (.join .organizationRemoveMember (.repository .notFound)) := rfl
  refine ⟨howner, hvalue, ?_⟩
  intro always
  have hclaimed := always (bare 5) firstUser (Id.nth .organization 1) (Id.nth .user 1) s (by decide) (by decide) rfl
    (by decide +kernel) howner
  rw [hvalue] at hclaimed
  cases hclaimed

end Platform

end Tenancy
