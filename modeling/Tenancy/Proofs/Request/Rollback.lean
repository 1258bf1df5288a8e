import Tenancy.Proofs.World.Steady

/-!
# Failed requests leave no trace

In a world that is steady, a request that fails leaves all stores as they were, at whatever point a collaborator fails or the
context is done. An organization that was created before the failure is deleted again outside the context, so that nothing
remains of it unless that deletion fails too. The removal of a member is left out: what was revoked before the failure stays
revoked.
-/

namespace Tenancy

namespace World

variable {σ τ : Type}

/-- When an organization is created after events from `s₀` that change nothing, its deletion undoes the creation. -/
def Undoes (w : World σ) (view : σ → τ) (s₀ : σ) : Prop :=
  ∀ ctx owner organization (created : Organization) es s s₁ s₂ s₃, w.Leads s₀ es s → es.filter Event.changes = [] →
    w.Moves s (.answered ctx (.organizations (.create owner organization)) (.ok created)) s₁ → view s₂ = view s₁ →
    w.Moves s₂ (.insisted (.organizations (.delete created.id)) (.ok ())) s₃ → view s₃ = view s₀

/-- Events whose only changes are the creation of an organization and then its deletion lead back to what was seen. -/
theorem Steady.leads_undone {w : World σ} {view : σ → τ} (h : w.Steady view) {s s' : σ} (hundo : w.Undoes view s)
    {es : List Event} (hleads : w.Leads s es s') {ctx : Context} {owner : Id} {organization created : Organization}
    (hes : es.filter Event.changes = [.answered ctx (.organizations (.create owner organization)) (.ok created),
      .insisted (.organizations (.delete created.id)) (.ok ())]) : view s' = view s := by
  -- the events fall into those before the creation, those between it and the deletion, and those after
  obtain ⟨before, rest, rfl, hbefore, -, hrest⟩ := List.filter_eq_cons_iff.mp hes
  obtain ⟨between, after, rfl, hbetween, -, hafter⟩ := List.filter_eq_cons_iff.mp hrest
  obtain ⟨s₁, s₂, hleads₁, hcreate, hleads₂⟩ := leads_middle.mp hleads
  obtain ⟨s₃, s₄, hleads₃, hdelete, hleads₄⟩ := leads_middle.mp hleads₂
  have h₃ : view s₃ = view s₂ := h.leads hleads₃ (List.filter_eq_nil_iff.mpr hbetween)
  calc view s' = view s₄ := h.leads hleads₄ hafter
    _ = view s :=
      hundo ctx owner organization created before s₁ s₂ s₃ s₄ hleads₁ (List.filter_eq_nil_iff.mpr hbefore) hcreate h₃ hdelete

end World

/-- Without a response, all writes have failed, except that an organization may have been created and its deletion
attempted. -/
theorem Work.Writes.changes_of_none {ctx : Context} {es ws : List Event} {work : Work} (h : work.Writes ctx es ws none)
    (hwork : ∀ organization user, work ≠ .removal organization user) :
    ws.filter Event.changes = [] ∨ ∃ owner organization, ∃ created : Organization, ∃ undone,
      work = .founding owner organization ∧ .insisted (.organizations (.delete created.id)) undone ∈ ws ∧
        ws.filter Event.changes = .answered ctx (.organizations (.create owner organization)) (.ok created) ::
          [.insisted (.organizations (.delete created.id)) undone].filter Event.changes := by
  cases h with
  | withheld => exact .inl rfl
  | nothing => exact .inl rfl
  | failed fault => exact .inl rfl
  | unfounded fault => exact .inl rfl
  | interrupted created undone => exact .inr ⟨_, _, created, undone, rfl, by simp, rfl⟩
  | withdrawn created fault undone => exact .inr ⟨_, _, created, undone, rfl, by simp, rfl⟩
  | removal permissions hasked hquiet read common removing => exact absurd rfl (hwork _ _)

/-- A request that creates an organization without giving its owner all rights has no response. -/
theorem Work.Writes.none_of_ungranted {ctx : Context} {es ws : List Event} {work : Work} {response : Option Response}
    (h : work.Writes ctx es ws response) {owner : Id} {organization created : Organization}
    (hdeed : ∀ deed, work = .deed deed → deed.call ≠ .organizations (.create owner organization))
    (hcreated : .answered ctx (.organizations (.create owner organization)) (.ok created) ∈ ws)
    (hgrant : ∀ granted,
      .answered ctx (.permissions (.create (Permission.fresh owner created.id .all))) (.ok granted) ∉ ws) :
    response = none := by
  cases h with
  | nothing response => cases hcreated
  | done v =>
    have hcall := (Event.answered.inj (List.mem_singleton.mp hcreated)).2.1
    exact absurd hcall.symm (hdeed _ rfl)
  | founded created' granted =>
    rcases List.mem_cons.mp hcreated with hevent | hevent
    · cases hevent
      exact absurd (List.mem_cons_of_mem _ List.mem_cons_self) (hgrant granted)
    · cases List.mem_singleton.mp hevent
  | removal permissions hasked hquiet read common removing =>
    rcases removing.mem hcreated with ⟨permission, -, reply, hevent⟩ | ⟨reply, hevent⟩
    · cases hevent
    · cases hevent
  | _ => rfl

/-- **A failed request leaves no trace.** Only an organization whose deletion fails as well may remain; and a request that
creates an organization without giving its owner all rights fails. -/
theorem Platform.failed_leaves_no_trace {σ τ : Type} (p : Platform) (ctx : Context) (r : Request) (hr : r.isLetter = false)
    (hremove : ∀ organization user, r ≠ .removeMember organization user) (w : World σ) (view : σ → τ) (hw : w.Steady view)
    (s : σ) (hundo : w.Undoes view s) :
    ((∃ e, ((p.serve ctx r).run w s).value = .error e) → view ((p.serve ctx r).run w s).state = view s ∨
      ∃ owner organization, ∃ created : Organization, ∃ fault, r = .createOrganization owner organization ∧
        .answered ctx (.organizations (.create owner organization)) (.ok created) ∈ (p.serve ctx r).trace w s ∧
        .insisted (.organizations (.delete created.id)) (.error fault) ∈ (p.serve ctx r).trace w s) ∧
    ∀ owner organization, ∀ created : Organization,
      .answered ctx (.organizations (.create owner organization)) (.ok created) ∈ (p.serve ctx r).trace w s →
      (∀ granted, .answered ctx (.permissions (.create (Permission.fresh owner created.id .all))) (.ok granted) ∉
        (p.serve ctx r).trace w s) → ∃ e, ((p.serve ctx r).run w s).value = .error e := by
  have hwrites := (conducted p ctx hr w s).writes
  have hleads := w.leads_trace (p.serve ctx r) s
  constructor
  · rintro ⟨e, hfailed⟩
    rw [hfailed] at hwrites
    have hkept : ∀ organization user, r.work ≠ .removal organization user :=
      fun organization user hwork => hremove organization user (Request.eq_removeMember hwork)
    rcases hwrites.changes_of_none hkept with
      hnone | ⟨owner, organization, created, undone, hwork, hmem, hchanges⟩
    · left
      exact hw.leads hleads (by rw [Event.filter_changes, hnone])
    · rw [← Event.filter_changes] at hchanges
      cases undone with
      | ok v => exact .inl (hw.leads_undone hundo hleads hchanges)
      | error fault =>
        have hcreated := (List.mem_filter.mp (hchanges ▸ List.mem_cons_self)).1
        have hundone := (List.mem_filter.mp hmem).1
        exact .inr ⟨owner, organization, created, fault, Request.eq_createOrganization hwork, hcreated, hundone⟩
  · intro owner organization created hcreated hgrant
    have hnone := hwrites.none_of_ungranted (fun deed hwork => Request.deed_ne_create hwork owner organization)
      (List.mem_filter.mpr ⟨hcreated, rfl⟩) fun granted hmem => hgrant granted (List.mem_filter.mp hmem).1
    cases hvalue : ((p.serve ctx r).run w s).value with
    | ok v => rw [hvalue] at hnone; cases hnone
    | error e => exact ⟨e, rfl⟩

/-! ## A scene -/

namespace Scene

/-- The users, organizations, memberships and permissions that are stored in a scene. -/
def stored (s : Scene) : List User × List Organization × List Membership × List Permission :=
  (s.store.users, s.store.organizations, s.store.memberships, s.store.permissions)

/-- The deletion of an organization undoes its creation under an id that no organization and no membership has. -/
theorem undoes {s₀ : Scene} (horganizations : ∀ o ∈ s₀.store.organizations, o.id ≠ (s₀.store.next .organization).1)
    (hmemberships : ∀ m ∈ s₀.store.memberships, m.organization ≠ (s₀.store.next .organization).1) :
    world.Undoes stored s₀ := by
  intro ctx owner organization created es s s₁ s₂ s₃ hleads hes hcreate hseen hdelete
  have hstore : s.store = s₀.store := steady_store.leads hleads hes
  have hcreated := answered_ok hcreate rfl
  rw [hstore] at hcreated
  obtain ⟨hid, husers₁, horganizations₁, hmemberships₁, hpermissions₁⟩ := Store.answer_createOrganization hcreated
  obtain ⟨husers₃, horganizations₃, hmemberships₃, hpermissions₃⟩ :=
    Store.answer_deleteOrganization (insisted_ok hdelete rfl)
  simp only [stored, Prod.mk.injEq] at hseen ⊢
  obtain ⟨husers, horganizations₂, hmemberships₂, hpermissions⟩ := hseen
  rw [← hid] at horganizations hmemberships
  refine ⟨?_, ?_, ?_, ?_⟩
  · rw [husers₃, husers, husers₁]
  · rw [horganizations₃, horganizations₂, horganizations₁, List.filter_append]
    simpa using horganizations
  · rw [hmemberships₃, hmemberships₂, hmemberships₁, List.filter_append]
    simpa using hmemberships
  · rw [hpermissions₃, hpermissions, hpermissions₁]

end Scene

/-- A scene without organizations, in which writing takes time, and the first token is cancelled during the second write. -/
def Scene.hasty : Scene where
  delays c := if c.isWrite then 4 else 0
  timeline := { pending := [(6, 0)] }
  today := Store.creation

/-- The context is cancelled while the owner of a new organization is given rights; the organization is deleted again. -/
theorem Platform.failed_leaves_no_trace_cancelled :
    let founding := (bare 5).serve firstUser (.createOrganization (Id.nth .user 1) (Organization.fresh "acme" "a@b.c"))
    (founding.trace Scene.world Scene.hasty).countP Event.writes = 3 ∧
      Scene.stored (founding.run Scene.world Scene.hasty).state = Scene.stored Scene.hasty := by
  intro founding
  have hundone :
      (founding.trace Scene.world Scene.hasty).all (fun | .insisted _ (.error _) => false | _ => true) = true := by
    decide +kernel
  have hstored := (failed_leaves_no_trace (bare 5) firstUser (.createOrganization (Id.nth .user 1)
    (Organization.fresh "acme" "a@b.c")) rfl nofun Scene.world Scene.stored
    (Scene.steady_store.comp fun store => (store.users, store.organizations, store.memberships, store.permissions))
    Scene.hasty (Scene.undoes (fun _ h => absurd h List.not_mem_nil) fun _ h => absurd h List.not_mem_nil)).1 ⟨_, rfl⟩
  refine ⟨by decide +kernel, hstored.resolve_right ?_⟩
  rintro ⟨owner, organization, created, fault, -, -, hmem⟩
  exact Bool.false_ne_true (List.all_eq_true.mp hundone _ hmem)

end Tenancy
