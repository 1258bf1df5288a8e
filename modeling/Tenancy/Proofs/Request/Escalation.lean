import Mathlib.Data.Set.Basic
import Tenancy.Proofs.Request.Reach
import Tenancy.Proofs.World.Steady

/-!
# No escalation of privileges

Those who do not hold all rights on a resource cannot get them, nor give anyone a right on it, whatever they ask of the
platform and however the collaborators fail. A grant is stored for two reasons only: someone who holds all rights on its
target grants it, or its target is an organization that was just created.
-/

namespace Tenancy

/-- What is relied on of the world: how grants come to be stored, and which ids have occurred in the stores so far. -/
structure World.KeepsGrants {σ : Type} (w : World σ) (grants : σ → Set Permission) (seen : σ → Set Id) : Prop where
  /-- A lookup is answered by yes only when a stored grant has the subject, the target and one of the kinds. -/
  honest : ∀ s s' ctx subject target kinds,
    w.Moves s (.answered ctx (.access (.hasPermission subject target kinds)) (.ok true)) s' →
    ∃ g ∈ grants s, g.subject = subject ∧ g.target = target ∧ g.kind ∈ kinds
  /-- A grant was stored before, or it is the one that a call creates, up to its id and its times. -/
  granted : ∀ s e s', w.Moves s e s' → ∀ g ∈ grants s', g ∈ grants s ∨
    ∃ permission : Permission, e.call? = some (.permissions (.create permission)) ∧ g.subject = permission.subject ∧
      g.target = permission.target ∧ g.kind = permission.kind
  /-- Organizations are created under ids that have not occurred. -/
  fresh : ∀ s s' ctx owner organization (created : Organization),
    w.Moves s (.answered ctx (.organizations (.create owner organization)) (.ok created)) s' → created.id ∉ seen s
  /-- What has occurred has occurred ever after. -/
  remembered : ∀ s e s', w.Moves s e s' → seen s ⊆ seen s'

/-- What has occurred has occurred after any number of events. -/
theorem World.KeepsGrants.seen_mono {σ : Type} {w : World σ} {grants : σ → Set Permission} {seen : σ → Set Id}
    (h : w.KeepsGrants grants seen) {s s' : σ} {es : List Event} (hleads : w.Leads s es s') : seen s ⊆ seen s' := by
  induction es generalizing s with
  | nil => rw [show s' = s from hleads]
  | cons e es ih =>
    obtain ⟨s₁, hmoves, hleads⟩ := hleads
    exact (h.remembered s e s₁ hmoves).trans (ih hleads)

/-- Only a deed creates a permission, or the founding of an organization, for its owner. -/
theorem Work.Writes.of_createPermission {ctx : Context} {es ws : List Event} {work : Work} {response : Option Response}
    (h : work.Writes ctx es ws response) {e : Event} (he : e ∈ ws) {permission : Permission}
    (hcall : e.call? = some (.permissions (.create permission))) :
    (∃ deed, work = .deed deed ∧ deed.call = .permissions (.create permission)) ∨
      ∃ owner organization, ∃ created : Organization, work = .founding owner organization ∧
        permission = Permission.fresh owner created.id .all ∧
        .answered ctx (.organizations (.create owner organization)) (.ok created) ∈ ws := by
  cases h with
  | withheld => cases he
  | nothing response => cases he
  | done v =>
    obtain rfl := List.mem_singleton.mp he
    exact .inl ⟨_, rfl, Option.some.inj hcall⟩
  | failed fault =>
    obtain rfl := List.mem_singleton.mp he
    exact .inl ⟨_, rfl, Option.some.inj hcall⟩
  | unfounded fault =>
    obtain rfl := List.mem_singleton.mp he
    cases hcall
  | founded created granted =>
    simp only [List.mem_cons, List.not_mem_nil, or_false] at he
    rcases he with rfl | rfl
    · cases hcall
    · cases hcall
      exact .inr ⟨_, _, created, rfl, rfl, List.mem_cons_self⟩
  | interrupted created undone =>
    simp only [List.mem_cons, List.not_mem_nil, or_false] at he
    rcases he with rfl | rfl
    · cases hcall
    · cases hcall
  | withdrawn created fault undone =>
    simp only [List.mem_cons, List.not_mem_nil, or_false] at he
    rcases he with rfl | rfl | rfl
    · cases hcall
    · cases hcall
      exact .inr ⟨_, _, created, rfl, rfl, List.mem_cons_self⟩
    · cases hcall
  | removal permissions hasked hquiet read common removing =>
    rcases removing.mem he with ⟨permission, -, reply, rfl⟩ | ⟨reply, rfl⟩
    · cases hcall
    · cases hcall

namespace Platform

variable {σ : Type} {p : Platform} {w : World σ} {grants : σ → Set Permission} {seen : σ → Set Id}

/-- All rights on the target of a grant are looked up, and found, before it is created. -/
theorem granted_before {ctx : Context} {permission : Permission} {s : σ} {before after : List Event} {e : Event}
    (htrace : (p.serve ctx (.grant permission)).trace w s = before ++ e :: after) (he : e.acts = true) :
    ∃ principal, ctx.principal = some principal ∧
      .answered ctx (.access (.hasPermission principal permission.target [.all])) (.ok true) ∈ before := by
  obtain ⟨policy, hpolicy, hmet⟩ := (conducted p ctx rfl w s).orderly before e after htrace he
  cases hpolicy
  obtain ⟨_, -, -, hexempt | ⟨target, rfl, principal, hprincipal, hmem⟩⟩ := hmet.allowed
  · cases hexempt
  · exact ⟨principal, hprincipal, hmem⟩

/-- The grants on a target are among those that were stored at first, and the target is known. -/
structure Untouched (grants : σ → Set Permission) (seen : σ → Set Id) (s₀ : σ) (target : Id) (s : σ) : Prop where
  among : ∀ g ∈ grants s, g.target = target → g ∈ grants s₀
  known : target ∈ seen s

/-- On behalf of those who do not hold all rights on a target, no event of a request touches the grants on it. -/
theorem untouched_step (hw : w.KeepsGrants grants seen) {s₀ : σ} {target : Id} {A : Set Id}
    (hA : ∀ a ∈ A, ∀ g ∈ grants s₀, g.subject = a → g.target = target → g.kind ≠ .all) {ctx : Context} {r : Request}
    (hr : r.isLetter = false) (hctx : ∀ a, ctx.principal = some a → a ∈ A) {s s₁ s₂ : σ} {before after : List Event}
    {e : Event}
    (htrace : (p.serve ctx r).trace w s = before ++ e :: after) (hbefore : w.Leads s before s₁)
    (hall : ∀ earlier s', earlier <+: before → w.Leads s earlier s' → Untouched grants seen s₀ target s')
    (hmoves : w.Moves s₁ e s₂) : Untouched grants seen s₀ target s₂ := by
  have hs : Untouched grants seen s₀ target s := hall [] s List.nil_prefix (World.Leads.nil w s)
  have hs₁ : Untouched grants seen s₀ target s₁ := hall before s₁ (List.prefix_refl before) hbefore
  refine ⟨fun g hg hgtarget => ?_, hw.remembered s₁ e s₂ hmoves hs₁.known⟩
  rcases hw.granted s₁ e s₂ hmoves g hg with hg | ⟨permission, hcall, -, hpermission, -⟩
  · exact hs₁.among g hg hgtarget
  · exfalso
    have he : e.writes = true := Event.writes_of_call hcall rfl
    have hmem : e ∈ ((p.serve ctx r).trace w s).filter Event.writes := List.mem_filter.mpr ⟨by simp [htrace], he⟩
    rcases (conducted p ctx hr w s).writes.of_createPermission hmem hcall with
      ⟨deed, hwork, hdeed⟩ | ⟨owner, organization, created, hwork, rfl, hcreated⟩
    · -- the request is to grant the permission: whoever makes it was found to hold all rights on the target
      obtain rfl := Request.eq_grant hwork hdeed
      obtain ⟨a, ha, hlookup⟩ := granted_before htrace (by simp [Event.acts, he])
      obtain ⟨asked, later, rfl⟩ := List.append_of_mem hlookup
      obtain ⟨s₃, s₄, hasked, hanswer, -⟩ := World.leads_middle.mp hbefore
      obtain ⟨g', hg', hsubject, htarget, hkind⟩ := hw.honest s₃ s₄ ctx a permission.target [.all] hanswer
      have htarget : g'.target = target := by rw [htarget, ← hpermission, hgtarget]
      have hg' := (hall asked s₃ (List.prefix_append asked _) hasked).among g' hg' htarget
      exact hA a (hctx a ha) g' hg' hsubject htarget (List.mem_singleton.mp hkind)
    · -- the permission is for the owner of an organization, whose id cannot be that of the target
      obtain ⟨asked, later, hsplit⟩ := List.append_of_mem (List.mem_filter.mp hcreated).1
      have hleads := w.leads_trace (p.serve ctx r) s
      rw [hsplit] at hleads
      obtain ⟨s₃, s₄, hasked, hanswer, -⟩ := World.leads_middle.mp hleads
      have hid : created.id = target := hpermission.symm.trans hgtarget
      exact hw.fresh s₃ s₄ ctx owner organization created hanswer (hid ▸ hw.seen_mono hasked hs.known)

/-- **No escalation of privileges.** As long as requests are made on behalf of nobody, or of some who do not hold all rights
on a resource, the grants on it are among those that were stored at first, and none of them comes to hold all rights on
it. -/
theorem no_escalation (hw : w.KeepsGrants grants seen) (s₀ : σ) (target : Id) (htarget : target ∈ seen s₀) (A : Set Id)
    (hA : ∀ a ∈ A, ∀ g ∈ grants s₀, g.subject = a → g.target = target → g.kind ≠ .all) {s : σ}
    (hs : p.Reaches w (fun s => (grants s, seen s))
      (fun ctx r => r.isLetter = false ∧ ∀ a, ctx.principal = some a → a ∈ A) s₀ s) :
    (∀ g ∈ grants s, g.target = target → g ∈ grants s₀) ∧
      ∀ a ∈ A, ∀ g ∈ grants s, g.subject = a → g.target = target → g.kind ≠ .all := by
  have huntouched : Untouched grants seen s₀ target s := by
    refine hs.induction ⟨fun g hg _ => hg, htarget⟩ (fun s s' same h => ?_)
      fun ctx r s before e after s₁ s₂ hallowed htrace hbefore hall hmoves => ?_
    · obtain ⟨hgrants, hseen⟩ := Prod.mk.inj same
      exact ⟨fun g hg => h.among g (hgrants ▸ hg), hseen ▸ h.known⟩
    · exact untouched_step hw hA hallowed.1 hallowed.2 htrace hbefore hall hmoves
  exact ⟨huntouched.among, fun a ha g hg hsubject hgtarget =>
    hA a ha g (huntouched.among g hg hgtarget) hsubject hgtarget⟩

end Platform

/-! ## A scene -/

namespace Store

variable {s s' : Store}

/-- A permission is stored after a call when it was before, or when the call creates it. -/
theorem answer_granted {c : Call} {g : Permission} (h : g ∈ (s.answer c).2.permissions) : g ∈ s.permissions ∨
    ∃ permission : Permission, c = .permissions (.create permission) ∧ g.subject = permission.subject ∧
      g.target = permission.target ∧ g.kind = permission.kind := by
  cases c with
  | users c => exact .inl ((answerUsers_frame (s := s) c).2.2 ▸ h)
  | organizations c => exact .inl ((answerOrganizations_frame (s := s) c).2 ▸ h)
  | permissions c =>
    cases c with
    | create permission =>
      rcases List.mem_append.mp h with h | h
      · exact .inl h
      · obtain rfl := List.mem_singleton.mp h
        exact .inr ⟨permission, rfl, rfl, rfl, rfl⟩
    | delete id =>
      simp only [answer, answerPermissions] at h
      split at h
      · exact .inl (List.mem_filter.mp h).1
      · exact .inl h
    | get id => exact .inl (answer_read (c := .permissions (.get id)) (s := s) rfl ▸ h)
    | getByTarget target => exact .inl h
  | _ => exact .inl h

end Store

/-- A scene keeps grants, and creates organizations under ids of their own type. -/
theorem Scene.keepsGrants :
    world.KeepsGrants (fun s => {g | g ∈ s.store.permissions}) fun _ => {id | id.kind ≠ .organization} where
  honest s s' ctx subject target kinds hmoves := by
    have hyes : s.store.grants (.hasPermission subject target kinds) = true :=
      Except.ok.inj (Prod.mk.inj (answered_ok hmoves rfl)).1
    obtain ⟨g, hg, hmatch⟩ := List.any_eq_true.mp hyes
    simp only [Bool.and_eq_true, beq_iff_eq, List.contains_iff_mem] at hmatch
    exact ⟨g, hg, hmatch.1.1, hmatch.1.2, hmatch.2⟩
  granted s e s' hmoves g hg := by
    rcases moves_cases hmoves with ⟨hstore, -⟩ | ⟨c, v, hdone, hanswer⟩
    · exact .inl (hstore ▸ hg)
    · have hg : g ∈ (s.store.answer c).2.permissions := by rw [hanswer]; exact hg
      rcases Store.answer_granted hg with hg | ⟨permission, rfl, hsame⟩
      · exact .inl hg
      · exact .inr ⟨permission, Event.call_of_done hdone, hsame⟩
  fresh s s' ctx owner organization created hmoves := by
    have hcreated := Except.ok.inj (Prod.mk.inj (answered_ok hmoves rfl)).1
    exact fun h => h (congrArg (fun o : Organization => o.id.kind) hcreated).symm
  remembered s e s' hmoves := subset_rfl

/-- A scene in which a user may write to another one, but does not hold all rights on them. -/
def Scene.shared : Scene where
  store := ({} : Store).withPermission (Permission.fresh (Id.nth .user 1) (Id.nth .user 2) .write)
  today := Store.creation

/-- Who may write to another user cannot give themselves all rights on them, not even as the owner of an organization. -/
theorem Platform.no_escalation_shared :
    let owning := Request.createOrganization (Id.nth .user 1) (Organization.fresh "acme" "a@b.c")
    let granting := Request.grant (Permission.fresh (Id.nth .user 1) (Id.nth .user 2) .all)
    let owned := (((bare 5).serve firstUser owning).run Scene.world Scene.shared).state
    let refused := (((bare 5).serve firstUser granting).run Scene.world owned).state
    refused.store.permissions.length = 2 ∧
      ∀ g ∈ refused.store.permissions, g.target = Id.nth .user 2 → g ∈ Scene.shared.store.permissions := by
  intro owning granting owned refused
  refine ⟨by decide +kernel, ?_⟩
  have hallowed : ∀ a, firstUser.principal = some a → a ∈ ({Id.nth .user 1} : Set Id) :=
    fun a ha => (Option.some.inj ha).symm
  refine (no_escalation (p := bare 5) Scene.keepsGrants Scene.shared (Id.nth .user 2) (by decide) {Id.nth .user 1} ?_
    ((Reaches.start.after ⟨rfl, hallowed⟩).after ⟨rfl, hallowed⟩)).1
  intro a _ g hg _ _
  obtain rfl := List.mem_singleton.mp hg
  decide

end Tenancy
