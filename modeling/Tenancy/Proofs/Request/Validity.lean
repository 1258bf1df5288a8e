import Mathlib.Data.Set.Basic
import Tenancy.Proofs.Record.Validity
import Tenancy.Proofs.Request.Seal

/-!
# Stored records stay valid

Of a store it is relied on only that its records do not come from nowhere: each is one that was stored before, or one that a call
asked for, which is the record that the call gives, or one that is stored with the patch that the call gives
(`Table.Draws`). What becomes of calls that fail or are interrupted is left open. Requests ask only for valid records, and only
for patches that keep records valid, so that users and organizations that are valid at first are valid in every state that is
reached (`Platform.records_stay_valid`).
-/

namespace Tenancy

/-! ## What calls ask for -/

section

variable {α : Type} [Record α]

/-- A record that is stored for a change: the one that is given or patched, up to what the store adds. -/
def Change.Yields : Change α → Set α → α → Prop
  | created given _, _, row => Record.Resembles row given
  | updated _ patch _, rows, row => ∃ old ∈ rows, Record.Resembles row (patch old)
  | deleted _, _, _ => False

/-- A table draws its records from those that were stored before, and from those that a call asks for. -/
def Table.Draws (rows : Set α) (e : Event) (rows' : Set α) : Prop :=
  ∀ row ∈ rows', row ∈ rows ∨
    ∃ c v change, e.call? = some c ∧ Record.change? c v = some change ∧ change.Yields rows row

/-- A change gives a valid record, or a patch that keeps records valid. -/
def Change.Keeps (Valid : α → Prop) : Change α → Prop
  | created given _ => Valid given
  | updated _ patch _ => ∀ row, Valid row → Valid (patch row)
  | deleted _ => True

/-- A call asks only for what keeps records valid. -/
def Call.Keeps (Valid : α → Prop) (c : Call) : Prop := ∀ v change, Record.change? c v = some change → change.Keeps Valid

variable {Valid : α → Prop}

/-- A call that only reads asks for nothing. -/
theorem Call.keeps_of_read {c : Call} (h : c.isWrite = false) : c.Keeps Valid := by
  intro v change hchange
  rw [Record.isWrite_of_change c v change hchange] at h
  cases h

/-- A table whose records are valid has valid records after an event that keeps them so. -/
theorem Table.Draws.valid {rows rows' : Set α} {e : Event} (h : Table.Draws rows e rows')
    (hcongr : ∀ a b : α, Record.Resembles a b → Valid b → Valid a) (hcall : ∀ c, e.call? = some c → c.Keeps Valid)
    (hrows : ∀ row ∈ rows, Valid row) : ∀ row ∈ rows', Valid row := by
  intro row hrow
  rcases h row hrow with hold | ⟨c, v, change, hc, hchange, hyields⟩
  · exact hrows row hold
  · have hkeeps := hcall c hc v change hchange
    cases change with
    | created given stored => exact hcongr _ _ hyields hkeeps
    | updated id patch stored =>
      obtain ⟨old, hold, hresembles⟩ := hyields
      exact hcongr _ _ hresembles (hkeeps old (hrows old hold))
    | deleted id => cases hyields

/-- A table that changes as it is told to draws its records from where it should. -/
theorem Table.Turns.draws [DecidableEq α] {rows rows' : Finset α} {e : Event} (h : Table.Turns rows e rows') :
    Table.Draws (rows : Set α) e rows' := by
  intro row hrow
  unfold Table.Turns at h
  cases hchange : e.change? α with
  | none =>
    rw [hchange] at h
    obtain rfl : rows' = rows := h
    exact .inl hrow
  | some change =>
    rw [hchange] at h
    obtain ⟨hsound, rfl⟩ := h
    obtain ⟨⟨c, v⟩, hdone, hchange⟩ := Option.bind_eq_some_iff.mp hchange
    have hcall : e.call? = some c := Event.call_of_done hdone
    cases change with
    | created given stored =>
      rcases Finset.mem_insert.mp hrow with rfl | hold
      · exact .inr ⟨c, v, _, hcall, hchange, hsound⟩
      · exact .inl hold
    | updated id patch stored =>
      rcases Finset.mem_insert.mp hrow with rfl | hold
      · obtain ⟨-, old, hold, -, hresembles⟩ := hsound
        exact .inr ⟨c, v, _, hcall, hchange, old, hold, hresembles⟩
      · exact .inl (Finset.mem_filter.mp hold).1
    | deleted id => exact .inl (Finset.mem_filter.mp hrow).1

end

/-! ## What requests ask for -/

namespace Request

/-- The record or patch that comes with a request that may act is in order. -/
def IsSound (r : Request) : Prop := ∃ policy, r.policy? = some policy ∧ policy.sound = true

/-- The record or patch of a request whose policy is met is in order. -/
theorem Met.isSound {r : Request} {license : License} {ctx : Context} {es : List Event} (h : r.Met license ctx es) :
    r.IsSound := by
  obtain ⟨policy, hpolicy, hmet⟩ := h
  exact ⟨policy, hpolicy, hmet.sound⟩

/-- The calls by which a request writes: its deed, or the creation of its organization, or calls that store no user and no
organization. -/
theorem call_of_writes {r : Request} {ctx : Context} {es ws : List Event} {response : Option Response}
    (h : r.work.Writes ctx es ws response) {e : Event} (he : e ∈ ws) {c : Call} (hc : e.call? = some c) :
    (∃ deed, r.work = .deed deed ∧ c = deed.call) ∨
    (∃ owner organization, r = .createOrganization owner organization ∧ c = .organizations (.create owner organization)) ∨
    (∃ id, c = .organizations (.delete id)) ∨
    (∃ organization user, c = .organizations (.removeMember organization user)) ∨
    (∃ permission, c = .permissions (.create permission)) ∨ ∃ id, c = .permissions (.delete id) := by
  generalize hwork : r.work = work at h
  cases h with
  | withheld => cases he
  | nothing response => cases he
  | done v =>
    obtain rfl := List.mem_singleton.mp he
    exact .inl ⟨_, rfl, (Option.some.inj hc).symm⟩
  | failed fault =>
    obtain rfl := List.mem_singleton.mp he
    exact .inl ⟨_, rfl, (Option.some.inj hc).symm⟩
  | unfounded fault =>
    obtain rfl := List.mem_singleton.mp he
    exact .inr (.inl ⟨_, _, eq_createOrganization hwork, (Option.some.inj hc).symm⟩)
  | founded created granted =>
    rcases List.mem_cons.mp he with rfl | he
    · exact .inr (.inl ⟨_, _, eq_createOrganization hwork, (Option.some.inj hc).symm⟩)
    · obtain rfl := List.mem_singleton.mp he
      exact .inr (.inr (.inr (.inr (.inl ⟨_, (Option.some.inj hc).symm⟩))))
  | interrupted created undone =>
    rcases List.mem_cons.mp he with rfl | he
    · exact .inr (.inl ⟨_, _, eq_createOrganization hwork, (Option.some.inj hc).symm⟩)
    · obtain rfl := List.mem_singleton.mp he
      exact .inr (.inr (.inl ⟨_, (Option.some.inj hc).symm⟩))
  | withdrawn created fault undone =>
    rcases List.mem_cons.mp he with rfl | he
    · exact .inr (.inl ⟨_, _, eq_createOrganization hwork, (Option.some.inj hc).symm⟩)
    rcases List.mem_cons.mp he with rfl | he
    · exact .inr (.inr (.inr (.inr (.inl ⟨_, (Option.some.inj hc).symm⟩))))
    · obtain rfl := List.mem_singleton.mp he
      exact .inr (.inr (.inl ⟨_, (Option.some.inj hc).symm⟩))
  | removal permissions hasked hquiet read common removing =>
    rcases removing.mem he with ⟨permission, -, reply, rfl⟩ | ⟨reply, rfl⟩
    · exact .inr (.inr (.inr (.inr (.inr ⟨_, (Option.some.inj hc).symm⟩))))
    · exact .inr (.inr (.inr (.inl ⟨_, _, (Option.some.inj hc).symm⟩)))

/-- The deed of a request whose record or patch is in order keeps users valid. -/
theorem keeps_user_deed {r : Request} (hr : r.IsSound) {deed : Deed} (hwork : r.work = .deed deed) :
    deed.call.Keeps User.Valid := by
  obtain ⟨policy, hpolicy, hsound⟩ := hr
  intro v change hchange
  cases r with
  | createUser user =>
    cases hwork; cases hpolicy; cases hchange
    have hvalid : user.Valid := List.isEmpty_iff.mp (Bool.and_eq_true_iff.mp hsound).2
    exact Accounts.valid_sealed hvalid
  | updateUser id patch =>
    cases hwork; cases hpolicy; cases hchange
    have hvalid : patch.Valid := List.isEmpty_iff.mp (Bool.and_eq_true_iff.mp hsound).2
    exact fun row hrow => (Accounts.valid_sealedPatch hvalid).apply hrow
  | deleteUser id force =>
    cases force with
    | true => cases hwork; cases hchange; trivial
    | false => cases hwork; cases hchange; exact fun row hrow => UserPatch.valid_softDelete.apply hrow
  | deleteOrganization id force => cases force <;> cases hwork <;> cases hchange
  | _ => cases hwork <;> cases hchange

/-- The deed of a request whose record or patch is in order keeps organizations valid. -/
theorem keeps_organization_deed {r : Request} (hr : r.IsSound) {deed : Deed} (hwork : r.work = .deed deed) :
    deed.call.Keeps Organization.Valid := by
  obtain ⟨policy, hpolicy, hsound⟩ := hr
  intro v change hchange
  cases r with
  | updateOrganization id patch =>
    cases hwork; cases hpolicy; cases hchange
    have hvalid : patch.Valid := List.isEmpty_iff.mp (Bool.and_eq_true_iff.mp hsound).2
    exact fun row hrow => hvalid.apply hrow
  | deleteOrganization id force =>
    cases force with
    | true => cases hwork; cases hchange; trivial
    | false => cases hwork; cases hchange; exact fun row hrow => OrganizationPatch.valid_softDelete.apply hrow
  | deleteUser id force => cases force <;> cases hwork <;> cases hchange
  | _ => cases hwork <;> cases hchange

/-- All that a request writes keeps users valid. -/
theorem keeps_user {r : Request} (hr : r.IsSound) {ctx : Context} {es ws : List Event} {response : Option Response}
    (h : r.work.Writes ctx es ws response) {e : Event} (he : e ∈ ws) {c : Call} (hc : e.call? = some c) :
    c.Keeps User.Valid := by
  rcases call_of_writes h he hc with ⟨deed, hwork, rfl⟩ | ⟨_, _, rfl, rfl⟩ | ⟨_, rfl⟩ | ⟨_, _, rfl⟩ | ⟨_, rfl⟩ | ⟨_, rfl⟩
  · exact keeps_user_deed hr hwork
  all_goals exact fun v change hchange => by cases hchange

/-- All that a request writes keeps organizations valid. -/
theorem keeps_organization {r : Request} (hr : r.IsSound) {ctx : Context} {es ws : List Event}
    {response : Option Response} (h : r.work.Writes ctx es ws response) {e : Event} (he : e ∈ ws) {c : Call}
    (hc : e.call? = some c) : c.Keeps Organization.Valid := by
  rcases call_of_writes h he hc with ⟨deed, hwork, rfl⟩ | ⟨_, _, rfl, rfl⟩ | ⟨_, rfl⟩ | ⟨_, _, rfl⟩ | ⟨_, rfl⟩ | ⟨_, rfl⟩
  · exact keeps_organization_deed hr hwork
  · obtain ⟨policy, hpolicy, hsound⟩ := hr
    cases hpolicy
    exact fun v change hchange => by cases hchange; exact List.isEmpty_iff.mp hsound
  all_goals exact fun v change hchange => by cases hchange <;> trivial

end Request

/-! ## Runs -/

/-- A user that resembles a valid one is valid. -/
theorem User.Resembles.valid {u v : User} (h : u.Resembles v) (hv : v.Valid) : u.Valid := by
  rw [h]
  exact hv

/-- An organization that resembles a valid one is valid. -/
theorem Organization.Resembles.valid {o q : Organization} (h : o.Resembles q) (hq : q.Valid) : o.Valid := by
  rw [h]
  exact hq

namespace Platform

variable {σ α : Type} [Record α] {p : Platform} {w : World σ} {ctx : Context} {r : Request} {s s₁ s₂ : σ}

/-- A call that is made for a request that is conducted keeps records valid when all that such a request writes does. -/
theorem keeps_trace {Valid : α → Prop}
    (hwrites : ∀ {r : Request}, r.IsSound → ∀ {ctx es ws response}, r.work.Writes ctx es ws response →
      ∀ {e}, e ∈ ws → ∀ {c}, e.call? = some c → c.Keeps Valid)
    (hr : r.isLetter = false) {before after : List Event} {e : Event}
    (htrace : (p.serve ctx r).trace w s = before ++ e :: after) {c : Call} (hc : e.call? = some c) : c.Keeps Valid := by
  have hconducted := p.conducted ctx hr w s
  cases hwrite : c.isWrite with
  | false => exact Call.keeps_of_read hwrite
  | true =>
    have hevent : e.writes = true := Event.writes_of_call hc hwrite
    have hsound : r.IsSound := (hconducted.orderly before e after htrace (by simp [Event.acts, hevent])).isSound
    exact hwrites hsound hconducted.writes (List.mem_filter.mpr ⟨by rw [htrace]; simp, hevent⟩) hc

variable {users : σ → Set User} {organizations : σ → Set Organization} {s₀ : σ}

/-- **Stored records stay valid.** When all users and organizations are valid at first, they are valid in every state that is
reached, whichever requests are served, under whichever contexts, and whatever fails. Every valid patch makes a valid record of a
valid one, and so do the replacement of the password by the unusable one and the deletion that keeps the record. -/
theorem records_stay_valid (husers : w.Follows users Table.Draws) (horganizations : w.Follows organizations Table.Draws)
    (h₀ : (∀ u ∈ users s₀, u.Valid) ∧ ∀ o ∈ organizations s₀, o.Valid) :
    (∀ s, p.Reaches w (fun s => (users s, organizations s)) (fun _ r => r.isLetter = false) s₀ s →
      (∀ u ∈ users s, u.Valid) ∧ ∀ o ∈ organizations s, o.Valid) ∧
    (∀ (patch : UserPatch) (u : User), patch.Valid → u.Valid → (patch.apply u).Valid) ∧
    (∀ (patch : OrganizationPatch) (o : Organization), patch.Valid → o.Valid → (patch.apply o).Valid) ∧
    (∀ u : User, u.Valid →
      ({ u with password := User.unusablePassword } : User).Valid ∧ (UserPatch.softDelete.apply u).Valid) ∧
    ∀ o : Organization, o.Valid → (OrganizationPatch.softDelete.apply o).Valid := by
  refine ⟨fun s hreaches => ?_, fun _ _ => UserPatch.Valid.apply, fun _ _ => OrganizationPatch.Valid.apply,
    fun u hu => ⟨hu.unusable, UserPatch.valid_softDelete.apply hu⟩, fun o ho => OrganizationPatch.valid_softDelete.apply ho⟩
  refine hreaches.induction (P := fun s => (∀ u ∈ users s, u.Valid) ∧ ∀ o ∈ organizations s, o.Valid) h₀
    (fun s s' hsame hs => ?_) fun ctx r s before e after s₁ s₂ hr htrace hleads hbefore hmoves => ?_
  · obtain ⟨hu, ho⟩ := Prod.mk.inj hsame
    rw [hu, ho]
    exact hs
  · obtain ⟨hvalidUsers, hvalidOrganizations⟩ := hbefore before s₁ (List.prefix_refl _) hleads
    exact ⟨(husers s₁ e s₂ hmoves).valid (fun _ _ => User.Resembles.valid)
        (fun c hc => keeps_trace Request.keeps_user hr htrace hc) hvalidUsers,
      (horganizations s₁ e s₂ hmoves).valid (fun _ _ => Organization.Resembles.valid)
        (fun c hc => keeps_trace Request.keeps_organization hr htrace hc) hvalidOrganizations⟩

end Platform

/-! ## A scene -/

namespace Scene

/-- The users of a scene are drawn from the calls that made them. -/
theorem draws_users : world.Follows (fun s => (s.userTable : Set User)) Table.Draws :=
  fun s e s' hmoves => (follows_users s e s' hmoves).draws

/-- The organizations of a scene are drawn from the calls that made them. -/
theorem draws_organizations : world.Follows (fun s => (s.organizationTable : Set Organization)) Table.Draws :=
  fun s e s' hmoves => (follows_organizations s e s' hmoves).draws

end Scene

namespace Platform

/-- A user who is created, and then deleted but kept, is valid all along. -/
theorem records_stay_valid_departure :
    ((∀ u ∈ (Scene.vacant.userTable : Set User), u.Valid) ∧
      ∀ o ∈ (Scene.vacant.organizationTable : Set Organization), o.Valid) ∧
    (∀ u ∈ (((bare 5).serveAll Scene.world Scene.vacant departure).userTable : Set User), u.Valid) ∧
    ((bare 5).serveAll Scene.world Scene.vacant departure).store.users.map User.status = [.deleted] := by
  have hvacant : (∀ u ∈ (Scene.vacant.userTable : Set User), u.Valid) ∧
      ∀ o ∈ (Scene.vacant.organizationTable : Set Organization), o.Valid :=
    ⟨fun u hu => absurd (List.mem_toFinset.mp hu) List.not_mem_nil,
      fun o ho => absurd (List.mem_toFinset.mp ho) List.not_mem_nil⟩
  have hcreated : (bare 5).Reaches Scene.world
      (fun s => ((s.userTable : Set User), (s.organizationTable : Set Organization))) (fun _ r => r.isLetter = false)
      Scene.vacant ((bare 5).serveAll Scene.world Scene.vacant (departure.take 1)) := Reaches.start.after rfl
  have hdeleted : (bare 5).Reaches Scene.world
      (fun s => ((s.userTable : Set User), (s.organizationTable : Set Organization))) (fun _ r => r.isLetter = false)
      Scene.vacant ((bare 5).serveAll Scene.world Scene.vacant departure) := hcreated.after rfl
  have hvalid := (records_stay_valid (p := bare 5) Scene.draws_users Scene.draws_organizations hvacant).1 _ hdeleted
  exact ⟨hvacant, hvalid.1, by decide +kernel⟩

end Platform

end Tenancy
