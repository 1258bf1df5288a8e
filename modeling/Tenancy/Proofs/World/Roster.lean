import Tenancy.Proofs.World.Checked

/-!
# Rosters

What is stored about organizations: the organizations themselves, who is a member of which, and the permissions that were
granted. What is relied on of the stores (`Roster.Turns`) is that organizations and permissions are tables, that memberships
come and go with the calls that say so, that an organization is created under an id that is not in use, with its owner as a
member, and that the permissions on a target are read as they are stored.
-/

namespace Tenancy

/-- The organizations, pairs of an organization and a member, and permissions that are stored. -/
@[ext]
structure Roster where
  organizations : Finset Organization
  members : Finset (Id × Id)
  grants : Finset Permission

namespace Roster

/-- Nothing that is stored is about an id. -/
def Unused (R : Roster) (id : Id) : Prop :=
  (∀ o ∈ R.organizations, o.id ≠ id) ∧ (∀ m ∈ R.members, m.1 ≠ id) ∧ ∀ g ∈ R.grants, g.target ≠ id

/-- The memberships after a call is answered. -/
def enlist (members : Finset (Id × Id)) : (c : Call) → c.Value → Finset (Id × Id)
  | .organizations (.create owner _), (created : Organization) => insert (created.id, owner) members
  | .organizations (.delete id), _ => {m ∈ members | m.1 ≠ id}
  | .organizations (.addMember organization user), _ => insert (organization, user) members
  | .organizations (.removeMember organization user), _ => members.erase (organization, user)
  | _, _ => members

/-- A call that only reads leaves the memberships as they are. -/
theorem enlist_read (members : Finset (Id × Id)) {c : Call} (v : c.Value) (hc : c.isWrite = false) :
    enlist members c v = members := by
  cases c with
  | organizations c => cases c <;> first | rfl | cases hc
  | _ => rfl

/-- What is answered is true of what is stored. -/
def Truthful (R : Roster) : (c : Call) → c.Value → Prop
  | .organizations (.create _ _), (created : Organization) => R.Unused created.id
  | .permissions (.getByTarget target), (held : List Permission) => ∀ g, g ∈ held ↔ g ∈ R.grants ∧ g.target = target
  | _, _ => True

/-- What is relied on of the stores when an event comes to pass. -/
structure Turns (R : Roster) (e : Event) (R' : Roster) : Prop where
  organizations : Table.Turns R.organizations e R'.organizations
  grants : Table.Turns R.grants e R'.grants
  members : R'.members = e.done?.elim R.members fun d => enlist R.members d.1 d.2
  truthful : ∀ c v, e.done? = some ⟨c, v⟩ → R.Truthful c v

/-- Only changes change a roster. -/
theorem isSteady_turns : IsSteady Turns := by
  intro R e R' hchanges h
  have hmembers : R'.members = R.members := by
    rw [h.members]
    cases hdone : e.done? with
    | none => rfl
    | some d => exact enlist_read R.members d.2 ((Event.changes_of_done hdone).symm.trans hchanges)
  exact Roster.ext (Table.isSteady_turns _ e _ hchanges h.organizations) hmembers
    (Table.isSteady_turns _ e _ hchanges h.grants)

/-- An organization that is created and deleted again leaves everything as it was. -/
theorem undone {ctx : Context} {owner : Id} {organization created : Organization} {R R₁ R₂ : Roster}
    (hcreate : Turns R (.answered ctx (.organizations (.create owner organization)) (.ok created)) R₁)
    (hdelete : Turns R₁ (.insisted (.organizations (.delete created.id)) (.ok ())) R₂) : R₂ = R := by
  obtain ⟨hunused, hunused', -⟩ : R.Unused created.id := hcreate.truthful _ _ rfl
  have horganizations : R₁.organizations = insert created R.organizations := hcreate.organizations.2
  have hmembers : R₁.members = insert (created.id, owner) R.members := hcreate.members
  have horganizations' : R₂.organizations = {o ∈ R₁.organizations | o.id ≠ created.id} := hdelete.organizations.2
  have hmembers' : R₂.members = {m ∈ R₁.members | m.1 ≠ created.id} := hdelete.members
  refine Roster.ext ?_ ?_ (Eq.trans hdelete.grants hcreate.grants)
  · rw [horganizations', horganizations, Finset.filter_insert, if_neg (not_not.mpr rfl), Finset.filter_true_of_mem hunused]
  · rw [hmembers', hmembers, Finset.filter_insert, if_neg (not_not.mpr rfl), Finset.filter_true_of_mem hunused']

/-! ## The removal of a member -/

/-- The first of the permissions that a member holds are gone, and the membership as well when all of them are. -/
def Released (R : Roster) (organization user : Id) (held : List Permission) (R' : Roster) : Prop :=
  R'.organizations = R.organizations ∧ ∃ revoked, revoked <+: held ∧
    R'.grants = {g ∈ R.grants | ∀ permission ∈ revoked, g.id ≠ permission.id} ∧
    (R'.members = R.members ∨ revoked = held ∧ R'.members = R.members.erase (organization, user))

/-- Where nothing has been revoked yet, nothing has changed. -/
theorem Released.refl (R : Roster) (organization user : Id) (held : List Permission) : R.Released organization user held R :=
  ⟨rfl, [], List.nil_prefix, by simp, .inl rfl⟩

/-- A member who is being removed loses their permissions one after the other, and then the membership. -/
theorem released {ctx : Context} {organization user : Id} {held : List Permission} {ws es : List Event}
    {response : Option Response} {R R' : Roster} (h : Removing ctx organization user held ws response)
    (hes : es <+: ws.filter Event.changes) (hchained : Chained Turns R es R') : R.Released organization user held R' := by
  induction h generalizing es R with
  | @stopped held =>
    obtain rfl : es = [] := by simpa using hes
    exact chained_nil.mp hchained ▸ .refl R organization user held
  | @stuck permission rest fault =>
    obtain rfl : es = [] := by simpa [Event.changes] using hes
    exact chained_nil.mp hchained ▸ .refl R organization user _
  | @revoked permission rest ws response later ih =>
    rcases es with - | ⟨e, es⟩
    · exact chained_nil.mp hchained ▸ .refl R organization user _
    · obtain ⟨R₁, hturns, hchained⟩ := hchained
      obtain ⟨rfl, hrest⟩ := List.cons_prefix_cons.mp hes
      have hgrants : R₁.grants = {g ∈ R.grants | g.id ≠ permission.id} := hturns.grants.2
      obtain ⟨horganizations, revoked, hrevoked, hgrants', hmembers⟩ := ih hrest hchained
      refine ⟨horganizations.trans hturns.organizations, permission :: revoked, List.cons_prefix_cons.mpr ⟨rfl, hrevoked⟩,
        ?_, ?_⟩
      · rw [hgrants', hgrants, Finset.filter_filter]
        simp
      · rw [show R₁.members = R.members from hturns.members] at hmembers
        exact hmembers.imp_right fun h => ⟨congrArg (permission :: ·) h.1, h.2⟩
  | kept fault =>
    obtain rfl : es = [] := by simpa [Event.changes] using hes
    exact chained_nil.mp hchained ▸ .refl R organization user _
  | removed =>
    rcases es with - | ⟨e, es⟩
    · exact chained_nil.mp hchained ▸ .refl R organization user _
    · obtain ⟨R₁, hturns, hchained⟩ := hchained
      obtain ⟨rfl, hrest⟩ := List.cons_prefix_cons.mp hes
      obtain rfl := List.prefix_nil.mp hrest
      obtain rfl : R' = R₁ := hchained
      have hgrants : R'.grants = R.grants := hturns.grants
      exact ⟨hturns.organizations, [], List.nil_prefix, by simp [hgrants], .inr ⟨rfl, hturns.members⟩⟩

end Roster

/-! ## A scene -/

namespace Scene

/-- The pairs of an organization and a member in a scene. -/
def memberTable (s : Scene) : Finset (Id × Id) := (s.store.memberships.map fun m => (m.organization, m.user)).toFinset

/-- What is stored in a scene about organizations. -/
def roster (s : Scene) : Roster := ⟨s.organizationTable, s.memberTable, s.permissionTable⟩

/-- The memberships in a scene come and go as calls say. -/
theorem follows_members {s s' : Scene} {e : Event} (h : world.Moves s e s') :
    s'.memberTable = e.done?.elim s.memberTable fun d => Roster.enlist s.memberTable d.1 d.2 := by
  have hsame : s'.store.memberships = s.store.memberships → s'.memberTable = s.memberTable := fun h => by
    rw [memberTable, memberTable, h]
  rcases moves_cases h with ⟨hstore, hchanges⟩ | ⟨c, v, hdone, hanswer⟩
  · rw [hsame (by rw [hstore])]
    cases hdone : e.done? with
    | none => rfl
    | some d => exact (Roster.enlist_read _ d.2 ((Event.changes_of_done hdone).symm.trans hchanges)).symm
  · have hstore : (s.store.answer c).2 = s'.store := congrArg Prod.snd hanswer
    have hread : c.isWrite = false → s'.memberTable = Roster.enlist s.memberTable c v := fun hc => by
      rw [Roster.enlist_read _ v hc]
      exact hsame (by rw [← hstore, Store.answer_read hc])
    rw [hdone]
    change s'.memberTable = Roster.enlist s.memberTable c v
    cases c with
    | users c => exact hsame (hstore ▸ (Store.answerUsers_frame c).2.1)
    | permissions c => exact hsame (hstore ▸ (Store.answerPermissions_frame c).2.2)
    | organizations c =>
      cases c with
      | create owner organization =>
        obtain ⟨-, -, -, hmemberships, -⟩ := Store.answer_createOrganization hanswer
        ext m
        simp [memberTable, hmemberships, Roster.enlist, eq_comm]
      | delete id =>
        obtain ⟨-, -, hmemberships, -⟩ := Store.answer_deleteOrganization hanswer
        ext m
        simp only [memberTable, hmemberships, Roster.enlist, List.mem_toFinset, List.mem_map, List.mem_filter,
          Finset.mem_filter, bne_iff_ne]
        constructor
        · rintro ⟨membership, ⟨hmem, hother⟩, rfl⟩
          exact ⟨⟨membership, hmem, rfl⟩, hother⟩
        · rintro ⟨⟨membership, hmem, rfl⟩, hother⟩
          exact ⟨membership, ⟨hmem, hother⟩, rfl⟩
      | addMember organization user =>
        ext m
        simp [memberTable, Store.answer_addMember hanswer, Roster.enlist, eq_comm]
      | removeMember organization user =>
        ext m
        simp only [memberTable, Store.answer_removeMember hanswer, Roster.enlist, List.mem_toFinset, List.mem_map,
          List.mem_filter, Finset.mem_erase, decide_eq_true_eq]
        constructor
        · rintro ⟨membership, ⟨hmem, hother⟩, rfl⟩
          exact ⟨fun h => hother (Prod.mk.inj h), membership, hmem, rfl⟩
        · rintro ⟨hother, membership, hmem, rfl⟩
          exact ⟨membership, ⟨hmem, fun h => hother (Prod.ext h.1 h.2)⟩, rfl⟩
      | update id patch =>
        obtain ⟨old, -, -, -, hupdated⟩ := Store.answer_updateOrganization hanswer
        exact hsame (by rw [hupdated])
      | _ => exact hread rfl
    | _ => exact hread rfl

/-- In a scene whose answers are checked, what is stored about organizations turns as it is relied on. -/
theorem strict_roster : strict.Follows roster Roster.Turns := by
  refine World.follows_checked (fun R e hdone => ?_) fun s e s' hmoves hsound => ?_
  · refine ⟨?_, ?_, ?_, ?_⟩
    · rw [Table.Turns, Event.change?, hdone]
      rfl
    · rw [Table.Turns, Event.change?, hdone]
      rfl
    · rw [hdone]
      rfl
    · rw [hdone]
      rintro c v ⟨⟩
  · refine ⟨follows_organizations s e s' hmoves, follows_permissions s e s' hmoves, follows_members hmoves, ?_⟩
    intro c v hdone
    have hsound := hsound c v hdone
    cases c with
    | organizations c =>
      cases c with
      | create owner organization =>
        simp only [isSound, isUnused, Bool.and_eq_true, List.all_eq_true, bne_iff_ne] at hsound
        obtain ⟨⟨horganizations, hmembers⟩, hgrants⟩ := hsound
        refine ⟨fun o ho => horganizations o (List.mem_toFinset.mp ho), fun m hm => ?_,
          fun g hg => hgrants g (List.mem_toFinset.mp hg)⟩
        obtain ⟨membership, hmem, rfl⟩ := List.mem_map.mp (List.mem_toFinset.mp hm)
        exact hmembers membership hmem
      | _ => trivial
    | permissions c =>
      cases c with
      | getByTarget target =>
        obtain rfl := Except.ok.inj (Prod.mk.inj (done_ok hmoves hdone rfl)).1
        intro g
        simp [roster, permissionTable]
      | _ => trivial
    | _ => trivial

end Scene

end Tenancy
