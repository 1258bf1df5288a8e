import Mathlib.Data.Finset.Filter
import Mathlib.Data.Finset.Lattice.Lemmas
import Tenancy.Proofs.Request.Reach
import Tenancy.Proofs.World.Steady

/-!
# Tables of records

Users, organizations and permissions are records that are stored under ids. What is relied on of their stores is what they
are documented to do: a record is created, updated or deleted when the call that asks for it is answered, and nothing else
changes a table (`Table.Turns`). A world follows such a relation when what is seen of it before and after each event is
related (`World.Follows`); along the events of a request it does so from one change to the next (`Follows.amid`).
-/

namespace Tenancy

/-! ## What is seen of a world, event by event -/

section

variable {σ τ : Type}

/-- What is seen before and after each event is related. -/
def World.Follows (w : World σ) (view : σ → τ) (R : τ → Event → τ → Prop) : Prop :=
  ∀ s e s', w.Moves s e s' → R (view s) e (view s')

/-- A relation by which only changes change what is seen. -/
def IsSteady (R : τ → Event → τ → Prop) : Prop := ∀ x e y, e.changes = false → R x e y → y = x

/-- Some things come one after the other, from what is seen at first to what is seen at last. -/
def Chained {ε : Type} (R : τ → ε → τ → Prop) : τ → List ε → τ → Prop
  | x, [], y => y = x
  | x, e :: es, y => ∃ z, R x e z ∧ Chained R z es y

section

variable {ε : Type} {R : τ → ε → τ → Prop} {x y : τ} {e e' : ε}

@[simp] theorem chained_nil : Chained R x [] y ↔ y = x := Iff.rfl

@[simp] theorem chained_singleton : Chained R x [e] y ↔ R x e y := by simp [Chained]

/-- Two things in a row have something between them. -/
theorem chained_pair : Chained R x [e, e'] y ↔ ∃ z, R x e z ∧ R z e' y := by simp [Chained]

end

variable {w : World σ} {view : σ → τ} {R : τ → Event → τ → Prop}

/-- What a world follows can be weakened. -/
theorem World.Follows.mono {R' : τ → Event → τ → Prop} (h : w.Follows view R) (hR : ∀ x e y, R x e y → R' x e y) :
    w.Follows view R' := fun s e s' hmoves => hR _ e _ (h s e s' hmoves)

/-- What is seen in a world that follows a relation goes through a chain of it. -/
theorem World.Follows.leads (h : w.Follows view R) {s s' : σ} {es : List Event} (hleads : w.Leads s es s') :
    Chained R (view s) es (view s') := by
  induction es generalizing s with
  | nil => rw [show s' = s from hleads]; rfl
  | cons e es ih =>
    obtain ⟨s₁, hmoves, hleads⟩ := hleads
    exact ⟨view s₁, h s e s₁ hmoves, ih hleads⟩

/-- In a world that follows a steady relation only changes change what is seen. -/
theorem World.Follows.steady (h : w.Follows view R) (hR : IsSteady R) : w.Steady view :=
  fun s e s' hmoves hchanges => hR _ e _ hchanges (h s e s' hmoves)

/-- Events that change nothing can be left out. -/
theorem Chained.filter (hR : IsSteady R) {x y : τ} {es : List Event} (h : Chained R x es y) :
    Chained R x (es.filter Event.changes) y := by
  induction es generalizing x with
  | nil => exact h
  | cons e es ih =>
    obtain ⟨z, hz, h⟩ := h
    cases hchanges : e.changes with
    | true => rw [List.filter_cons_of_pos hchanges]; exact ⟨z, hz, ih h⟩
    | false =>
      rw [List.filter_cons_of_neg (by simp [hchanges])]
      exact hR x e z hchanges hz ▸ ih h

/-- The state that a request comes to is seen as the first of its changes leave it. -/
theorem World.Follows.amid (h : w.Follows view R) (hR : IsSteady R) {p : Platform} {ctx : Context} {r : Request} {s s' : σ}
    (hamid : p.Amid w s ctx r s') :
    ∃ es, es <+: (((p.serve ctx r).trace w s).filter Event.writes).filter Event.changes ∧
      Chained R (view s) es (view s') := by
  obtain ⟨es, hes, hleads⟩ := hamid
  refine ⟨es.filter Event.changes, ?_, (h.leads hleads).filter hR⟩
  rw [← Event.filter_changes]
  exact hes.filter Event.changes

/-- The state after a request is seen as its changes leave it. -/
theorem World.Follows.served (h : w.Follows view R) (hR : IsSteady R) (p : Platform) (ctx : Context) (r : Request) (s : σ) :
    Chained R (view s) ((((p.serve ctx r).trace w s).filter Event.writes).filter Event.changes)
      (view ((p.serve ctx r).run w s).state) := by
  rw [← Event.filter_changes]
  exact (h.leads (w.leads_trace _ s)).filter hR

/-- An event that comes before any change is related to what is seen at first. -/
theorem World.Follows.early (h : w.Follows view R) (hR : IsSteady R) {s s' : σ} {es before : List Event} {e : Event}
    (hleads : w.Leads s es s') (hbefore : before <+: es) (hunchanged : before.filter Event.changes = []) (he : e ∈ before) :
    ∃ y, R (view s) e y := by
  obtain ⟨later, rfl⟩ := hbefore
  obtain ⟨first, last, rfl⟩ := List.append_of_mem he
  obtain ⟨s₁, hleads₁, -⟩ := World.leads_append.mp hleads
  obtain ⟨s₂, s₃, hleads₂, hmoves, -⟩ := World.leads_middle.mp hleads₁
  have hfirst : first.filter Event.changes = [] := List.filter_eq_nil_iff.mpr fun e' he' =>
    List.filter_eq_nil_iff.mp hunchanged e' (List.mem_append_left _ he')
  exact ⟨view s₃, (h.steady hR).leads hleads₂ hfirst ▸ h s₂ e s₃ hmoves⟩

/-- Quiet events come before any change. -/
theorem World.Follows.early_of_quiet (h : w.Follows view R) (hR : IsSteady R) {s s' : σ} {es before : List Event} {e : Event}
    (hleads : w.Leads s es s') (hbefore : before <+: es) (hquiet : Quiet before) (he : e ∈ before) : ∃ y, R (view s) e y := by
  refine h.early hR hleads hbefore ?_ he
  rw [Event.filter_changes, hquiet.filter_writes]
  rfl

/-- A request that changes something has met its policy before, by events that are related to what is seen at first. -/
theorem World.Follows.met (h : w.Follows view R) (hR : IsSteady R) {p : Platform} {ctx : Context} {r : Request} {s : σ}
    (hr : r.isLetter = false) (hchanges : ((p.serve ctx r).trace w s).filter Event.changes ≠ []) :
    ∃ before, r.Met (p.licenseOf r) ctx before ∧ ∀ e ∈ before, ∃ y, R (view s) e y := by
  obtain ⟨change, changes, hfirst⟩ := List.exists_cons_of_ne_nil hchanges
  obtain ⟨before, after, htrace, hbefore, hchange, -⟩ := List.filter_eq_cons_iff.mp hfirst
  have hacts : change.acts = true := by simp [Event.acts, Event.writes_of_changes hchange]
  refine ⟨before, (p.conducted ctx hr w s).orderly before change after htrace hacts, fun e he => ?_⟩
  exact h.early hR (w.leads_trace _ s) (htrace ▸ List.prefix_append before _) (List.filter_eq_nil_iff.mpr hbefore) he

end

/-! ## Records and their changes -/

/-- What becomes of the records of a table. -/
inductive Change (α : Type) where
  | created (given stored : α)
  | updated (id : Id) (patch : α → α) (stored : α)
  | deleted (id : Id)

/-- Records that are stored under ids, and the calls that change them. -/
class Record (α : Type) where
  id : α → Id
  /-- Two records are the same up to what their store adds to them. -/
  Resembles : α → α → Prop
  /-- What a call changes when it is answered. -/
  change? : (c : Call) → c.Value → Option (Change α)
  isWrite_of_change : ∀ c v change, change? c v = some change → c.isWrite = true

namespace Change

variable {α : Type} [DecidableEq α] [Record α]

/-- The records after a change. -/
def apply : Change α → Finset α → Finset α
  | created _ stored, rows => insert stored rows
  | updated id _ stored, rows => insert stored {row ∈ rows | Record.id row ≠ id}
  | deleted id, rows => {row ∈ rows | Record.id row ≠ id}

/-- A record is stored as it is given, and patched as it was stored before. -/
def Sound : Change α → Finset α → Prop
  | created given stored, _ => Record.Resembles stored given
  | updated id patch stored, rows =>
    Record.id stored = id ∧ ∃ old ∈ rows, Record.id old = id ∧ Record.Resembles stored (patch old)
  | deleted _, _ => True

end Change

/-- What an event changes in a table of records. -/
def Event.change? (α : Type) [Record α] (e : Event) : Option (Change α) := e.done?.bind fun d => Record.change? d.1 d.2

/-- What changes a table also changes a store. -/
theorem Event.changes_of_change {α : Type} [Record α] {e : Event} {change : Change α} (h : e.change? α = some change) :
    e.changes = true := by
  obtain ⟨⟨c, v⟩, hdone, hchange⟩ := Option.bind_eq_some_iff.mp h
  rw [Event.changes_of_done hdone]
  exact Record.isWrite_of_change c v change hchange

namespace Table

variable {α : Type} [DecidableEq α] [Record α]

/-- A table changes as it is told to. -/
def Alters (rows : Finset α) (change : Change α) (rows' : Finset α) : Prop := change.Sound rows ∧ rows' = change.apply rows

/-- A table stays as it is, or changes as it is told to. -/
def Becomes (rows : Finset α) : Option (Change α) → Finset α → Prop
  | none, rows' => rows' = rows
  | some change, rows' => Alters rows change rows'

/-- A table changes only when an event says so, and as it says. -/
def Turns (rows : Finset α) (e : Event) (rows' : Finset α) : Prop := Becomes rows (e.change? α) rows'

/-- Only changes change a table. -/
theorem isSteady_turns : IsSteady (Turns (α := α)) := by
  intro rows e rows' hchanges h
  unfold Turns at h
  cases hchange : e.change? α with
  | none => rw [hchange] at h; exact h
  | some change =>
    rw [Event.changes_of_change hchange] at hchanges
    cases hchanges

/-- A table changes in the order of the changes among the events. -/
theorem chained_changes {rows rows' : Finset α} {es : List Event} (h : Chained Turns rows es rows') :
    Chained Alters rows (es.filterMap (Event.change? α)) rows' := by
  induction es generalizing rows with
  | nil => exact h
  | cons e es ih =>
    obtain ⟨rows₁, hturns, h⟩ := h
    unfold Turns at hturns
    cases hchange : e.change? α with
    | none =>
      rw [hchange] at hturns
      rw [List.filterMap_cons_none hchange]
      obtain rfl : rows₁ = rows := hturns
      exact ih h
    | some change =>
      rw [hchange] at hturns
      rw [List.filterMap_cons_some hchange]
      exact ⟨rows₁, hturns, ih h⟩

end Table

namespace Platform

variable {σ α : Type} [DecidableEq α] [Record α] {p : Platform} {w : World σ} {view : σ → Finset α} {ctx : Context}
  {r : Request} {s s' : σ}

omit [DecidableEq α] in
/-- The changes of a table are made by writes. -/
theorem filterMap_change (es : List Event) :
    (es.filter Event.writes).filterMap (Event.change? α) = es.filterMap (Event.change? α) := by
  rw [List.filterMap_filter]
  refine List.filterMap_congr fun e _ => ?_
  cases hchange : e.change? α with
  | none => rw [ite_self]
  | some change => rw [if_pos (Event.writes_of_changes (Event.changes_of_change hchange))]

omit [DecidableEq α] in
/-- A request that changes a table changes a store. -/
theorem changes_ne_nil (h : ((p.serve ctx r).trace w s).filterMap (Event.change? α) ≠ []) :
    ((p.serve ctx r).trace w s).filter Event.changes ≠ [] := by
  obtain ⟨change, hchange⟩ := List.exists_mem_of_ne_nil _ h
  obtain ⟨e, he, hchange⟩ := List.mem_filterMap.mp hchange
  exact List.ne_nil_of_mem (List.mem_filter.mpr ⟨he, Event.changes_of_change hchange⟩)

/-- A state that a request comes to has its table as the first changes of the request leave it. -/
theorem altered_amid (h : w.Follows view Table.Turns) (hamid : p.Amid w s ctx r s') :
    ∃ changes, changes <+: ((p.serve ctx r).trace w s).filterMap (Event.change? α) ∧
      Chained Table.Alters (view s) changes (view s') := by
  obtain ⟨es, hes, hleads⟩ := hamid
  exact ⟨_, hes.filterMap _, Table.chained_changes (h.leads hleads)⟩

/-- The state after a request has its table as the changes of the request leave it. -/
theorem altered_serve (h : w.Follows view Table.Turns) : Chained Table.Alters (view s)
    (((p.serve ctx r).trace w s).filterMap (Event.change? α)) (view ((p.serve ctx r).run w s).state) :=
  Table.chained_changes (h.leads (w.leads_trace _ s))

end Platform

/-! ## Users, organizations and permissions -/

/-- Two users are the same up to their ids and times. -/
def User.Resembles (u v : User) : Prop := u = { v with id := u.id, createdAt := u.createdAt, updatedAt := u.updatedAt }

/-- Users that resemble each other have one status. -/
theorem User.Resembles.status {u v : User} (h : u.Resembles v) : u.status = v.status := by
  rw [h]

/-- Whether a user counts under the cap on users. -/
def User.isActive (u : User) : Bool := u.status == .active

/-- A user that has been deleted softly is not active. -/
theorem User.isActive_softDelete (u : User) : (UserPatch.softDelete.apply u).isActive = false := rfl

/-- Two organizations are the same up to their ids, members and times. -/
def Organization.Resembles (o q : Organization) : Prop :=
  o = { q with id := o.id, members := o.members, createdAt := o.createdAt, updatedAt := o.updatedAt }

/-- Organizations that resemble each other have one status. -/
theorem Organization.Resembles.status {o q : Organization} (h : o.Resembles q) : o.status = q.status := by
  rw [h]

/-- Whether an organization counts under the cap on organizations. -/
def Organization.isActive (o : Organization) : Bool := o.status == .active

/-- An organization that has been deleted softly is not active. -/
theorem Organization.isActive_softDelete (o : Organization) : (OrganizationPatch.softDelete.apply o).isActive = false := rfl

/-- Two permissions are the same up to their ids and times. -/
def Permission.Resembles (g p : Permission) : Prop :=
  g = { p with id := g.id, createdAt := g.createdAt, updatedAt := g.updatedAt }

instance : Record User where
  id u := u.id
  Resembles := User.Resembles
  change?
    | .users (.create given), stored => some (.created given stored)
    | .users (.update id patch), stored => some (.updated id patch.apply stored)
    | .users (.delete id), _ => some (.deleted id)
    | _, _ => none
  isWrite_of_change c v change h := by
    cases c with
    | users c => cases c <;> first | rfl | cases h
    | _ => cases h

instance : Record Organization where
  id o := o.id
  Resembles := Organization.Resembles
  change?
    | .organizations (.create _ given), stored => some (.created given stored)
    | .organizations (.update id patch), stored => some (.updated id patch.apply stored)
    | .organizations (.delete id), _ => some (.deleted id)
    | _, _ => none
  isWrite_of_change c v change h := by
    cases c with
    | organizations c => cases c <;> first | rfl | cases h
    | _ => cases h

instance : Record Permission where
  id p := p.id
  Resembles := Permission.Resembles
  change?
    | .permissions (.create given), stored => some (.created given stored)
    | .permissions (.delete id), _ => some (.deleted id)
    | _, _ => none
  isWrite_of_change c v change h := by
    cases c with
    | permissions c => cases c <;> first | rfl | cases h
    | _ => cases h

/-! ## A scene -/

namespace Table

variable {α : Type} [DecidableEq α] [Record α] {rows : List α}

/-- A record is added at the end of a list. -/
theorem becomes_created {given stored : α} (h : Record.Resembles stored given) :
    Becomes rows.toFinset (some (.created given stored)) (rows ++ [stored]).toFinset := by
  refine ⟨h, ?_⟩
  ext row
  simp [Change.apply]

/-- A record is replaced wherever it stands in a list. -/
theorem becomes_updated {patch : α → α} {old stored : α} (hold : old ∈ rows) (hid : Record.id stored = Record.id old)
    (h : Record.Resembles stored (patch old)) :
    Becomes rows.toFinset (some (.updated (Record.id old) patch stored))
      (rows.map fun row => if Record.id row = Record.id old then stored else row).toFinset := by
  refine ⟨⟨hid, old, List.mem_toFinset.mpr hold, rfl, h⟩, ?_⟩
  ext row
  simp only [Change.apply, List.mem_toFinset, List.mem_map, Finset.mem_insert, Finset.mem_filter]
  constructor
  · rintro ⟨row', hrow', rfl⟩
    split
    · exact .inl rfl
    · next hother => exact .inr ⟨hrow', hother⟩
  · rintro (rfl | ⟨hrow, hother⟩)
    · exact ⟨old, hold, if_pos rfl⟩
    · exact ⟨row, hrow, if_neg hother⟩

/-- A record is taken out of a list. -/
theorem becomes_deleted {id : Id} :
    Becomes rows.toFinset (some (.deleted id)) (rows.filter fun row => Record.id row != id).toFinset := by
  refine ⟨trivial, ?_⟩
  ext row
  simp [Change.apply]

end Table

namespace Scene

variable {α : Type} [DecidableEq α] [Record α]

/-- The users of a scene. -/
def userTable (s : Scene) : Finset User := s.store.users.toFinset

/-- The organizations of a scene. -/
def organizationTable (s : Scene) : Finset Organization := s.store.organizations.toFinset

/-- The permissions of a scene. -/
def permissionTable (s : Scene) : Finset Permission := s.store.permissions.toFinset

/-- A table turns in a scene as it does in its store. -/
theorem follows_table (rows : Store → List α) (h : ∀ store store' c v, store.answer c = (.ok v, store') →
      Table.Becomes (rows store).toFinset (Record.change? c v) (rows store').toFinset) :
    world.Follows (fun s => (rows s.store).toFinset) Table.Turns := by
  intro s e s' hmoves
  unfold Table.Turns
  rcases moves_cases hmoves with ⟨hstore, hchanges⟩ | ⟨c, v, hdone, hanswer⟩
  · cases hchange : e.change? α with
    | none => exact congrArg (fun store => (rows store).toFinset) hstore
    | some change =>
      rw [Event.changes_of_change hchange] at hchanges
      cases hchanges
  · rw [Event.change?, hdone]
    exact h _ _ c v hanswer

/-- The users of a scene change as a table does. -/
theorem follows_users : world.Follows userTable Table.Turns := by
  refine follows_table Store.users fun store store' c v hanswer => ?_
  have hread : c.isWrite = false → store' = store := fun hc => (congrArg Prod.snd hanswer).symm.trans (Store.answer_read hc)
  cases c with
  | users c =>
    cases c with
    | create given =>
      simp only [Store.answer, Store.answerUsers] at hanswer
      split at hanswer
      · cases (Prod.mk.inj hanswer).1
      · obtain ⟨hstored, rfl⟩ := Prod.mk.inj hanswer
        obtain rfl := Except.ok.inj hstored
        exact Table.becomes_created rfl
    | update id patch =>
      simp only [Store.answer, Store.answerUsers] at hanswer
      split at hanswer
      · next user huser =>
        obtain ⟨hstored, rfl⟩ := Prod.mk.inj hanswer
        obtain rfl := Except.ok.inj hstored
        obtain rfl : user.id = id := by simpa using List.find?_some huser
        exact Table.becomes_updated (List.mem_of_find?_eq_some huser) rfl rfl
      · cases (Prod.mk.inj hanswer).1
    | delete id =>
      simp only [Store.answer, Store.answerUsers] at hanswer
      split at hanswer
      · obtain ⟨-, rfl⟩ := Prod.mk.inj hanswer
        exact Table.becomes_deleted
      · cases (Prod.mk.inj hanswer).1
    | _ => rw [hread rfl]; rfl
  | organizations c =>
    obtain rfl : (store.answerOrganizations c).2 = store' := congrArg Prod.snd hanswer
    exact congrArg List.toFinset (Store.answerOrganizations_frame c).1
  | permissions c =>
    obtain rfl : (store.answerPermissions c).2 = store' := congrArg Prod.snd hanswer
    exact congrArg List.toFinset (Store.answerPermissions_frame c).1
  | _ => rw [hread rfl]; rfl

/-- The organizations of a scene change as a table does. -/
theorem follows_organizations : world.Follows organizationTable Table.Turns := by
  refine follows_table Store.organizations fun store store' c v hanswer => ?_
  have hread : c.isWrite = false → store' = store := fun hc => (congrArg Prod.snd hanswer).symm.trans (Store.answer_read hc)
  cases c with
  | users c =>
    obtain rfl : (store.answerUsers c).2 = store' := congrArg Prod.snd hanswer
    exact congrArg List.toFinset (Store.answerUsers_frame c).1
  | organizations c =>
    cases c with
    | create owner given =>
      obtain ⟨hstored, rfl⟩ := Prod.mk.inj hanswer
      obtain rfl := Except.ok.inj hstored
      exact Table.becomes_created rfl
    | update id patch =>
      obtain ⟨old, hold, rfl, rfl, rfl⟩ := Store.answer_updateOrganization hanswer
      exact Table.becomes_updated hold rfl rfl
    | delete id =>
      obtain ⟨-, hrows, -⟩ := Store.answer_deleteOrganization hanswer
      rw [hrows]
      exact Table.becomes_deleted
    | addMember organization user => rw [Store.answer_addMember hanswer]; rfl
    | removeMember organization user => rw [Store.answer_removeMember hanswer]; rfl
    | _ => rw [hread rfl]; rfl
  | permissions c =>
    obtain rfl : (store.answerPermissions c).2 = store' := congrArg Prod.snd hanswer
    exact congrArg List.toFinset (Store.answerPermissions_frame c).2.1
  | _ => rw [hread rfl]; rfl

/-- The permissions of a scene change as a table does. -/
theorem follows_permissions : world.Follows permissionTable Table.Turns := by
  refine follows_table Store.permissions fun store store' c v hanswer => ?_
  have hread : c.isWrite = false → store' = store := fun hc => (congrArg Prod.snd hanswer).symm.trans (Store.answer_read hc)
  cases c with
  | users c =>
    obtain rfl : (store.answerUsers c).2 = store' := congrArg Prod.snd hanswer
    exact congrArg List.toFinset (Store.answerUsers_frame c).2.2
  | organizations c =>
    obtain rfl : (store.answerOrganizations c).2 = store' := congrArg Prod.snd hanswer
    exact congrArg List.toFinset (Store.answerOrganizations_frame c).2
  | permissions c =>
    cases c with
    | create given =>
      obtain ⟨hstored, rfl⟩ := Prod.mk.inj hanswer
      obtain rfl := Except.ok.inj hstored
      exact Table.becomes_created rfl
    | delete id =>
      simp only [Store.answer, Store.answerPermissions] at hanswer
      split at hanswer
      · obtain ⟨-, rfl⟩ := Prod.mk.inj hanswer
        exact Table.becomes_deleted
      · cases (Prod.mk.inj hanswer).1
    | _ => rw [hread rfl]; rfl
  | _ => rw [hread rfl]; rfl

end Scene

end Tenancy
