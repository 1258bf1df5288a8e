import Tenancy.Proofs.Request.Caps
import Tenancy.Proofs.Request.Interleaving

/-!
# Caps when creations overlap

A creation counts first and creates later. In between it holds a place that the count does not show, so creations that overlap
may all take the last place that is free. How far a cap is exceeded is a matter of how many of them are under way at once: the
records that are active and the places that are held are never more than the cap allows and one for each creation but the first.
-/

namespace Tenancy

/-! ## Creations and the places they hold -/

/-- Capped records that are created by requests of one kind. -/
class Creatable (α : Type) extends Capped α where
  /-- Whether a request creates a record. -/
  creates : Request → Bool
  creates_of_asksRoom : ∀ r : Request, r.AsksRoom quota license → creates r = true

namespace Event

/-- The count that a call for it has answered. -/
def count? (quota : Quota) : Event → Option Nat
  | answered _ (.count q) (.ok (n : Nat)) => if q = quota then some n else none
  | _ => none

theorem count?_eq_some {quota : Quota} {e : Event} {n : Nat} (h : e.count? quota = some n) :
    ∃ ctx, e = .answered ctx (.count quota) (.ok n) := by
  unfold count? at h
  split at h
  · next ctx q m =>
    obtain ⟨rfl, hm⟩ := Option.ite_none_right_eq_some.mp h
    cases hm
    exact ⟨ctx, rfl⟩
  · cases h

/-- A record becomes active by an update that was not active before. -/
def activates {α : Type} [Capped α] (e : Event) (rows : Finset α) : Bool :=
  match e.change? α with
  | some (.updated id _ stored) =>
    Capped.isActive stored && decide (∀ row ∈ rows, Record.id row = id → Capped.isActive row = false)
  | _ => false

end Event

section

variable (α : Type) [Creatable α]

/-- A creation holds a place when it has found room and has not changed the table yet. -/
def Session.holdsPlace (cap : Nat) (x : Session) : Bool :=
  Creatable.creates α x.request && x.past.any (fun e => (e.count? (Capped.quota α)).any (· < cap)) &&
    (x.past.filterMap (Event.change? α)).isEmpty

namespace Moment

variable {σ : Type}

/-- How many creations are under way. -/
def creations (m : Moment σ) : Nat := m.sessions.countP fun x => Creatable.creates α x.request

/-- How many creations hold a place. -/
def places (cap : Nat) (m : Moment σ) : Nat := m.sessions.countP (Session.holdsPlace α cap)

/-- Only those hold a place who are creating something. -/
theorem places_le (cap : Nat) (m : Moment σ) : m.places α cap ≤ m.creations α := by
  refine List.countP_mono_left fun x _ hx => ?_
  unfold Session.holdsPlace at hx
  simp only [Bool.and_eq_true] at hx
  exact hx.1.1

variable {α}

/-- What is asked of a turn: no letters are asked for, at most `k` creations are under way after it, and no update makes a
record active that was not. -/
structure Calm (view : σ → Finset α) (k : Nat) (m : Moment σ) (es : List Event) (m' : Moment σ) : Prop where
  letters : ∀ x ∈ m'.sessions, x.request.isLetter = false
  creations : m'.creations α ≤ k
  updates : ∀ e ∈ es, e.activates (view m.state) = false

instance (view : σ → Finset α) (k : Nat) (m : Moment σ) (es : List Event) (m' : Moment σ) : Decidable (Calm view k m es m') :=
  decidable_of_iff ((∀ x ∈ m'.sessions, x.request.isLetter = false) ∧ m'.creations α ≤ k ∧
      ∀ e ∈ es, e.activates (view m.state) = false)
    ⟨fun h => ⟨h.1, h.2.1, h.2.2⟩, fun h => ⟨h.letters, h.creations, h.updates⟩⟩

end Moment

end

/-- A creation comes first among the changes of a request, and only of one that finds out whether there is room. -/
theorem Course.created_first {α : Type} {isActive : α → Bool} {roomy : Prop} {activated : Option Id}
    {before after : List (Change α)} {given stored : α} {response : Option Response}
    (h : Course isActive roomy activated (before ++ .created given stored :: after) response) : before = [] ∧ roomy := by
  generalize hchanges : before ++ .created given stored :: after = changes at h
  cases h with
  | kept => simp at hchanges
  | created given' stored' hroomy =>
    rcases before with - | ⟨change, rest⟩
    · exact ⟨rfl, hroomy⟩
    · simp at hchanges
  | withdrawn given' stored' id hroomy =>
    rcases before with - | ⟨change, - | ⟨change', rest⟩⟩
    · exact ⟨rfl, hroomy⟩
    · simp at hchanges
    · simp at hchanges
  | updated id patch stored' response =>
    rcases before with - | ⟨change, rest⟩ <;> simp at hchanges
  | deleted id =>
    rcases before with - | ⟨change, rest⟩ <;> simp at hchanges

section

variable {σ α : Type} [Creatable α] {p : Platform} {w : World σ} {view : σ → Finset α} {cap : UInt32} {x : Session} {s : σ}
  {k : Nat}

/-- A request under way that creates a record has held a place until then. -/
theorem Session.OnCourse.holdsPlace {e : Event} {rest : Program (Except ServiceError Response)} {given stored : α}
    (h : Session.OnCourse p ⟨x.ctx, x.request, x.past ++ [e], rest⟩)
    (hcap : (Capped.license α p).caps (Capped.quota α) = some cap) (hcreated : e.change? α = some (.created given stored)) :
    x.holdsPlace α cap.toNat = true := by
  obtain ⟨later, response, hconducted⟩ := h.exists_end
  have hcourse := Capped.course (α := α) _ _ _ _ _ hconducted.writes
  rw [Platform.filterMap_change, List.filterMap_append, List.filterMap_append, List.filterMap_cons_some hcreated,
    List.filterMap_nil, List.append_assoc, List.singleton_append] at hcourse
  obtain ⟨hunchanged, hroomy⟩ := hcourse.created_first
  have hacts : e.acts = true := by simp [Event.acts, Event.writes_of_changes (Event.changes_of_change hcreated)]
  have hmet := hconducted.orderly x.past e later (by simp) hacts
  obtain ⟨count, hcounted, hroom⟩ := hroomy.found hcap hmet
  have hcreates : Creatable.creates α x.request = true := Creatable.creates_of_asksRoom _ hroomy
  have hfound : x.past.any (fun e => (e.count? (Capped.quota α)).any (· < cap.toNat)) = true :=
    List.any_eq_true.mpr ⟨_, hcounted, by simp [Event.count?, hroom]⟩
  simp [Session.holdsPlace, hcreates, hfound, hunchanged]

/-- A request that has changed the table holds no place. -/
theorem Session.not_holdsPlace {e : Event} {rest : Program (Except ServiceError Response)} {change : Change α}
    (h : e.change? α = some change) (n : Nat) : holdsPlace α n ⟨x.ctx, x.request, x.past ++ [e], rest⟩ = false := by
  simp [holdsPlace, h]

/-- A place that was not held before is that of a creation which has just found room. -/
theorem Session.holdsPlace_cases {e : Event} {rest : Program (Except ServiceError Response)} {n : Nat}
    (h : holdsPlace α n ⟨x.ctx, x.request, x.past ++ [e], rest⟩ = true) :
    x.holdsPlace α n = true ∨
      Creatable.creates α x.request = true ∧ ∃ count, e.count? (Capped.quota α) = some count ∧ count < n := by
  unfold holdsPlace at h ⊢
  simp only [List.any_append, List.filterMap_append, Bool.and_eq_true, Bool.or_eq_true, List.isEmpty_iff,
    List.append_eq_nil_iff] at h ⊢
  obtain ⟨⟨hcreates, hfound | hfound⟩, hunchanged, -⟩ := h
  · exact .inl ⟨⟨hcreates, hfound⟩, hunchanged⟩
  · exact .inr ⟨hcreates, by simpa [Option.any_eq_true] using hfound⟩

variable [DecidableEq α]

/-- Unless a record is created, or made active by an update, no more are active than before. -/
theorem activeCount_le {rows rows' : Finset α} {e : Event} (h : Table.Turns rows e rows') (hupdates : e.activates rows = false)
    (hcreated : ∀ given stored, e.change? α ≠ some (.created given stored)) : activeCount rows' ≤ activeCount rows := by
  unfold Table.Turns at h
  unfold Event.activates at hupdates
  cases hchange : e.change? α with
  | none =>
    rw [hchange] at h
    rw [show rows' = rows from h]
  | some change =>
    rw [hchange] at h hupdates
    obtain ⟨hsound, rfl⟩ := h
    cases change with
    | created given stored => exact absurd hchange (hcreated given stored)
    | updated id patch stored =>
      refine activeCount_updated_le hsound.1 fun hactive => ?_
      simpa [hactive] using hupdates
    | deleted id => exact activeCount_deleted id

/-- In a step, a request under way leaves no more records active and holds no place that it did not hold, uses the place that it
holds, or finds that there is room. -/
theorem Session.OnCourse.advance_cases (h : x.OnCourse p) (hw : w.Follows view Capped.Turns)
    (hcap : (Capped.license α p).caps (Capped.quota α) = some cap)
    (hupdates : ∀ e ∈ (x.rest.advance w s).events, e.activates (view s) = false) :
    let active' := activeCount (view (x.rest.advance w s).state)
    let holds' := (x.advance w s).holdsPlace α cap.toNat
    active' ≤ activeCount (view s) ∧ (holds' = true → x.holdsPlace α cap.toNat = true) ∨
      active' ≤ activeCount (view s) + 1 ∧ x.holdsPlace α cap.toNat = true ∧ holds' = false ∨
      active' < cap.toNat ∧ Creatable.creates α x.request = true := by
  have hnext : (x.advance w s).OnCourse p := h.advance s
  unfold Session.advance at hnext ⊢
  rcases x.rest.moves_advance w s with ⟨hevents, hstate⟩ | ⟨e, hevents, hmoves⟩
  · rw [hevents, hstate, List.append_nil]
    exact .inl ⟨le_rfl, id⟩
  · rw [hevents] at hnext hupdates ⊢
    obtain ⟨hturns, hexact⟩ := hw s e _ hmoves
    by_cases hcreated : ∃ given stored : α, e.change? α = some (.created given stored)
    · obtain ⟨given, stored, hcreated⟩ := hcreated
      refine .inr (.inl ⟨?_, hnext.holdsPlace hcap hcreated, Session.not_holdsPlace hcreated _⟩)
      unfold Table.Turns at hturns
      rw [hcreated] at hturns
      exact hturns.2 ▸ activeCount_created _ given stored
    · have hactive := activeCount_le hturns (hupdates e (List.mem_singleton_self e))
        fun given stored hcreates => hcreated ⟨given, stored, hcreates⟩
      by_cases hfound : Creatable.creates α x.request = true ∧
          ∃ count, e.count? (Capped.quota α) = some count ∧ count < cap.toNat
      · obtain ⟨hcreates, count, hcount, hroom⟩ := hfound
        obtain ⟨ctx, rfl⟩ := Event.count?_eq_some hcount
        exact .inr (.inr ⟨(hactive.trans_eq (hexact ctx count rfl).symm).trans_lt hroom, hcreates⟩)
      · exact .inl ⟨hactive, fun hholds => (Session.holdsPlace_cases hholds).resolve_right hfound⟩

namespace Moment

/-- The records that are active and the places that are held keep within a cap and one for each creation but the first. -/
def Bounded (view : σ → Finset α) (cap k : Nat) (m : Moment σ) : Prop :=
  activeCount (view m.state) + m.places α cap ≤ cap + (k - 1)

/-- What keeps within the bound does so after each turn. -/
theorem Bounded.turned {m m' : Moment σ} {es : List Event} (h : m.Bounded view cap.toNat k) (hturned : m.Turned p w es m')
    (hcourse : ∀ x ∈ m.sessions, x.OnCourse p) (hcalm : Calm view k m es m') (hw : w.Follows view Capped.Turns)
    (hcap : (Capped.license α p).caps (Capped.quota α) = some cap) : m'.Bounded view cap.toNat k := by
  have hplaces := m'.places_le α cap.toNat
  have hfew := hcalm.creations
  unfold Bounded at h ⊢
  cases hturned with
  | accepted ctx r =>
    have hnew : (Session.start p ctx r).holdsPlace α cap.toNat = false := by simp [Session.holdsPlace, Session.start]
    simpa [places, hnew] using h
  | @advanced before x after s =>
    have hx : x.OnCourse p := hcourse x (by simp)
    have hcases := hx.advance_cases hw hcap hcalm.updates
    simp only [places, List.countP_append, List.countP_cons] at h hplaces ⊢
    rcases hcases with ⟨hactive, hholds⟩ | ⟨hactive, hheld, hholds⟩ | ⟨hroom, hcreates⟩
    · have hplace : (if (x.advance w s).holdsPlace α cap.toNat then 1 else 0) ≤ if x.holdsPlace α cap.toNat then 1 else 0 := by
        split
        · next hholds' => rw [if_pos (hholds hholds')]
        · exact Nat.zero_le _
      omega
    · rw [if_pos hheld] at h
      rw [hholds, if_neg Bool.false_ne_true]
      omega
    · -- this creation is under way itself, so that at least one may be
      have hone : 0 < creations α ⟨before ++ x.advance w s :: after, (x.rest.advance w s).state⟩ :=
        List.countP_pos_iff.mpr ⟨x.advance w s, by simp, hcreates⟩
      omega
  | left hsub => exact le_trans (Nat.add_le_add_left hsub.countP_le _) h

end Moment

/-- From a table within its cap, calm turns keep the active records and the places that are held within the bound. -/
theorem Platform.Interleaves.bounded {s₀ : σ} {m : Moment σ} (h : p.Interleaves w view (Moment.Calm view k) s₀ m)
    (hw : w.Follows view Capped.Turns) (hcap : (Capped.license α p).caps (Capped.quota α) = some cap)
    (hs : activeCount (view s₀) ≤ cap.toNat) : m.Bounded view cap.toNat k := by
  refine induction (P := Moment.Bounded view cap.toNat k) ?_ (fun xs s s' same hm => ?_)
    (fun m es m' hturned hcalm earlier hm => ?_) h
  · exact hs.trans (Nat.le_add_right _ _)
  · unfold Moment.Bounded at hm ⊢
    exact same ▸ hm
  · exact hm.turned hturned (earlier.onCourse fun _ _ _ hcalm => hcalm.letters) hcalm hw hcap

end

/-! ## Users and organizations -/

/-- Whether a request creates a user. -/
def Request.createsUser : Request → Bool
  | createUser _ => true
  | _ => false

/-- Whether a request creates an organization. -/
def Request.createsOrganization : Request → Bool
  | createOrganization _ _ => true
  | _ => false

instance : Creatable User where
  creates := Request.createsUser
  creates_of_asksRoom r := by
    rintro ⟨⟨policy, hpolicy, hquota⟩, hlicense⟩
    cases r with
    | createUser user => rfl
    | addMember organization user =>
      -- room for a member is looked up under the license of the service of organizations, which may be another one
      have hcaps : (some 1 : Option UInt32) = some 2 :=
        congrArg (fun license => license.caps .users) (hlicense { Platform.bare 1 with accounts := (Platform.bare 2).accounts })
      cases hcaps
    | _ => cases hpolicy <;> cases hquota

instance : Creatable Organization where
  creates := Request.createsOrganization
  creates_of_asksRoom r := by
    rintro ⟨⟨policy, hpolicy, hquota⟩, hlicense⟩
    cases r with
    | createOrganization owner organization => rfl
    | _ => cases hpolicy <;> cases hquota

namespace Platform

variable {σ : Type} {p : Platform} {w : World σ} {users : σ → Finset User} {organizations : σ → Finset Organization}
  {s₀ : σ} {userCap organizationCap : UInt32}

/-- **Caps when creations overlap.** When the caps on users and organizations are kept at first, and at most `k` creations of
users (of organizations) are under way at any moment, however the requests are interleaved, never more users (organizations) are
active than the cap allows and one for each creation but the first. -/
theorem overshoot_le (husers : w.Follows users Capped.Turns) (horganizations : w.Follows organizations Capped.Turns)
    (huserCap : p.accounts.licensing.license.caps .users = some userCap)
    (horganizationCap : p.organizations.licensing.license.caps .organizations = some organizationCap)
    (hs : activeCount (users s₀) ≤ userCap.toNat ∧ activeCount (organizations s₀) ≤ organizationCap.toNat) (k : Nat) :
    (∀ m, p.Interleaves w users (Moment.Calm users k) s₀ m →
        activeCount (users m.state) ≤ userCap.toNat + (k - 1)) ∧
      ∀ m, p.Interleaves w organizations (Moment.Calm organizations k) s₀ m →
        activeCount (organizations m.state) ≤ organizationCap.toNat + (k - 1) :=
  ⟨fun _ h => (Nat.le_add_right _ _).trans (h.bounded husers huserCap hs.1),
    fun _ h => (Nat.le_add_right _ _).trans (h.bounded horganizations horganizationCap hs.2)⟩

/-- The first user founds two organizations at once: both creations count before either creates anything. -/
def rush : List Turn :=
  let founding : Turn :=
    .accept firstUser (.createOrganization (Id.nth .user 1) (Organization.fresh "acme" "info@acme.com"))
  [founding, founding, .advance 0, .advance 1, .advance 0, .advance 1]

/-- Two creations at once exceed a cap of one by one, and no more. -/
theorem overshoot_le_rush :
    (∃ m, (bare 1).Interleaves Scene.strict Scene.organizationTable (Moment.Calm Scene.organizationTable 2) Scene.blank m ∧
        activeCount m.state.organizationTable = 2) ∧
      (∀ m, (bare 1).Interleaves Scene.strict Scene.userTable (Moment.Calm Scene.userTable 2) Scene.blank m →
        activeCount m.state.userTable ≤ 2) ∧
      ∀ m, (bare 1).Interleaves Scene.strict Scene.organizationTable (Moment.Calm Scene.organizationTable 2) Scene.blank m →
        activeCount m.state.organizationTable ≤ 2 := by
  have huserCap : (bare 1).accounts.licensing.license.caps .users = some 1 := rfl
  have horganizationCap : (bare 1).organizations.licensing.license.caps .organizations = some 1 := rfl
  have hempty : activeCount Scene.blank.userTable ≤ 1 ∧ activeCount Scene.blank.organizationTable ≤ 1 := by decide +kernel
  have hcalm : Moment.Permits (bare 1) Scene.strict (Moment.Calm Scene.organizationTable 2) ⟨[], Scene.blank⟩ rush := by
    decide +kernel
  refine ⟨⟨_, Interleaves.start.turns hcalm, by decide +kernel⟩, ?_⟩
  exact overshoot_le Scene.strict_users Scene.strict_organizations huserCap horganizationCap hempty 2

end Platform

end Tenancy
