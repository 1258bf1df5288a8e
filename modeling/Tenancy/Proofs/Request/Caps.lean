import Tenancy.Proofs.World.Checked

/-!
# Caps of the license

Users and organizations are capped by the license: only so many may be active at a time. A creation finds out first whether
there is room. An update does not, and it can set a user or an organization active again; it leaves too many of them when there
was no room left (`Request.Overfills`). This is the only way in which a run comes to exceed a cap.
-/

namespace Tenancy

/-! ## What requests do to capped tables -/

/-- A request finds out under a license whether there is room under a quota, before it changes anything. -/
def Request.AsksRoom (r : Request) (quota : Quota) (license : Platform → License) : Prop :=
  (∃ policy, r.policy? = some policy ∧ policy.quota = some quota) ∧ ∀ p : Platform, p.licenseOf r = license p

/-- A request that asks for room has found it once its policy is met. -/
theorem Request.AsksRoom.found {r : Request} {quota : Quota} {license : Platform → License} {p : Platform} {ctx : Context}
    {es : List Event} {cap : UInt32} (h : r.AsksRoom quota license) (hcap : (license p).caps quota = some cap)
    (hmet : r.Met (p.licenseOf r) ctx es) :
    ∃ count : Nat, .answered ctx (.count quota) (.ok count) ∈ es ∧ count < cap.toNat := by
  obtain ⟨⟨policy, hpolicy, hquota⟩, hlicense⟩ := h
  obtain ⟨policy', hpolicy', hmet⟩ := hmet
  obtain rfl : policy = policy' := Option.some.inj (hpolicy.symm.trans hpolicy')
  obtain ⟨cap', count, hcap', hcounted, hroom⟩ := hmet.roomy _ hquota
  obtain rfl : cap = cap' := Option.some.inj (hcap.symm.trans (hlicense p ▸ hcap'))
  exact ⟨count, hcounted, hroom⟩

/-- What a request changes in a table of which some records are active, and the response after it. The request is `roomy` when
it finds out whether there is room, and `activated` is the id that it sets active. -/
inductive Course {α : Type} (isActive : α → Bool) (roomy : Prop) (activated : Option Id) :
    List (Change α) → Option Response → Prop where
  /-- Nothing is changed. -/
  | kept {response} (h : response = none ∨ activated = none) : Course isActive roomy activated [] response
  | created (given stored) {response} (hroomy : roomy) (h : activated = none) :
    Course isActive roomy activated [.created given stored] response
  /-- What was created is deleted again. -/
  | withdrawn (given stored id) (hroomy : roomy) : Course isActive roomy activated [.created given stored, .deleted id] none
  /-- A record is patched, which always or never sets it active. -/
  | updated (id patch stored response)
    (h : activated = some id ∧ (∀ row, isActive (patch row) = true) ∨
      activated = none ∧ ∀ row, isActive (patch row) = true → isActive row = true) :
    Course isActive roomy activated [.updated id patch stored] (some response)
  | deleted (id) {response} (h : activated = none) : Course isActive roomy activated [.deleted id] response

/-- Records of which the license allows only so many that are active. -/
class Capped (α : Type) extends Record α where
  isActive : α → Bool
  quota : Quota
  /-- The license that has the cap. -/
  license : Platform → License
  /-- The id of the record that a request sets active. -/
  activated? : Request → Option Id
  isActive_congr : ∀ a b, Resembles a b → isActive a = isActive b
  course : ∀ (r : Request) ctx es ws response, r.work.Writes ctx es ws response →
    Course isActive (r.AsksRoom quota license) (activated? r) (ws.filterMap (Event.change? α)) response

section

variable {α : Type} [DecidableEq α] [Capped α] {rows : Finset α}

/-- How many records of a table are active. -/
def activeCount (rows : Finset α) : Nat := {row ∈ rows | Capped.isActive row}.card

/-- A creation adds at most one. -/
theorem activeCount_created (rows : Finset α) (given stored : α) :
    activeCount ((Change.created given stored).apply rows) ≤ activeCount rows + 1 := by
  unfold activeCount Change.apply
  rw [Finset.filter_insert]
  split
  · exact Finset.card_insert_le _ _
  · exact Nat.le_succ _

/-- A deletion adds none. -/
theorem activeCount_deleted (id : Id) : activeCount ((Change.deleted id).apply rows) ≤ activeCount rows :=
  Finset.card_le_card (Finset.filter_subset_filter _ (Finset.filter_subset _ _))

/-- An update takes away the active records of its id, and adds the one that is stored if that is active. -/
theorem activeCount_updated (rows : Finset α) {id : Id} (patch : α → α) {stored : α} (hid : Record.id stored = id) :
    activeCount ((Change.updated id patch stored).apply rows) + {row ∈ rows | Capped.isActive row ∧ Record.id row = id}.card =
      activeCount rows + if Capped.isActive stored then 1 else 0 := by
  have hothers : activeCount {row ∈ rows | Record.id row ≠ id} + {row ∈ rows | Capped.isActive row ∧ Record.id row = id}.card =
      activeCount rows := by
    unfold activeCount
    rw [← Finset.card_filter_add_card_filter_not (s := {row ∈ rows | Capped.isActive row}) (fun row => Record.id row ≠ id),
      Finset.filter_filter, Finset.filter_filter, Finset.filter_filter]
    simp [and_comm]
  have hnew : stored ∉ ({row ∈ rows | Record.id row ≠ id} : Finset α) := by simp [hid]
  have hstored : activeCount ((Change.updated id patch stored).apply rows) =
      activeCount {row ∈ rows | Record.id row ≠ id} + if Capped.isActive stored then 1 else 0 := by
    unfold activeCount Change.apply
    rw [Finset.filter_insert]
    split
    · exact Finset.card_insert_of_notMem fun h => hnew (Finset.mem_filter.mp h).1
    · rfl
  omega

/-- An update adds nothing unless it activates a record that was not active. -/
theorem activeCount_updated_le {id : Id} {patch : α → α} {stored : α} (hid : Record.id stored = id)
    (h : Capped.isActive stored = true → ∃ row ∈ rows, Record.id row = id ∧ Capped.isActive row = true) :
    activeCount ((Change.updated id patch stored).apply rows) ≤ activeCount rows := by
  have hcount := activeCount_updated rows patch hid
  split at hcount
  · next hactive =>
    obtain ⟨row, hrow, hrowid, hrowactive⟩ := h hactive
    have hpos : 0 < {row ∈ rows | Capped.isActive row ∧ Record.id row = id}.card :=
      Finset.card_pos.mpr ⟨row, Finset.mem_filter.mpr ⟨hrow, hrowactive, hrowid⟩⟩
    omega
  · omega

/-- An update that activates a record that was not active adds one. -/
theorem activeCount_activated {id : Id} {patch : α → α} {stored : α} (hid : Record.id stored = id)
    (hstored : Capped.isActive stored = true) (h : ∀ row ∈ rows, Record.id row = id → Capped.isActive row = false) :
    activeCount ((Change.updated id patch stored).apply rows) = activeCount rows + 1 := by
  have hcount := activeCount_updated rows patch hid
  have hnone : ({row ∈ rows | Capped.isActive row ∧ Record.id row = id} : Finset α) = ∅ :=
    Finset.filter_eq_empty_iff.mpr fun row hrow hactive => by simp [h row hrow hactive.2] at hactive
  rw [hnone, if_pos hstored, Finset.card_empty] at hcount
  exact hcount

/-! ## Courses -/

namespace Course

variable {roomy : Prop} {activated : Option Id} {changes first : List (Change α)} {response : Option Response}
  {rows' : Finset α} {cap : Nat}

/-- A cap is kept all along when creations find room, and records are activated only when there is room. -/
theorem capped (hcourse : Course Capped.isActive roomy activated changes response) (hrows : activeCount rows ≤ cap)
    (hroom : roomy → changes ≠ [] → activeCount rows < cap)
    (hfits : ∀ id, activated = some id → response ≠ none →
      (∀ row ∈ rows, Record.id row = id → Capped.isActive row = false) → activeCount rows < cap)
    (hfirst : first <+: changes) (hchained : Chained Table.Alters rows first rows') : activeCount rows' ≤ cap := by
  -- nothing of the course has come to pass yet, or its first change has
  rcases first with - | ⟨change, rest⟩
  · exact chained_nil.mp hchained ▸ hrows
  obtain ⟨rows₁, ⟨hsound, rfl⟩, hchained⟩ := hchained
  cases hcourse with
  | kept => cases List.prefix_nil.mp hfirst
  | created given stored hroomy =>
    obtain ⟨rfl, rfl⟩ : change = .created given stored ∧ rest = [] := by simpa using hfirst
    rw [chained_nil.mp hchained]
    exact (activeCount_created _ given stored).trans (hroom hroomy (List.cons_ne_nil _ _))
  | withdrawn given stored id hroomy =>
    obtain ⟨rfl, hrest⟩ : change = .created given stored ∧ rest <+: [.deleted id] := by simpa using hfirst
    have hcreated := (activeCount_created rows given stored).trans (hroom hroomy (List.cons_ne_nil _ _))
    rcases rest with - | ⟨change, rest⟩
    · exact chained_nil.mp hchained ▸ hcreated
    · obtain ⟨rfl, rfl⟩ : change = .deleted id ∧ rest = [] := by simpa using hrest
      obtain ⟨rows₂, ⟨-, rfl⟩, hchained⟩ := hchained
      rw [chained_nil.mp hchained]
      exact (activeCount_deleted id).trans hcreated
  | updated id patch stored response hpatch =>
    obtain ⟨rfl, rfl⟩ : change = .updated id patch stored ∧ rest = [] := by simpa using hfirst
    rw [chained_nil.mp hchained]
    obtain ⟨hid, old, hold, holdid, hstored⟩ := hsound
    by_cases hactive : ∃ row ∈ rows, Record.id row = id ∧ Capped.isActive row = true
    · exact (activeCount_updated_le hid fun _ => hactive).trans hrows
    · have hinactive : ∀ row ∈ rows, Record.id row = id → Capped.isActive row = false :=
        fun row hrow hrowid => Bool.eq_false_iff.mpr fun h => hactive ⟨row, hrow, hrowid, h⟩
      rcases hpatch with ⟨hactivated, hpatch⟩ | ⟨-, hpatch⟩
      · have hstored : Capped.isActive stored = true := (Capped.isActive_congr _ _ hstored).trans (hpatch old)
        rw [activeCount_activated hid hstored hinactive]
        exact hfits id hactivated (Option.some_ne_none _) hinactive
      · refine (activeCount_updated_le hid fun hactive => ⟨old, hold, holdid, ?_⟩).trans hrows
        exact hpatch old ((Capped.isActive_congr _ _ hstored).symm.trans hactive)
  | deleted id =>
    obtain ⟨rfl, rfl⟩ : change = .deleted id ∧ rest = [] := by simpa using hfirst
    rw [chained_nil.mp hchained]
    exact (activeCount_deleted id).trans hrows

/-- A cap that is reached is exceeded when a record is activated that was not active. -/
theorem exceeded {id : Id} {response : Response} (hcourse : Course Capped.isActive roomy (some id) changes (some response))
    (hinactive : ∀ row ∈ rows, Record.id row = id → Capped.isActive row = false) (hfull : cap ≤ activeCount rows)
    (hchained : Chained Table.Alters rows changes rows') : cap < activeCount rows' := by
  cases hcourse with
  | kept h => rcases h with h | h <;> cases h
  | created given stored hroomy h => cases h
  | updated id' patch stored response hpatch =>
    rcases hpatch with ⟨⟨⟩, hpatch⟩ | ⟨⟨⟩, -⟩
    obtain ⟨rows₁, ⟨⟨hid, old, -, -, hstored⟩, rfl⟩, hchained⟩ := hchained
    have hstored : Capped.isActive stored = true := (Capped.isActive_congr _ _ hstored).trans (hpatch old)
    rw [chained_nil.mp hchained, activeCount_activated hid hstored hinactive]
    exact Nat.lt_succ_of_le hfull
  | deleted id h => cases h

end Course

/-! ## Requests -/

/-- A table whose active records are counted exactly. -/
def Capped.Turns (rows : Finset α) (e : Event) (rows' : Finset α) : Prop :=
  Table.Turns rows e rows' ∧
    ∀ ctx (count : Nat), e = .answered ctx (.count (Capped.quota α)) (.ok count) → count = activeCount rows

theorem Capped.isSteady_turns : IsSteady (Capped.Turns (α := α)) :=
  fun rows e rows' hchanges h => Table.isSteady_turns rows e rows' hchanges h.1

/-- A request sets a record active that was not, though as many are active as may be. -/
def Request.Overfills (r : Request) (rows : Finset α) (cap : Nat) (value : Except ServiceError Response) : Prop :=
  ∃ id response, Capped.activated? α r = some id ∧ value = .ok response ∧
    (∀ row ∈ rows, Record.id row = id → Capped.isActive row = false) ∧ cap ≤ activeCount rows

namespace Platform

variable {σ : Type} {p : Platform} {w : World σ} {view : σ → Finset α} {ctx : Context} {r : Request} {s : σ} {cap : UInt32}

/-- A request that asks for room, and then changes the table, has found room. -/
theorem room (hw : w.Follows view Capped.Turns) (hcap : (Capped.license α p).caps (Capped.quota α) = some cap)
    (hr : r.isLetter = false) (hroomy : r.AsksRoom (Capped.quota α) (Capped.license α))
    (hchanges : ((p.serve ctx r).trace w s).filterMap (Event.change? α) ≠ []) : activeCount (view s) < cap.toNat := by
  obtain ⟨before, hmet, hfound⟩ := hw.met Capped.isSteady_turns hr (changes_ne_nil hchanges)
  obtain ⟨count, hcounted, hroom⟩ := hroomy.found hcap hmet
  obtain ⟨rows', -, hexact⟩ := hfound _ hcounted
  exact hexact ctx count rfl ▸ hroom

/-- From a state in which a cap is kept, a request keeps it all along unless it overfills the table. -/
theorem capped_serve (hw : w.Follows view Capped.Turns) (hcap : (Capped.license α p).caps (Capped.quota α) = some cap)
    (hr : r.isLetter = false) (hs : activeCount (view s) ≤ cap.toNat) :
    (∀ s', p.Amid w s ctx r s' → activeCount (view s') ≤ cap.toNat) ↔
      ¬ r.Overfills (view s) cap.toNat ((p.serve ctx r).run w s).value := by
  have hturns : w.Follows view Table.Turns := hw.mono fun _ _ _ h => h.1
  have hcourse := Capped.course (α := α) r ctx _ _ _ (p.conducted ctx hr w s).writes
  rw [filterMap_change] at hcourse
  constructor
  · rintro h ⟨id, response, hactivated, hvalue, hinactive, hfull⟩
    rw [hactivated, hvalue] at hcourse
    exact absurd (hcourse.exceeded hinactive hfull (altered_serve hturns)) (h _ (amid_state s ctx r)).not_gt
  · intro hfits s' hamid
    obtain ⟨first, hfirst, hchained⟩ := altered_amid hturns hamid
    refine hcourse.capped hs (room hw hcap hr) (fun id hactivated hresponse hinactive => ?_) hfirst hchained
    cases hvalue : ((p.serve ctx r).run w s).value with
    | error e => exact absurd (by rw [hvalue]; rfl) hresponse
    | ok response => exact not_le.mp fun hfull => hfits ⟨id, response, hactivated, hvalue, hinactive, hfull⟩

end Platform

end

/-! ## Users and organizations -/

/-- A table of which neither memberships nor permissions are records does not change when a member is removed. -/
theorem Removing.filterMap_change {α : Type} [Record α] {ctx : Context} {organization user : Id} {held : List Permission}
    {ws : List Event} {response : Option Response} (h : Removing ctx organization user held ws response)
    (hrevoke : ∀ id v, Record.change? (α := α) (.permissions (.delete id)) v = none)
    (hremove : ∀ v, Record.change? (α := α) (.organizations (.removeMember organization user)) v = none) :
    ws.filterMap (Event.change? α) = [] := by
  refine List.filterMap_eq_nil_iff.mpr fun e he => ?_
  rcases h.mem he with ⟨permission, -, reply, rfl⟩ | ⟨reply, rfl⟩
  · cases reply with
    | ok v => exact hrevoke permission.id v
    | error fault => rfl
  · cases reply with
    | ok v => exact hremove v
    | error fault => rfl

namespace Request

/-- The id of the user that a request sets active. -/
def activatedUser? : Request → Option Id
  | updateUser id patch => if patch.status = some .active then some id else none
  | _ => none

/-- The id of the organization that a request sets active. -/
def activatedOrganization? : Request → Option Id
  | updateOrganization id patch => if patch.status = some .active then some id else none
  | _ => none

/-- A patch that sets a status always leads to it, and any other one only where it was before. -/
theorem getD_cases {S : Type} (new : Option S) (status : S) :
    new = some status ∧ (∀ old, new.getD old = status) ∨ new ≠ some status ∧ ∀ old, new.getD old = status → old = status := by
  cases new with
  | none => exact .inr ⟨nofun, fun _ h => h⟩
  | some new =>
    by_cases h : new = status
    · exact .inl ⟨congrArg some h, fun _ => h⟩
    · exact .inr ⟨fun hnew => h (Option.some.inj hnew), fun _ hnew => absurd hnew h⟩

variable {r : Request} {ctx : Context} {es ws : List Event} {response : Option Response}

/-- What a request makes of users is of the course that its room allows. -/
theorem course_user (h : r.work.Writes ctx es ws response) :
    Course User.isActive (r.AsksRoom .users fun p => p.accounts.licensing.license) r.activatedUser?
      (ws.filterMap (Event.change? User)) response := by
  generalize hwork : r.work = work at h
  cases h with
  | withheld => exact .kept (.inl rfl)
  | nothing response => exact .kept (.inr (by cases r <;> first | rfl | cases hwork))
  | done v =>
    cases r with
    | createUser user => cases hwork; exact .created _ v ⟨⟨_, rfl, rfl⟩, fun _ => rfl⟩ rfl
    | updateUser id patch =>
      cases hwork
      refine .updated id _ v _ ?_
      have hstatus : ∀ u : User, ((Accounts.sealedPatch patch).apply u).isActive = (patch.status.getD u.status == .active) :=
        fun u => by unfold Accounts.sealedPatch; split <;> rfl
      rcases getD_cases patch.status .active with ⟨hactive, hall⟩ | ⟨hother, hall⟩
      · exact .inl ⟨if_pos hactive, fun u => (hstatus u).trans (beq_iff_eq.mpr (hall u.status))⟩
      · refine .inr ⟨if_neg hother, fun u hu => beq_iff_eq.mpr (hall u.status ?_)⟩
        exact beq_iff_eq.mp ((hstatus u).symm.trans hu)
    | deleteUser id force =>
      cases force with
      | true => cases hwork; exact .deleted id rfl
      | false =>
        cases hwork
        exact .updated id _ v _ (.inr ⟨rfl, fun row hrow => absurd hrow (Bool.eq_false_iff.mp (User.isActive_softDelete row))⟩)
    | deleteOrganization id force => cases force <;> cases hwork <;> exact .kept (.inr rfl)
    | _ => cases hwork <;> exact .kept (.inr rfl)
  | failed fault => exact .kept (.inl rfl)
  | unfounded fault => exact .kept (.inl rfl)
  | founded created granted =>
    obtain rfl := eq_createOrganization hwork
    exact .kept (.inr rfl)
  | interrupted created undone => cases undone <;> exact .kept (.inl rfl)
  | withdrawn created fault undone => cases undone <;> exact .kept (.inl rfl)
  | removal permissions hasked hquiet read common removing =>
    obtain rfl := eq_removeMember hwork
    rw [removing.filterMap_change (fun _ _ => rfl) fun _ => rfl]
    exact .kept (.inr rfl)

/-- The creation of an organization may be undone. -/
theorem course_undone {roomy : Prop} (hroomy : roomy) (given created : Organization) (undone : Except RepositoryError Unit) :
    Course Organization.isActive roomy none (.created given created ::
      [.insisted (.organizations (.delete created.id)) undone].filterMap (Event.change? Organization)) none := by
  cases undone with
  | ok v => exact .withdrawn given created created.id hroomy
  | error fault => exact .created given created hroomy rfl

/-- What a request makes of organizations is of the course that its room allows. -/
theorem course_organization (h : r.work.Writes ctx es ws response) :
    Course Organization.isActive (r.AsksRoom .organizations fun p => p.organizations.licensing.license)
      r.activatedOrganization? (ws.filterMap (Event.change? Organization)) response := by
  generalize hwork : r.work = work at h
  cases h with
  | withheld => exact .kept (.inl rfl)
  | nothing response => exact .kept (.inr (by cases r <;> first | rfl | cases hwork))
  | done v =>
    cases r with
    | updateOrganization id patch =>
      cases hwork
      refine .updated id _ v _ ?_
      rcases getD_cases patch.status .active with ⟨hactive, hall⟩ | ⟨hother, hall⟩
      · exact .inl ⟨if_pos hactive, fun o => beq_iff_eq.mpr (hall o.status)⟩
      · exact .inr ⟨if_neg hother, fun o ho => beq_iff_eq.mpr (hall o.status (beq_iff_eq.mp ho))⟩
    | deleteOrganization id force =>
      cases force with
      | true => cases hwork; exact .deleted id rfl
      | false =>
        cases hwork
        exact .updated id _ v _ (.inr ⟨rfl, fun row hrow => absurd hrow (Bool.eq_false_iff.mp (Organization.isActive_softDelete row))⟩)
    | deleteUser id force => cases force <;> cases hwork <;> exact .kept (.inr rfl)
    | _ => cases hwork <;> exact .kept (.inr rfl)
  | failed fault => exact .kept (.inl rfl)
  | unfounded fault => exact .kept (.inl rfl)
  | founded created granted =>
    obtain rfl := eq_createOrganization hwork
    exact .created _ created ⟨⟨_, rfl, rfl⟩, fun _ => rfl⟩ rfl
  | interrupted created undone =>
    obtain rfl := eq_createOrganization hwork
    exact course_undone ⟨⟨_, rfl, rfl⟩, fun _ => rfl⟩ _ created undone
  | withdrawn created fault undone =>
    obtain rfl := eq_createOrganization hwork
    exact course_undone ⟨⟨_, rfl, rfl⟩, fun _ => rfl⟩ _ created undone
  | removal permissions hasked hquiet read common removing =>
    obtain rfl := eq_removeMember hwork
    rw [removing.filterMap_change (fun _ _ => rfl) fun _ => rfl]
    exact .kept (.inr rfl)

end Request

instance : Capped User where
  isActive := User.isActive
  quota := .users
  license p := p.accounts.licensing.license
  activated? := Request.activatedUser?
  isActive_congr _ _ h := congrArg (· == .active) (User.Resembles.status h)
  course _ _ _ _ _ h := Request.course_user h

instance : Capped Organization where
  isActive := Organization.isActive
  quota := .organizations
  license p := p.organizations.licensing.license
  activated? := Request.activatedOrganization?
  isActive_congr _ _ h := congrArg (· == .active) (Organization.Resembles.status h)
  course _ _ _ _ _ h := Request.course_organization h

namespace Platform

variable {σ : Type} {p : Platform} {w : World σ} {users : σ → Finset User} {organizations : σ → Finset Organization}
  {s : σ} {userCap organizationCap : UInt32}

/-- **Caps of the license.** When the caps on users and organizations are kept at first, they are kept in every state of a run
if and only if no request of it sets a user or an organization active that was not, though as many are active as may be. -/
theorem within_caps_iff (husers : w.Follows users Capped.Turns) (horganizations : w.Follows organizations Capped.Turns)
    (huserCap : p.accounts.licensing.license.caps .users = some userCap)
    (horganizationCap : p.organizations.licensing.license.caps .organizations = some organizationCap)
    (hs : activeCount (users s) ≤ userCap.toNat ∧ activeCount (organizations s) ≤ organizationCap.toNat)
    (requests : List (Context × Request)) (hrequests : ∀ request ∈ requests, request.2.isLetter = false) :
    (∀ s', p.Visits w s requests s' →
        activeCount (users s') ≤ userCap.toNat ∧ activeCount (organizations s') ≤ organizationCap.toNat) ↔
      ∀ served ctx r, served ++ [(ctx, r)] <+: requests →
        ¬ (r.Overfills (users (p.serveAll w s served)) userCap.toNat ((p.serve ctx r).run w (p.serveAll w s served)).value ∨
          r.Overfills (organizations (p.serveAll w s served)) organizationCap.toNat
            ((p.serve ctx r).run w (p.serveAll w s served)).value) := by
  refine visits_iff (fun s ctx r => r.Overfills (users s) userCap.toNat ((p.serve ctx r).run w s).value ∨
    r.Overfills (organizations s) organizationCap.toNat ((p.serve ctx r).run w s).value) hs fun s ctx r hrequest hs => ?_
  have hr : r.isLetter = false := hrequests (ctx, r) hrequest
  rw [not_or, ← capped_serve husers huserCap hr hs.1, ← capped_serve horganizations horganizationCap hr hs.2]
  exact ⟨fun h => ⟨fun s' hs' => (h s' hs').1, fun s' hs' => (h s' hs').2⟩, fun h s' hs' => ⟨h.1 s' hs', h.2 s' hs'⟩⟩

end Platform

/-! ## A scene -/

namespace Scene

/-- A table whose count is checked is counted exactly. -/
theorem follows_strict {α : Type} [DecidableEq α] [Capped α] {view : Scene → Finset α}
    (hview : world.Follows view Table.Turns) (hcount : ∀ (s : Scene) (count : Nat),
      s.isSound (.count (Capped.quota α)) count = true → count = activeCount (view s)) :
    strict.Follows view Capped.Turns := by
  refine World.follows_checked (fun rows e hdone => ⟨?_, ?_⟩) fun s e s' hmoves hsound => ⟨hview s e s' hmoves, ?_⟩
  · unfold Table.Turns Event.change?
    rw [hdone]
    rfl
  · rintro ctx count rfl
    cases hdone
  · rintro ctx count rfl
    exact hcount s count (hsound _ _ rfl)

/-- The users of a strict scene change as a capped table does. -/
theorem strict_users : strict.Follows userTable Capped.Turns :=
  follows_strict follows_users fun _ _ h => beq_iff_eq.mp h

/-- The organizations of a strict scene change as a capped table does. -/
theorem strict_organizations : strict.Follows organizationTable Capped.Turns :=
  follows_strict follows_organizations fun _ _ h => beq_iff_eq.mp h

/-- A scene with one user who is active, and one who is not. -/
def crowded : Scene where
  store :=
    { users := [{ User.fresh "ada" "ada@example.com" "secret" with id := Id.nth .user 1 },
        { User.fresh "bob" "bob@example.com" "secret" with id := Id.nth .user 2, status := .inactive }] }
  today := Store.creation

end Scene

namespace Platform

/-- A live context on behalf of the second user. -/
def secondUser : Context := { principal := some (Id.nth .user 2), token := ⟨[1]⟩ }

/-- The first user makes room for the second one. -/
def handover : List (Context × Request) :=
  [(firstUser, .updateUser (Id.nth .user 1) { status := some .inactive }),
    (secondUser, .updateUser (Id.nth .user 2) { status := some .active })]

/-- A cap of one user is kept while one makes room for another. -/
theorem within_caps_iff_handover :
    (∀ s', (bare 1).Visits Scene.strict Scene.crowded handover s' →
        activeCount s'.userTable ≤ 1 ∧ activeCount s'.organizationTable ≤ 1) ∧
      activeCount ((bare 1).serveAll Scene.strict Scene.crowded handover).userTable = 1 := by
  have huserCap : (bare 1).accounts.licensing.license.caps .users = some 1 := rfl
  have horganizationCap : (bare 1).organizations.licensing.license.caps .organizations = some 1 := rfl
  have hcrowded : activeCount Scene.crowded.userTable ≤ 1 ∧ activeCount Scene.crowded.organizationTable ≤ 1 := by
    decide +kernel
  refine ⟨(within_caps_iff Scene.strict_users Scene.strict_organizations huserCap horganizationCap hcrowded handover
    (by decide)).mpr ?_, by decide +kernel⟩
  intro served ctx r hserved
  rcases served with - | ⟨first, - | ⟨second, rest⟩⟩
  · obtain ⟨rfl, rfl⟩ : ctx = firstUser ∧ r = .updateUser (Id.nth .user 1) { status := some .inactive } := by
      simpa [handover] using hserved
    rintro (⟨id, response, ⟨⟩, -⟩ | ⟨id, response, ⟨⟩, -⟩)
  · obtain ⟨rfl, rfl, rfl⟩ : first = (firstUser, .updateUser (Id.nth .user 1) { status := some .inactive }) ∧
        ctx = secondUser ∧ r = .updateUser (Id.nth .user 2) { status := some .active } := by
      simpa [handover] using hserved
    rintro (⟨id, response, -, -, -, hfull⟩ | ⟨id, response, ⟨⟩, -⟩)
    revert hfull
    decide +kernel
  · simp [handover] at hserved

/-- A user who sets themselves active is one more than the cap allows. -/
theorem overfilled_by_update :
    Scene.strict.Follows Scene.userTable Capped.Turns ∧ Scene.strict.Follows Scene.organizationTable Capped.Turns ∧
      (activeCount Scene.crowded.userTable ≤ 1 ∧ activeCount Scene.crowded.organizationTable ≤ 1) ∧
      ¬ ∀ requests : List (Context × Request), (∀ request ∈ requests, request.2.isLetter = false) →
        ∀ s', (bare 1).Visits Scene.strict Scene.crowded requests s' → activeCount s'.userTable ≤ 1 := by
  refine ⟨Scene.strict_users, Scene.strict_organizations, by decide +kernel, fun h => ?_⟩
  have hcount : activeCount ((bare 1).serveAll Scene.strict Scene.crowded
      [(secondUser, .updateUser (Id.nth .user 2) { status := some .active })]).userTable ≤ 1 :=
    h _ (by decide) _ (visits_serveAll (List.prefix_refl _))
  revert hcount
  decide +kernel

end Platform

end Tenancy
