import Tenancy.Proofs.Request.Serve

/-!
# Steady worlds

In a steady world, what is seen of the states changes only when a call that may change a store is answered: calls that only
read, calls that fail, and calls that their context interrupts leave everything as it is. A request that consists in a single
deed then changes nothing but by its deed (`Platform.done_or_failed`). A scene is steady for its store.
-/

namespace Tenancy

namespace Event

/-- The call that is made in an event. -/
def call? : Event → Option Call
  | answered _ c _ => some c
  | insisted c _ => some c
  | _ => none

theorem writes_of_call {e : Event} {c : Call} (h : e.call? = some c) (hc : c.isWrite = true) : e.writes = true := by
  cases e with
  | answered ctx c' reply => cases h; exact hc
  | insisted c' reply => cases h; exact hc
  | _ => cases h

/-- Whether a call that changes a store has been answered, and has not failed. -/
def changes : Event → Bool
  | answered _ c (.ok _) => c.isWrite
  | insisted c (.ok _) => c.isWrite
  | _ => false

theorem writes_of_changes {e : Event} (h : e.changes = true) : e.writes = true := by
  cases e with
  | answered ctx c reply =>
    cases reply with
    | ok v => exact h
    | error fault => cases h
  | insisted c reply =>
    cases reply with
    | ok v => exact h
    | error fault => cases h
  | _ => cases h

/-- The call that is answered in an event, with its answer; nothing when it fails or is not made. -/
def done? : Event → Option ((c : Call) × c.Value)
  | answered _ c (.ok v) => some ⟨c, v⟩
  | insisted c (.ok v) => some ⟨c, v⟩
  | _ => none

theorem call_of_done {e : Event} {c : Call} {v : c.Value} (h : e.done? = some ⟨c, v⟩) : e.call? = some c := by
  cases e with
  | answered ctx c' reply =>
    cases reply with
    | ok v' => cases h; rfl
    | error fault => cases h
  | insisted c' reply =>
    cases reply with
    | ok v' => cases h; rfl
    | error fault => cases h
  | _ => cases h

/-- Only what is done changes a store. -/
theorem changes_of_done {e : Event} {c : Call} {v : c.Value} (h : e.done? = some ⟨c, v⟩) : e.changes = c.isWrite := by
  cases e with
  | answered ctx c' reply =>
    cases reply with
    | ok v' => cases h; rfl
    | error fault => cases h
  | insisted c' reply =>
    cases reply with
    | ok v' => cases h; rfl
    | error fault => cases h
  | _ => cases h

/-- The changes among some events are those among the writes. -/
theorem filter_changes (es : List Event) : es.filter changes = (es.filter writes).filter changes := by
  rw [List.filter_filter]
  refine List.filter_congr fun e _ => ?_
  cases h : e.changes with
  | false => rfl
  | true => rw [writes_of_changes h]; rfl

end Event

namespace World

variable {σ τ : Type}

/-- What is seen of a state changes only when a call that may change a store is answered. -/
def Steady (w : World σ) (view : σ → τ) : Prop :=
  ∀ s e s', w.Moves s e s' → e.changes = false → view s' = view s

/-- Less is seen of a state as steadily. -/
theorem Steady.comp {υ : Type} {w : World σ} {view : σ → τ} (h : w.Steady view) (f : τ → υ) : w.Steady (f ∘ view) :=
  fun s e s' hmoves hchanges => congrArg f (h s e s' hmoves hchanges)

/-- Events among which there is no change lead to a state of which the same is seen. -/
theorem Steady.leads {w : World σ} {view : σ → τ} (h : w.Steady view) {s s' : σ} {es : List Event} (hleads : w.Leads s es s')
    (hes : es.filter Event.changes = []) : view s' = view s := by
  induction es generalizing s with
  | nil => rw [show s' = s from hleads]
  | cons e es ih =>
    obtain ⟨s₁, hmoves, hleads⟩ := hleads
    obtain ⟨he, hes⟩ := List.forall_mem_cons.mp (List.filter_eq_nil_iff.mp hes)
    rw [ih hleads (List.filter_eq_nil_iff.mpr hes)]
    exact h s e s₁ hmoves (Bool.eq_false_iff.mpr he)

end World

namespace Platform

variable {σ τ : Type} {p : Platform} {w : World σ}

/-- In a steady world, a request that consists in a deed fails and leaves everything as it is, or changes nothing but by its
deed. -/
theorem done_or_failed {view : σ → τ} (hw : w.Steady view) {ctx : Context} {r : Request} {deed : Deed} {s : σ}
    (hr : r.isLetter = false) (hwork : r.work = .deed deed) (hdeed : deed.call.isWrite = true) :
    (view ((p.serve ctx r).run w s).state = view s ∧ ∃ e, ((p.serve ctx r).run w s).value = .error e) ∨
      ∃ v s₁ s₂, ((p.serve ctx r).run w s).value = .ok (deed.response v) ∧ view s₁ = view s ∧
        w.Moves s₁ (.answered ctx deed.call (.ok v)) s₂ ∧ view ((p.serve ctx r).run w s).state = view s₂ := by
  have hwrites := (conducted p ctx hr w s).writes
  have hleads := w.leads_trace (p.serve ctx r) s
  rw [hwork] at hwrites
  generalize hws : ((p.serve ctx r).trace w s).filter Event.writes = ws at hwrites
  cases hvalue : ((p.serve ctx r).run w s).value with
  | error e =>
    rw [hvalue] at hwrites
    have hnone : ws.filter Event.changes = [] := by
      cases hwrites with
      | withheld => rfl
      | failed fault => rfl
    exact .inl ⟨hw.leads hleads (by rw [Event.filter_changes, hws, hnone]), e, rfl⟩
  | ok value =>
    rw [hvalue] at hwrites
    obtain ⟨v, rfl, rfl⟩ : ∃ v, ws = [.answered ctx deed.call (.ok v)] ∧ value = deed.response v := by
      cases hwrites with
      | done v => exact ⟨v, rfl, rfl⟩
    have hdone : ((p.serve ctx r).trace w s).filter Event.changes = [.answered ctx deed.call (.ok v)] := by
      rw [Event.filter_changes, hws]
      exact List.filter_cons_of_pos hdeed
    obtain ⟨before, after, htrace, hbefore, -, hafter⟩ := List.filter_eq_cons_iff.mp hdone
    rw [htrace] at hleads
    obtain ⟨s₁, s₂, hleads₁, hmoves, hleads₂⟩ := World.leads_middle.mp hleads
    exact .inr ⟨v, s₁, s₂, rfl, hw.leads hleads₁ (List.filter_eq_nil_iff.mpr hbefore), hmoves, hw.leads hleads₂ hafter⟩

end Platform

/-! ## Stores and scenes are steady -/

namespace Store

variable {s s' : Store}

/-- A call that only reads leaves the store as it is. -/
theorem answer_read {c : Call} (hc : c.isWrite = false) : (s.answer c).2 = s := by
  cases c with
  | users c =>
    cases c with
    | create user => cases hc
    | update id patch => cases hc
    | delete id => cases hc
    | getAll offset limit => rfl
    | _ => simp only [answer, answerUsers]; split <;> rfl
  | organizations c =>
    cases c with
    | get id => simp only [answer, answerOrganizations]; split <;> rfl
    | getAll offset limit => rfl
    | getMembers organization => simp only [answer, answerOrganizations]; split <;> rfl
    | _ => cases hc
  | permissions c =>
    cases c with
    | get id => simp only [answer, answerPermissions]; split <;> rfl
    | getByTarget target => rfl
    | _ => cases hc
  | _ => rfl

/-- A call on users that is not answered well leaves the store as it was. -/
theorem answerUsers_steady (c : UserCall) : (∃ v, (s.answerUsers c).1 = .ok v) ∨ (s.answerUsers c).2 = s := by
  cases c with
  | create user =>
    simp only [answerUsers]
    split
    · exact .inr rfl
    · exact .inl ⟨_, rfl⟩
  | update id patch =>
    simp only [answerUsers]
    split
    · exact .inl ⟨_, rfl⟩
    · exact .inr rfl
  | delete id =>
    simp only [answerUsers]
    split
    · exact .inl ⟨_, rfl⟩
    · exact .inr rfl
  | get id => exact .inr (answer_read (c := .users (.get id)) rfl)
  | getByEmail email => exact .inr (answer_read (c := .users (.getByEmail email)) rfl)
  | getAll offset limit => exact .inr rfl

/-- A call on organizations that is not answered well leaves the store as it was. -/
theorem answerOrganizations_steady (c : OrganizationCall) :
    (∃ v, (s.answerOrganizations c).1 = .ok v) ∨ (s.answerOrganizations c).2 = s := by
  cases c with
  | create owner organization => exact .inl ⟨_, rfl⟩
  | update id patch =>
    simp only [answerOrganizations]
    split
    · exact .inl ⟨_, rfl⟩
    · exact .inr rfl
  | delete id =>
    simp only [answerOrganizations]
    split
    · exact .inl ⟨_, rfl⟩
    · exact .inr rfl
  | addMember organization user =>
    simp only [answerOrganizations]
    split
    · exact .inr rfl
    · split
      · exact .inr rfl
      · exact .inl ⟨_, rfl⟩
  | removeMember organization user =>
    simp only [answerOrganizations]
    split
    · exact .inl ⟨_, rfl⟩
    · exact .inr rfl
  | get id => exact .inr (answer_read (c := .organizations (.get id)) rfl)
  | getAll offset limit => exact .inr rfl
  | getMembers organization => exact .inr (answer_read (c := .organizations (.getMembers organization)) rfl)

/-- A call on permissions that is not answered well leaves the store as it was. -/
theorem answerPermissions_steady (c : PermissionCall) :
    (∃ v, (s.answerPermissions c).1 = .ok v) ∨ (s.answerPermissions c).2 = s := by
  cases c with
  | create permission => exact .inl ⟨_, rfl⟩
  | delete id =>
    simp only [answerPermissions]
    split
    · exact .inl ⟨_, rfl⟩
    · exact .inr rfl
  | get id => exact .inr (answer_read (c := .permissions (.get id)) rfl)
  | getByTarget target => exact .inr rfl

/-- An organization is created under the next id, with its owner as the only member. -/
theorem answer_createOrganization {owner : Id} {organization created : Organization}
    (h : s.answer (.organizations (.create owner organization)) = (.ok created, s')) :
    created.id = (s.next .organization).1 ∧ s'.users = s.users ∧ s'.organizations = s.organizations ++ [created] ∧
      s'.memberships = s.memberships ++ [{ organization := created.id, user := owner }] ∧
      s'.permissions = s.permissions := by
  obtain ⟨hcreated, rfl⟩ := Prod.mk.inj h
  obtain rfl := Except.ok.inj hcreated
  exact ⟨rfl, rfl, rfl, rfl, rfl⟩

/-- With an organization go its memberships. -/
theorem answer_deleteOrganization {id : Id} (h : s.answer (.organizations (.delete id)) = (.ok (), s')) :
    s'.users = s.users ∧ s'.organizations = s.organizations.filter (fun o => o.id != id) ∧
      s'.memberships = s.memberships.filter (fun m => m.organization != id) ∧ s'.permissions = s.permissions := by
  simp only [answer, answerOrganizations] at h
  split at h
  · obtain ⟨-, rfl⟩ := Prod.mk.inj h
    exact ⟨rfl, rfl, rfl, rfl⟩
  · cases (Prod.mk.inj h).1

/-- An organization that is stored is patched wherever it stands. -/
theorem answer_updateOrganization {id : Id} {patch : OrganizationPatch} {stored : Organization}
    (h : s.answer (.organizations (.update id patch)) = (.ok stored, s')) : ∃ old ∈ s.organizations, old.id = id ∧
      stored = { patch.apply old with updatedAt := some change } ∧
      s' = { s with organizations := s.organizations.map fun o => if o.id = id then stored else o } := by
  simp only [answer, answerOrganizations] at h
  split at h
  · next old hold =>
    obtain ⟨hstored, rfl⟩ := Prod.mk.inj h
    obtain rfl := Except.ok.inj hstored
    exact ⟨old, List.mem_of_find?_eq_some hold, by simpa using List.find?_some hold, rfl, rfl⟩
  · cases (Prod.mk.inj h).1

/-- A membership is added to the others. -/
theorem answer_addMember {organization user : Id}
    (h : s.answer (.organizations (.addMember organization user)) = (.ok (), s')) :
    s' = { s with memberships := s.memberships ++ [{ organization, user }] } := by
  simp only [answer, answerOrganizations] at h
  split at h
  · cases (Prod.mk.inj h).1
  · split at h
    · cases (Prod.mk.inj h).1
    · exact (Prod.mk.inj h).2.symm

/-- A membership is taken from the others. -/
theorem answer_removeMember {organization user : Id}
    (h : s.answer (.organizations (.removeMember organization user)) = (.ok (), s')) :
    s' = { s with memberships := s.memberships.filter fun m => ¬ (m.organization = organization ∧ m.user = user) } := by
  simp only [answer, answerOrganizations] at h
  split at h
  · exact (Prod.mk.inj h).2.symm
  · cases (Prod.mk.inj h).1

/-- A call to the store of users leaves the other stores as they are. -/
theorem answerUsers_frame (c : UserCall) : (s.answerUsers c).2.organizations = s.organizations ∧
    (s.answerUsers c).2.memberships = s.memberships ∧ (s.answerUsers c).2.permissions = s.permissions := by
  cases c with
  | getAll offset limit => exact ⟨rfl, rfl, rfl⟩
  | _ => simp only [answerUsers]; split <;> exact ⟨rfl, rfl, rfl⟩

/-- A call to the store of organizations leaves the other stores as they are. -/
theorem answerOrganizations_frame (c : OrganizationCall) :
    (s.answerOrganizations c).2.users = s.users ∧ (s.answerOrganizations c).2.permissions = s.permissions := by
  cases c with
  | create owner organization => exact ⟨rfl, rfl⟩
  | getAll offset limit => exact ⟨rfl, rfl⟩
  | addMember organization user =>
    simp only [answerOrganizations]
    split
    · exact ⟨rfl, rfl⟩
    · split <;> exact ⟨rfl, rfl⟩
  | _ => simp only [answerOrganizations]; split <;> exact ⟨rfl, rfl⟩

/-- A call to the store of permissions leaves the other stores as they are. -/
theorem answerPermissions_frame (c : PermissionCall) : (s.answerPermissions c).2.users = s.users ∧
    (s.answerPermissions c).2.organizations = s.organizations ∧ (s.answerPermissions c).2.memberships = s.memberships := by
  cases c with
  | create permission => exact ⟨rfl, rfl, rfl⟩
  | getByTarget target => exact ⟨rfl, rfl, rfl⟩
  | _ => simp only [answerPermissions]; split <;> exact ⟨rfl, rfl, rfl⟩

/-- A call that is not answered leaves the store as it is. -/
theorem answer_steady (c : Call) : (∃ v, (s.answer c).1 = .ok v) ∨ (s.answer c).2 = s := by
  cases c with
  | users c => exact answerUsers_steady c
  | organizations c => exact answerOrganizations_steady c
  | permissions c => exact answerPermissions_steady c
  | access c => exact .inr rfl
  | count quota => exact .inr rfl
  | send recipient letter => exact .inr rfl
  | render path data => exact .inr rfl

end Store

namespace Scene

variable {s s' : Scene}

/-- Whether a call is answered by something else than the store: by the counters, or by the sender of mail. -/
def isElsewhere : Call → Bool
  | .count _ => true
  | .send _ _ => true
  | _ => false

/-- A call fails, or it is answered elsewhere, and both leave the store as it is; otherwise the store answers it. -/
theorem perform_cases {c : Call} {reply : Except c.Fault c.Value} (h : s.perform c = (reply, s')) :
    s'.store = s.store ∧ ((∃ fault, reply = .error fault) ∨ isElsewhere c = true) ∨
      ∃ v, reply = .ok v ∧ s.store.answer c = (.ok v, s'.store) := by
  unfold perform at h
  split at h
  · cases h
    exact .inl ⟨rfl, .inl ⟨_, rfl⟩⟩
  · split at h
    · cases h
      exact .inl ⟨rfl, .inr rfl⟩
    · cases h
      exact .inl ⟨rfl, .inr rfl⟩
    · rcases hanswer : s.store.answer c with ⟨r, store⟩
      rw [hanswer] at h
      cases h
      have hsteady := Store.answer_steady (s := s.store) c
      rw [hanswer] at hsteady
      cases reply with
      | ok v => exact .inr ⟨v, rfl, rfl⟩
      | error fault => exact .inl ⟨hsteady.resolve_left nofun, .inl ⟨fault, rfl⟩⟩

/-- A call under a context fails, or it is answered elsewhere, and both leave the store as it is; otherwise the store answers
it. -/
theorem answered_cases {ctx : Context} {c : Call} {reply : Except (Refusal c.Fault) c.Value}
    (h : world.Moves s (.answered ctx c reply) s') :
    s'.store = s.store ∧ ((∃ refusal, reply = .error refusal) ∨ isElsewhere c = true) ∨
      ∃ v, reply = .ok v ∧ s.store.answer c = (.ok v, s'.store) := by
  have hanswer : s.answer ctx c = (reply, s') := h.2
  rcases hrace : s.timeline.race ctx (s.delays c) with ⟨race, timeline⟩
  simp only [answer, hrace] at hanswer
  cases race with
  | refused cause =>
    cases hanswer
    exact .inl ⟨rfl, .inl ⟨_, rfl⟩⟩
  | stopped cause =>
    cases hanswer
    exact .inl ⟨rfl, .inl ⟨_, rfl⟩⟩
  | finished =>
    rcases hperform : ({ s with timeline } : Scene).perform c with ⟨r, s₁⟩
    simp only [hperform] at hanswer
    cases hanswer
    rcases perform_cases hperform with ⟨hstore, ⟨fault, rfl⟩ | helsewhere⟩ | ⟨v, rfl, hv⟩
    · exact .inl ⟨hstore, .inl ⟨_, rfl⟩⟩
    · exact .inl ⟨hstore, .inr helsewhere⟩
    · exact .inr ⟨v, rfl, hv⟩

/-- A call outside any context does so, too. -/
theorem insisted_cases {c : Call} {reply : Except c.Fault c.Value} (h : world.Moves s (.insisted c reply) s') :
    s'.store = s.store ∧ ((∃ fault, reply = .error fault) ∨ isElsewhere c = true) ∨
      ∃ v, reply = .ok v ∧ s.store.answer c = (.ok v, s'.store) :=
  perform_cases (s := { s with timeline := s.timeline.advance (s.delays c) }) h

/-- What is answered under a context, and not elsewhere, the store has answered. -/
theorem answered_ok {ctx : Context} {c : Call} {v : c.Value} (h : world.Moves s (.answered ctx c (.ok v)) s')
    (hc : isElsewhere c = false) : s.store.answer c = (.ok v, s'.store) := by
  rcases answered_cases h with ⟨-, ⟨_, hfailed⟩ | helsewhere⟩ | ⟨v', hv, hanswer⟩
  · cases hfailed
  · rw [hc] at helsewhere
    cases helsewhere
  · rw [hanswer, Except.ok.inj hv]

/-- What is answered outside any context, and not elsewhere, the store has answered. -/
theorem insisted_ok {c : Call} {v : c.Value} (h : world.Moves s (.insisted c (.ok v)) s') (hc : isElsewhere c = false) :
    s.store.answer c = (.ok v, s'.store) := by
  rcases insisted_cases h with ⟨-, ⟨_, hfailed⟩ | helsewhere⟩ | ⟨v', hv, hanswer⟩
  · cases hfailed
  · rw [hc] at helsewhere
    cases helsewhere
  · rw [hanswer, Except.ok.inj hv]

/-- What is done, and not elsewhere, the store has answered. -/
theorem done_ok {e : Event} {c : Call} {v : c.Value} (h : world.Moves s e s') (hdone : e.done? = some ⟨c, v⟩)
    (hc : isElsewhere c = false) : s.store.answer c = (.ok v, s'.store) := by
  cases e with
  | answered ctx c' reply =>
    cases reply with
    | ok v' => cases hdone; exact answered_ok h hc
    | error refusal => cases hdone
  | insisted c' reply =>
    cases reply with
    | ok v' => cases hdone; exact insisted_ok h hc
    | error fault => cases hdone
  | _ => cases hdone

/-- What is called elsewhere changes no store. -/
theorem isWrite_of_isElsewhere {c : Call} (h : isElsewhere c = true) : c.isWrite = false := by
  cases c with
  | count quota => rfl
  | send recipient letter => rfl
  | _ => cases h

/-- An event leaves the store of a scene as it is, and is no change; or the store answers the call. -/
theorem moves_cases {e : Event} (h : world.Moves s e s') :
    s'.store = s.store ∧ e.changes = false ∨ ∃ c v, e.done? = some ⟨c, v⟩ ∧ s.store.answer c = (.ok v, s'.store) := by
  cases e with
  | noted note => exact .inl ⟨by rw [show s' = s from h], rfl⟩
  | refused ctx c cause => exact .inl ⟨by rw [h.2], rfl⟩
  | answered ctx c reply =>
    rcases answered_cases h with ⟨hstore, ⟨refusal, rfl⟩ | helsewhere⟩ | ⟨v, rfl, hanswer⟩
    · exact .inl ⟨hstore, rfl⟩
    · refine .inl ⟨hstore, ?_⟩
      cases reply with
      | ok v => exact isWrite_of_isElsewhere helsewhere
      | error refusal => rfl
    · exact .inr ⟨c, v, rfl, hanswer⟩
  | insisted c reply =>
    rcases insisted_cases h with ⟨hstore, ⟨fault, rfl⟩ | helsewhere⟩ | ⟨v, rfl, hanswer⟩
    · exact .inl ⟨hstore, rfl⟩
    · refine .inl ⟨hstore, ?_⟩
      cases reply with
      | ok v => exact isWrite_of_isElsewhere helsewhere
      | error fault => rfl
    · exact .inr ⟨c, v, rfl, hanswer⟩
  | surveyed ctx components reports notes =>
    have hsurvey : s.survey ctx components = (reports, notes, s') := h.2
    exact .inl ⟨(congrArg (·.2.2.store) hsurvey).symm, rfl⟩

/-- A scene is steady for its store. -/
theorem steady_store : world.Steady Scene.store := by
  intro s e s' hmoves hchanges
  rcases moves_cases hmoves with ⟨hstore, -⟩ | ⟨c, v, hdone, hanswer⟩
  · exact hstore
  · have hread : c.isWrite = false := (Event.changes_of_done hdone).symm.trans hchanges
    exact (congrArg Prod.snd hanswer).symm.trans (Store.answer_read hread)

end Scene

end Tenancy
