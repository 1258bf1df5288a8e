import Tenancy.Proofs.Request.Policy

/-!
# The work of requests

What a request writes once its policy is met: nothing, the single call that is its deed, an organization with the grant of
its owner, or the removal of a member after their permissions. `Work.Writes` lists the calls that change a store in the order
in which they are made, up to the point at which one fails or the context is done, with the response that the request then
ends with; there is none after a failure. A request is conducted (`Request.Conducted`) when it acts only after its policy is
met, and writes what its work says.
-/

namespace Tenancy

/-- A single call that changes a store, and the response that shows its answer. -/
structure Deed where
  call : Call
  response : call.Value → Response

/-- What a request writes. -/
inductive Work where
  | nothing
  | deed (deed : Deed)
  | founding (owner : Id) (organization : Organization)
  | removal (organization user : Id)

/-- The work of a request. -/
def Request.work : Request → Work
  | createUser user => .deed ⟨.users (.create (Accounts.sealed user)), .user⟩
  | updateUser id patch => .deed ⟨.users (.update id (Accounts.sealedPatch patch)), .user⟩
  | deleteUser id true => .deed ⟨.users (.delete id), fun _ => .nothing⟩
  | deleteUser id false => .deed ⟨.users (.update id UserPatch.softDelete), fun _ => .nothing⟩
  | createOrganization owner organization => .founding owner organization
  | updateOrganization id patch => .deed ⟨.organizations (.update id patch), .organization⟩
  | deleteOrganization id true => .deed ⟨.organizations (.delete id), fun _ => .nothing⟩
  | deleteOrganization id false => .deed ⟨.organizations (.update id OrganizationPatch.softDelete), fun _ => .nothing⟩
  | addMember organization user => .deed ⟨.organizations (.addMember organization user), fun _ => .nothing⟩
  | removeMember organization user => .removal organization user
  | grant permission => .deed ⟨.permissions (.create permission), .permission⟩
  | revoke id => .deed ⟨.permissions (.delete id), fun _ => .nothing⟩
  | _ => .nothing

/-- The writes of the removal of a member who holds permissions: each is revoked in turn, and then the member is removed. -/
inductive Removing (ctx : Context) (organization user : Id) : List Permission → List Event → Option Response → Prop where
  /-- The context is done. -/
  | stopped {held} : Removing ctx organization user held [] none
  /-- A permission cannot be revoked. -/
  | stuck {permission rest} (fault) :
    Removing ctx organization user (permission :: rest) [.answered ctx (.permissions (.delete permission.id)) (.error fault)]
      none
  | revoked {permission rest es response} (later : Removing ctx organization user rest es response) :
    Removing ctx organization user (permission :: rest)
      (.answered ctx (.permissions (.delete permission.id)) (.ok ()) :: es) response
  /-- The member cannot be removed. -/
  | kept (fault) :
    Removing ctx organization user [] [.answered ctx (.organizations (.removeMember organization user)) (.error fault)] none
  | removed :
    Removing ctx organization user [] [.answered ctx (.organizations (.removeMember organization user)) (.ok ())]
      (some .nothing)

/-- The writes of a removal revoke permissions that are held, and remove the member. -/
theorem Removing.mem {ctx : Context} {organization user : Id} {held : List Permission} {ws : List Event}
    {response : Option Response} (h : Removing ctx organization user held ws response) {e : Event} (he : e ∈ ws) :
    (∃ permission ∈ held, ∃ reply, e = .answered ctx (.permissions (.delete permission.id)) reply) ∨
      ∃ reply, e = .answered ctx (.organizations (.removeMember organization user)) reply := by
  induction h with
  | stopped => cases he
  | stuck fault =>
    obtain rfl := List.mem_singleton.mp he
    exact .inl ⟨_, List.mem_cons_self, _, rfl⟩
  | revoked later ih =>
    rcases List.mem_cons.mp he with rfl | he
    · exact .inl ⟨_, List.mem_cons_self, _, rfl⟩
    · rcases ih he with ⟨permission, hheld, hreply⟩ | hreply
      · exact .inl ⟨permission, List.mem_cons_of_mem _ hheld, hreply⟩
      · exact .inr hreply
  | kept fault =>
    obtain rfl := List.mem_singleton.mp he
    exact .inr ⟨_, rfl⟩
  | removed =>
    obtain rfl := List.mem_singleton.mp he
    exact .inr ⟨_, rfl⟩

/-- The writes of some work under a context, in order, and the response after them; `es` are all events until then. -/
inductive Work.Writes (ctx : Context) (es : List Event) : Work → List Event → Option Response → Prop where
  /-- The work is not begun, and the request fails. -/
  | withheld {work} : Writes ctx es work [] none
  | nothing (response) : Writes ctx es .nothing [] response
  | done {deed : Deed} (v) : Writes ctx es (.deed deed) [.answered ctx deed.call (.ok v)] (some (deed.response v))
  | failed {deed : Deed} (fault) : Writes ctx es (.deed deed) [.answered ctx deed.call (.error fault)] none
  /-- The organization is not created. -/
  | unfounded {owner organization} (fault) :
    Writes ctx es (.founding owner organization)
      [.answered ctx (.organizations (.create owner organization)) (.error fault)] none
  | founded {owner organization} (created : Organization) (granted) :
    Writes ctx es (.founding owner organization)
      [.answered ctx (.organizations (.create owner organization)) (.ok created),
        .answered ctx (.permissions (.create (Permission.fresh owner created.id .all))) (.ok granted)]
      (some (.organization created))
  /-- The context is done before the owner is given rights, and the organization is deleted outside of it. -/
  | interrupted {owner organization} (created : Organization) (undone) :
    Writes ctx es (.founding owner organization)
      [.answered ctx (.organizations (.create owner organization)) (.ok created),
        .insisted (.organizations (.delete created.id)) undone]
      none
  /-- The owner cannot be given rights, and the organization is deleted outside the context. -/
  | withdrawn {owner organization} (created : Organization) (fault) (undone) :
    Writes ctx es (.founding owner organization)
      [.answered ctx (.organizations (.create owner organization)) (.ok created),
        .answered ctx (.permissions (.create (Permission.fresh owner created.id .all))) (.error fault),
        .insisted (.organizations (.delete created.id)) undone]
      none
  /-- The member does not hold all rights, and loses all permissions on the organization that were read before anything was
  changed. -/
  | removal {organization user asked} (permissions : List Permission) {ws response} (hasked : asked <+: es)
    (hquiet : Quiet asked) (read : .answered ctx (.permissions (.getByTarget organization)) (.ok permissions) ∈ asked)
    (common : ∀ permission ∈ permissions, permission.subject = user → permission.kind ≠ .all)
    (removing : Removing ctx organization user (permissions.filter fun p => p.subject == user) ws response) :
    Writes ctx es (.removal organization user) ws response

theorem Work.Writes.mono {ctx : Context} {es es' ws : List Event} {work : Work} {response : Option Response}
    (h : work.Writes ctx es ws response) (hextends : es <+: es') : work.Writes ctx es' ws response := by
  cases h with
  | withheld => exact .withheld
  | nothing response => exact .nothing response
  | done v => exact .done v
  | failed fault => exact .failed fault
  | unfounded fault => exact .unfounded fault
  | founded created granted => exact .founded created granted
  | interrupted created undone => exact .interrupted created undone
  | withdrawn created fault undone => exact .withdrawn created fault undone
  | removal permissions hasked hquiet read common removing =>
    exact .removal permissions (hasked.trans hextends) hquiet read common removing

namespace Request

/-- Only the creation of an organization founds one. -/
theorem eq_createOrganization {r : Request} {owner : Id} {organization : Organization}
    (h : r.work = .founding owner organization) : r = .createOrganization owner organization := by
  cases r with
  | createOrganization owner organization => cases h; rfl
  | deleteUser id force => cases force <;> cases h
  | deleteOrganization id force => cases force <;> cases h
  | _ => cases h

/-- Only the removal of a member removes one. -/
theorem eq_removeMember {r : Request} {organization user : Id} (h : r.work = .removal organization user) :
    r = .removeMember organization user := by
  cases r with
  | removeMember organization user => cases h; rfl
  | deleteUser id force => cases force <;> cases h
  | deleteOrganization id force => cases force <;> cases h
  | _ => cases h

/-- A deed changes a store. -/
theorem isWrite_deed {r : Request} {deed : Deed} (h : r.work = .deed deed) : deed.call.isWrite = true := by
  cases r with
  | deleteUser id force => cases force <;> cases h <;> rfl
  | deleteOrganization id force => cases force <;> cases h <;> rfl
  | _ => cases h <;> rfl

/-- No request has the creation of an organization as its deed. -/
theorem deed_ne_create {r : Request} {deed : Deed} (h : r.work = .deed deed) (owner : Id)
    (organization : Organization) : deed.call ≠ .organizations (.create owner organization) := by
  cases r with
  | deleteUser id force => cases force <;> cases h <;> exact nofun
  | deleteOrganization id force => cases force <;> cases h <;> exact nofun
  | _ => cases h <;> exact nofun

/-- Only the request to grant a permission has its creation as its deed. -/
theorem eq_grant {r : Request} {deed : Deed} {permission : Permission} (h : r.work = .deed deed)
    (hcall : deed.call = .permissions (.create permission)) : r = .grant permission := by
  cases r with
  | grant permission => cases h; cases hcall; rfl
  | deleteUser id force => cases force <;> cases h <;> cases hcall
  | deleteOrganization id force => cases force <;> cases h <;> cases hcall
  | _ => cases h <;> cases hcall

/-- An event among others stands before the place where they were put together, or after it. -/
theorem split_append {es es' before after : List Event} {e : Event} (h : es ++ es' = before ++ e :: after) :
    (∃ mid, es = before ++ e :: mid) ∨ ∃ mid, before = es ++ mid ∧ es' = mid ++ e :: after := by
  rcases List.append_eq_append_iff.mp h with ⟨mid, hbefore, hes'⟩ | ⟨mid, hes, hafter⟩
  · exact .inr ⟨mid, hbefore, hes'⟩
  · cases mid with
    | nil => exact .inr ⟨[], by simpa using hes.symm, by simpa using hafter.symm⟩
    | cons e' mid =>
      obtain ⟨rfl, -⟩ := List.cons.inj hafter
      exact .inl ⟨mid, hes⟩

/-- A request acts only after its policy is met, and writes what its work says. -/
structure Conducted (r : Request) (license : License) (ctx : Context) (es : List Event) (response : Option Response) :
    Prop where
  orderly : ∀ before e after, es = before ++ e :: after → e.acts = true → r.Met license ctx before
  writes : r.work.Writes ctx es (es.filter Event.writes) response

namespace Conducted

variable {r : Request} {license : License} {ctx : Context} {past es last : List Event} {response : Option Response}

/-- A request that has been conducted goes on quietly. -/
theorem append (h : r.Conducted license ctx es response) (hlast : Quiet last) :
    r.Conducted license ctx (es ++ last) response where
  orderly before e after hes hacts := by
    rcases split_append hes with ⟨mid, hmid⟩ | ⟨mid, -, hmid⟩
    · exact h.orderly before e mid hmid hacts
    · have hmem : e ∈ last := hmid ▸ by simp
      exact absurd hacts (by simp [hlast e hmem])
  writes := by
    rw [List.filter_append, hlast.filter_writes, List.append_nil]
    exact h.writes.mono (List.prefix_append es last)

/-- Nothing has been done by a request that fails before it acts. -/
theorem failed (hquiet : Quiet es) : r.Conducted license ctx es none where
  orderly before e after hes hacts := absurd hacts (by simp [hquiet e (hes ▸ by simp)])
  writes := by
    rw [hquiet.filter_writes]
    exact .withheld

/-- After its policy is met, a request may do all that its work says. -/
theorem of_met (hpast : Quiet past) (hmet : r.Met license ctx past)
    (hwrites : r.work.Writes ctx (past ++ es) (es.filter Event.writes) response) :
    r.Conducted license ctx (past ++ es) response where
  orderly before e after hes hacts := by
    rcases split_append hes with ⟨mid, hmid⟩ | ⟨mid, rfl, -⟩
    · have hmem : e ∈ past := hmid ▸ by simp
      exact absurd hacts (by simp [hpast e hmem])
    · exact hmet.mono (List.subset_append_left past mid)
  writes := by
    rw [List.filter_append, hpast.filter_writes, List.nil_append]
    exact hwrites

end Conducted

end Request

end Tenancy
