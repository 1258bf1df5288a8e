import Tenancy.Accounts
import Tenancy.Organizations
import Tenancy.Proofs.Operation.Guards

/-!
# Tasks of operations

Behind its guards, an operation carries out a task. For each task that is more than a single call, one relation says all that can
come of it, and with which events: `Accounts.Enrolls`, `Organizations.Founds`, `Organizations.Shows`, `Organizations.Expels`,
`Organizations.Issues`, and `Licensing.Discloses`; a letter is written as `Correspondence.Sends` says. Of a single call,
`Event.Yields` says so already. What is to be shown of an operation is shown of the course of its guards, and of its task by cases
on these relations.
-/

namespace Tenancy

open Step Telemetry

/-- The event by which something is logged. -/
def Equipment.logged (e : Equipment) (level : Level) (message : String) : Event := .noted (.logged level e.logger.name message)

/-- To log something is to leave its event. -/
theorem Equipment.ensures_log {e : Equipment} {level : Level} {message : String} {past : List Event}
    {Q : List Event → Unit → Prop} : (e.log level message).Ensures past Q ↔ Q (past ++ [e.logged level message]) () := Iff.rfl

/-! ## Letters -/

namespace Correspondence

variable {s : Correspondence} {ctx : Context} {name path recipient : String} {letter : Letter} {data : TemplateData}
  {past : List Event}

/-- What comes of rendering, and the events of it: the built-in templates are filled in, and a renderer from outside is called
and answers what it likes. -/
def Renders (s : Correspondence) (path : String) (data : TemplateData) (reply : Except TemplateError RenderedLetter)
    (rendering : List Event) : Prop :=
  match s.renderer with
  | .builtIn => reply = RenderedLetter.ofPath path data ∧ rendering = []
  | .supplied _ => rendering = [.insisted (.render path data) reply]

/-- All that can come of writing a letter, and with which events: it is rendered, its sending is announced and attempted, and that
it is sent is logged. -/
inductive Sends (s : Correspondence) (ctx : Context) (name : String) (letter : Letter) (recipient : String) (data : TemplateData) :
    List Event → Except ServiceError Unit → Prop where
  | unrendered {fault : TemplateError} {rendering : List Event} : s.Renders letter.path data (.error fault) rendering →
    Sends s ctx name letter recipient data (s.equipment.enclosed ctx name rendering) (.error (.join .emailSend (.template fault)))
  | unsent {rendered : RenderedLetter} {rendering : List Event} {attempt : Event} {cause : Failure} :
    s.Renders letter.path data (.ok rendered) rendering → attempt.Yields ctx (.send recipient rendered) (.error cause) →
    Sends s ctx name letter recipient data
      (s.equipment.enclosed ctx name (rendering ++ (s.equipment.left (.event name "send email") ++ [attempt])))
      (.error (.join .emailSend cause))
  | sent {rendered : RenderedLetter} {rendering : List Event} : s.Renders letter.path data (.ok rendered) rendering →
    Sends s ctx name letter recipient data
      (s.equipment.enclosed ctx name (rendering ++ (s.equipment.left (.event name "send email") ++
        [.answered ctx (.send recipient rendered) (.ok ()), s.equipment.logged .debug (letter.path ++ " email sent")])))
      (.ok ())

/-- To render a letter ensures what holds of all that can come of rendering. -/
theorem ensures_render {Q : List Event → Except Failure RenderedLetter → Prop}
    (h : ∀ rendering reply, s.Renders path data reply rendering → Q (past ++ rendering) (reply.mapError .template)) :
    (s.render path data).Ensures past Q := by
  unfold render
  split
  · next builtIn =>
    have hrenders : s.Renders path data (RenderedLetter.ofPath path data) [] := by
      unfold Renders
      rw [builtIn]
      exact ⟨rfl, rfl⟩
    have hrendered := h [] _ hrenders
    rwa [List.append_nil] at hrendered
  · next renderer supplied =>
    refine Program.ensures_map.mpr fun reply => h [.insisted (.render path data) reply] reply ?_
    unfold Renders
    rw [supplied]

/-- Whatever comes of its calls, a letter is written so. -/
theorem ensures_send {Q : List Event → Except ServiceError Unit → Prop}
    (h : ∀ added r, s.Sends ctx name letter recipient data added r → Q (past ++ added) r) :
    (s.send ctx name letter recipient data).Ensures past Q := by
  refine Equipment.ensures_operation.mpr (ensures_bind.mpr (ensures_render fun rendering reply hrenders => ?_))
  cases reply with
  | error fault =>
    change Q _ (.error (.join .emailSend (.template fault)))
    simpa [Equipment.enclosed] using h _ _ (.unrendered hrenders)
  | ok rendered =>
    refine ensures_bind.mpr (ensures_lift.mpr (Equipment.ensures_leave.mpr ?_))
    refine ensures_bind.mpr (ensures_attempt fun attempt r hyields => ?_)
    cases r with
    | error cause =>
      change Q _ (.error (.join .emailSend cause))
      simpa [Equipment.enclosed] using h _ _ (.unsent hrenders hyields)
    | ok v =>
      cases hyields
      have hQ := h _ _ (.sent hrenders)
      refine ensures_lift.mpr (Equipment.ensures_log.mpr ?_)
      simp only [Equipment.enclosed, List.append_assoc, List.cons_append, List.nil_append] at hQ ⊢
      exact hQ

end Correspondence

/-! ## Users -/

namespace Accounts

variable {s : Accounts} {ctx : Context} {user : User} {past : List Event}

/-- Stores a user, and logs it. -/
def enroll (s : Accounts) (ctx : Context) (user : User) : Step User := do
  let created : User ← Step.ask ctx (.users (.create (sealed user)))
  s.equipment.log .debug ("user " ++ created.id.text ++ " created")
  return created

/-- All that can come of storing a user, and with which events. -/
inductive Enrolls (s : Accounts) (ctx : Context) (user : User) : List Event → Except Failure User → Prop where
  | failed {attempt : Event} {cause : Failure} : attempt.Yields ctx (.users (.create (sealed user))) (.error cause) →
    Enrolls s ctx user [attempt] (.error cause)
  | stored (created : User) : Enrolls s ctx user
    [.answered ctx (.users (.create (sealed user))) (.ok created),
      s.equipment.logged .debug ("user " ++ created.id.text ++ " created")]
    (.ok created)

/-- To store a user ensures what holds of all that can come of it. -/
theorem ensures_enroll {Q : List Event → Except Failure User → Prop}
    (h : ∀ added r, s.Enrolls ctx user added r → Q (past ++ added) r) : (s.enroll ctx user).Ensures past Q := by
  refine ensures_bind.mpr (ensures_attempt fun attempt r hyields => ?_)
  cases r with
  | error cause => exact h _ _ (.failed hyields)
  | ok created =>
    cases hyields
    refine ensures_bind.mpr (ensures_lift.mpr (Equipment.ensures_log.mpr ?_))
    change Q _ (.ok created)
    simpa using h _ _ (.stored created)

end Accounts

/-! ## Organizations -/

namespace Organizations

variable {s : Organizations} {ctx : Context} {organization user : Id} {past : List Event}

section

variable {owner : Id} {given : Organization}

/-- Creates an organization, and entrusts it to its owner. -/
def found (s : Organizations) (ctx : Context) (owner : Id) (organization : Organization) : Step Organization := do
  let created : Organization ← Step.ask ctx (.organizations (.create owner organization))
  s.entrust ctx owner created
  return created

/-- The call by which the owner of an organization is given all rights on it. -/
def entrusting (owner id : Id) : Call := .permissions (.create (Permission.fresh owner id .all))

/-- The events of withdrawing an organization: it is deleted outside the context, and a failure of that is logged. -/
def withdrawal (s : Organizations) (id : Id) (undone : Except RepositoryError Unit) : List Event :=
  .insisted (.organizations (.delete id)) undone ::
    match undone with
    | .ok _ => []
    | .error fault =>
      [s.equipment.logged .warn ("failed to remove organization " ++ id.text ++ " without owner: " ++ fault.text)]

/-- All that can come of founding an organization, and with which events: one that cannot be entrusted to its owner is withdrawn. -/
inductive Founds (s : Organizations) (ctx : Context) (owner : Id) (given : Organization) :
    List Event → Except Failure Organization → Prop where
  | unfounded {attempt : Event} {cause : Failure} :
    attempt.Yields ctx (.organizations (.create owner given)) (.error cause) → Founds s ctx owner given [attempt] (.error cause)
  | founded (created : Organization) (granted : Permission) : Founds s ctx owner given
    [.answered ctx (.organizations (.create owner given)) (.ok created),
      .answered ctx (entrusting owner created.id) (.ok granted)]
    (.ok created)
  | withdrawn (created : Organization) {attempt : Event} {cause : Failure} (undone : Except RepositoryError Unit) :
    attempt.Yields ctx (entrusting owner created.id) (.error cause) → Founds s ctx owner given
      (.answered ctx (.organizations (.create owner given)) (.ok created) :: attempt :: s.withdrawal created.id undone)
      (.error cause)

/-- The withdrawal of an organization is about nothing but its deletion. -/
theorem concern_withdrawal {id : Id} {undone : Except RepositoryError Unit} :
    Concern (· = .organizations (.delete id)) (s.withdrawal id undone) := by
  intro event hmem c hc
  rcases List.mem_cons.mp hmem with rfl | hmem
  · exact (Option.some.inj hc).symm
  · cases undone with
    | ok v => cases hmem
    | error fault =>
      rw [List.mem_singleton.mp hmem] at hc
      cases hc

/-- To withdraw an organization ensures what holds however its deletion is answered. -/
theorem ensures_withdraw {id : Id} {Q : List Event → Unit → Prop} (h : ∀ undone, Q (past ++ s.withdrawal id undone) ()) :
    (s.withdraw id).Ensures past Q := by
  refine Program.ensures_bind.mpr fun undone => ?_
  cases undone with
  | ok v => exact h (.ok v)
  | error fault =>
    have hQ := h (.error fault)
    unfold withdrawal at hQ
    rw [List.append_cons] at hQ
    exact Equipment.ensures_log.mpr hQ

/-- To found an organization ensures what holds of all that can come of it. -/
theorem ensures_found {Q : List Event → Except Failure Organization → Prop}
    (h : ∀ added r, s.Founds ctx owner given added r → Q (past ++ added) r) : (s.found ctx owner given).Ensures past Q := by
  refine ensures_bind.mpr (ensures_attempt fun attempt r hyields => ?_)
  cases r with
  | error cause => exact h _ _ (.unfounded hyields)
  | ok created =>
    cases hyields
    refine ensures_bind.mpr (ensures_tryCatch.mpr (ensures_bind.mpr (ensures_attempt fun attempt r hyields => ?_)))
    cases r with
    | error cause =>
      refine ensures_bind.mpr (ensures_lift.mpr (ensures_withdraw fun undone => ?_))
      change Q _ (.error cause)
      simpa using h _ _ (.withdrawn created undone hyields)
    | ok granted =>
      cases hyields
      change Q _ (.ok created)
      simpa [entrusting] using h _ _ (.founded created granted)

end

/-- Reads members, and asks of each whether they own the organization. -/
def list (s : Organizations) (ctx : Context) (organization : Id) : Step (List OrganizationMember) := do
  let members : List OrganizationMember ← Step.ask ctx (.organizations (.getMembers organization))
  members.mapM fun member =>
    (s.annotate ctx "service.organization/get_members" organization member : Step OrganizationMember)

/-- All that can come of asking whether members own an organization, and with which events: one question after the other. -/
inductive Annotates (s : Organizations) (ctx : Context) (span : String) (organization : Id) :
    List OrganizationMember → List Event → List OrganizationMember → Prop where
  | nil : Annotates s ctx span organization [] [] []
  | cons {member : OrganizationMember} {members others : List OrganizationMember} {asking later : List Event} {owns : Bool} :
    s.equipment.Settles ctx span (s.equipment.question? member.user.id organization [.all]) asking owns →
    Annotates s ctx span organization members later others →
    Annotates s ctx span organization (member :: members) (asking ++ later)
      ((if owns then { member with roles := member.roles.insert OrganizationMember.ownerRole } else member) :: others)

/-- All that can come of reading the members of an organization, and with which events. -/
inductive Shows (s : Organizations) (ctx : Context) (organization : Id) :
    List Event → Except Failure (List OrganizationMember) → Prop where
  | unread {attempt : Event} {cause : Failure} :
    attempt.Yields ctx (.organizations (.getMembers organization)) (.error cause) → Shows s ctx organization [attempt] (.error cause)
  | shown {members shown : List OrganizationMember} {asking : List Event} :
    s.Annotates ctx "service.organization/get_members" organization members asking shown →
    Shows s ctx organization (.answered ctx (.organizations (.getMembers organization)) (.ok members) :: asking) (.ok shown)

/-- To ask of each member whether they own the organization ensures what holds of all that can come of it. -/
theorem ensures_annotateAll {span : String} {members : List OrganizationMember}
    {Q : List Event → Except Failure (List OrganizationMember) → Prop}
    (h : ∀ added shown, s.Annotates ctx span organization members added shown → Q (past ++ added) (.ok shown)) :
    Step.Ensures (members.mapM fun member => (s.annotate ctx span organization member : Step OrganizationMember)) past Q := by
  induction members generalizing past Q with
  | nil =>
    have hQ := h [] [] .nil
    rw [List.append_nil] at hQ
    exact hQ
  | cons member rest ih =>
    rw [List.mapM_cons]
    refine ensures_bind.mpr (ensures_lift.mpr (Program.ensures_bind.mpr (Equipment.ensures_holds fun asking owns hsettles => ?_)))
    have hrest : Step.Ensures (do
        let others ← rest.mapM fun member => (s.annotate ctx span organization member : Step OrganizationMember)
        pure ((if owns then { member with roles := member.roles.insert OrganizationMember.ownerRole } else member) :: others))
        (past ++ asking) Q := by
      refine ensures_bind.mpr (ih fun later others hannotates => ?_)
      have hQ := h _ _ (.cons hsettles hannotates)
      rwa [← List.append_assoc] at hQ
    cases owns with
    | true => exact hrest
    | false => exact hrest

/-- To read the members ensures what holds of all that can come of it. -/
theorem ensures_list {Q : List Event → Except Failure (List OrganizationMember) → Prop}
    (h : ∀ added r, s.Shows ctx organization added r → Q (past ++ added) r) : (s.list ctx organization).Ensures past Q := by
  refine ensures_bind.mpr (ensures_attempt fun attempt r hyields => ?_)
  cases r with
  | error cause => exact h _ _ (.unread hyields)
  | ok members =>
    cases hyields
    refine ensures_annotateAll fun asking shown hannotates => ?_
    have hQ := h _ _ (.shown hannotates)
    rwa [← List.singleton_append, ← List.append_assoc] at hQ

/-- Removes a member after their permissions, unless they hold all rights. -/
def expel (ctx : Context) (organization user : Id) : Step Unit := do
  let permissions : List Permission ← Step.ask ctx (.permissions (.getByTarget organization))
  let held := permissions.filter fun p => p.subject == user
  Step.demand (held.all fun p => p.kind != .all) (.kind .noPermission)
  revokeAll ctx held
  Step.ask ctx (.organizations (.removeMember organization user))

/-- All that can come of removing a member who holds permissions, and with which events: each is revoked in turn, and then the
member is removed. -/
inductive Strips (ctx : Context) (organization user : Id) : List Permission → List Event → Except Failure Unit → Prop where
  | kept {attempt : Event} {cause : Failure} :
    attempt.Yields ctx (.organizations (.removeMember organization user)) (.error cause) →
    Strips ctx organization user [] [attempt] (.error cause)
  | removed : Strips ctx organization user [] [.answered ctx (.organizations (.removeMember organization user)) (.ok ())] (.ok ())
  | stuck {permission : Permission} {rest : List Permission} {attempt : Event} {cause : Failure} :
    attempt.Yields ctx (.permissions (.delete permission.id)) (.error cause) →
    Strips ctx organization user (permission :: rest) [attempt] (.error cause)
  | revoked {permission : Permission} {rest : List Permission} {later : List Event} {r : Except Failure Unit} :
    Strips ctx organization user rest later r →
    Strips ctx organization user (permission :: rest)
      (.answered ctx (.permissions (.delete permission.id)) (.ok ()) :: later) r

/-- All that can come of removing a member, and with which events: one who holds all rights stays. -/
inductive Expels (ctx : Context) (organization user : Id) : List Event → Except Failure Unit → Prop where
  | unread {attempt : Event} {cause : Failure} :
    attempt.Yields ctx (.permissions (.getByTarget organization)) (.error cause) →
    Expels ctx organization user [attempt] (.error cause)
  | barred {permissions : List Permission} :
    ((permissions.filter fun p => p.subject == user).all fun p => p.kind != .all) = false →
    Expels ctx organization user [.answered ctx (.permissions (.getByTarget organization)) (.ok permissions)]
      (.error (.kind .noPermission))
  | stripped {permissions : List Permission} {later : List Event} {r : Except Failure Unit} :
    ((permissions.filter fun p => p.subject == user).all fun p => p.kind != .all) = true →
    Strips ctx organization user (permissions.filter fun p => p.subject == user) later r →
    Expels ctx organization user (.answered ctx (.permissions (.getByTarget organization)) (.ok permissions) :: later) r

/-- To remove a member after their permissions ensures what holds of all that can come of it. -/
theorem ensures_strip {held : List Permission} {Q : List Event → Except Failure Unit → Prop}
    (h : ∀ added r, Strips ctx organization user held added r → Q (past ++ added) r) :
    (revokeAll ctx held >>= fun _ => Step.ask ctx (.organizations (.removeMember organization user))).Ensures past Q := by
  induction held generalizing past with
  | nil =>
    refine ensures_attempt fun attempt r hyields => ?_
    cases r with
    | error cause => exact h _ _ (.kept hyields)
    | ok v =>
      cases hyields
      exact h _ _ .removed
  | cons permission rest ih =>
    unfold revokeAll
    refine ensures_bind.mpr (ensures_bind.mpr (ensures_attempt fun attempt r hyields => ?_))
    cases r with
    | error cause => exact h _ _ (.stuck hyields)
    | ok v =>
      cases hyields
      refine ensures_bind.mp (ih fun later r hstrips => ?_)
      have hQ := h _ _ (.revoked hstrips)
      rwa [← List.singleton_append, ← List.append_assoc] at hQ

/-- To remove a member ensures what holds of all that can come of it. -/
theorem ensures_expel {Q : List Event → Except Failure Unit → Prop}
    (h : ∀ added r, Expels ctx organization user added r → Q (past ++ added) r) :
    (expel ctx organization user).Ensures past Q := by
  refine ensures_bind.mpr (ensures_attempt fun attempt r hyields => ?_)
  cases r with
  | error cause => exact h _ _ (.unread hyields)
  | ok permissions =>
    cases hyields
    refine ensures_bind.mpr (Guard.ensures_demand_iff.mpr ?_)
    cases hheld : (permissions.filter fun p => p.subject == user).all fun p => p.kind != .all with
    | false => exact h _ _ (.barred hheld)
    | true =>
      refine ensures_strip fun later r hstrips => ?_
      have hQ := h _ _ (.stripped hheld hstrips)
      rwa [← List.singleton_append, ← List.append_assoc] at hQ

/-- Reads whom to invite and where to, and has the letter written. -/
def write (s : Organizations) (ctx : Context) (organization user : Id) (path : String) : Step Unit :=
  match s.correspondence with
  | none => throw (.kind .noEmailService)
  | some letters => do
    let inviting : Organization ← Step.ask ctx (.organizations (.get organization))
    let invited : User ← Step.ask ctx (.users (.get user))
    Step.ofOperation (letters.invitation ctx inviting invited path)

/-- All that can come of issuing an invitation, and with which events. -/
inductive Issues (s : Organizations) (ctx : Context) (organization user : Id) (path : String) :
    List Event → Except Failure Unit → Prop where
  | unserved : s.correspondence = none → Issues s ctx organization user path [] (.error (.kind .noEmailService))
  /-- The organization cannot be read. -/
  | unread {attempt : Event} {cause : Failure} : attempt.Yields ctx (.organizations (.get organization)) (.error cause) →
    Issues s ctx organization user path [attempt] (.error cause)
  /-- The user cannot be read. -/
  | unmet {inviting : Organization} {attempt : Event} {cause : Failure} : attempt.Yields ctx (.users (.get user)) (.error cause) →
    Issues s ctx organization user path [.answered ctx (.organizations (.get organization)) (.ok inviting), attempt] (.error cause)
  | written {letters : Correspondence} {inviting : Organization} {invited : User} {writing : List Event}
    {r : Except ServiceError Unit} : s.correspondence = some letters →
    letters.Sends ctx Correspondence.invitationSpan .organizationInvite invited.email
      (letters.invitationData inviting invited path) writing r →
    Issues s ctx organization user path
      (.answered ctx (.organizations (.get organization)) (.ok inviting) :: .answered ctx (.users (.get user)) (.ok invited) ::
        writing)
      (r.mapError ServiceError.toFailure)

/-- To issue an invitation ensures what holds of all that can come of it. -/
theorem ensures_write {path : String} {Q : List Event → Except Failure Unit → Prop}
    (h : ∀ added r, s.Issues ctx organization user path added r → Q (past ++ added) r) :
    (s.write ctx organization user path).Ensures past Q := by
  unfold write
  split
  · next hnone =>
    have hQ := h _ _ (.unserved hnone)
    rwa [List.append_nil] at hQ
  · next letters hsome =>
    refine ensures_bind.mpr (ensures_attempt fun attempt r hyields => ?_)
    cases r with
    | error cause => exact h _ _ (.unread hyields)
    | ok inviting =>
      cases hyields
      refine ensures_bind.mpr (ensures_attempt fun attempt r hyields => ?_)
      rw [List.append_assoc]
      cases r with
      | error cause => exact h _ _ (.unmet hyields)
      | ok invited =>
        cases hyields
        refine ensures_ofOperation.mpr (Correspondence.ensures_send fun writing r hsends => ?_)
        rw [List.append_assoc]
        exact h _ _ (.written hsome hsends)

end Organizations

/-! ## The license -/

/-- The span of the question for the roles of the principal. -/
def AccessControl.rolesSpan : String := "service.permission/ctx_user_has_system_role"

namespace AccessControl

variable {s : AccessControl} {ctx : Context} {roles : List SystemRole} {past : List Event}

/-- The question whether the principal has one of the roles; there is none without a principal. -/
def roleQuestion? (ctx : Context) (roles : List SystemRole) : Option AccessCall :=
  ctx.principal.map fun principal => .hasSystemRole principal roles

/-- The question for the roles of the principal ensures what holds of all ways in which it is settled. -/
theorem ensures_hasSystemRole {Q : List Event → Bool → Prop}
    (h : ∀ asking yes, s.equipment.Settles ctx rolesSpan (roleQuestion? ctx roles) asking yes →
      Q (past ++ s.equipment.enclosed ctx rolesSpan asking) yes) :
    (s.hasSystemRole ctx roles).Ensures past Q := by
  refine Equipment.ensures_span.mpr ?_
  unfold roleQuestion? at h
  split
  · next principal hprincipal =>
    rw [hprincipal] at h
    refine Equipment.ensures_check fun asking yes hsettles => ?_
    have hQ := h _ _ hsettles
    simpa [Equipment.enclosed, rolesSpan] using hQ
  · next hnone =>
    have hQ := h [] false (.unasked (by rw [hnone]; rfl))
    simpa [Equipment.enclosed, rolesSpan] using hQ

end AccessControl

namespace Licensing

variable {s : Licensing} {ctx : Context} {past : List Event}

/-- Gives the license to those who have one of the roles that may read it. -/
def disclose (s : Licensing) (ctx : Context) : Step License := do
  Step.demand (← s.access.hasSystemRole ctx SystemRole.licenseReaders) (.kind .noPermission)
  return s.license

/-- All that can come of disclosing the license, and with which events: only who has one of the roles is given it. -/
inductive Discloses (s : Licensing) (ctx : Context) : List Event → Except Failure License → Prop where
  | asked {asking : List Event} {yes : Bool} :
    s.access.equipment.Settles ctx AccessControl.rolesSpan (AccessControl.roleQuestion? ctx SystemRole.licenseReaders) asking yes →
    Discloses s ctx (s.access.equipment.enclosed ctx AccessControl.rolesSpan asking)
      (if yes then .ok s.license else .error (.kind .noPermission))

/-- To disclose the license ensures what holds of all that can come of it. -/
theorem ensures_disclose {Q : List Event → Except Failure License → Prop}
    (h : ∀ added r, s.Discloses ctx added r → Q (past ++ added) r) : (s.disclose ctx).Ensures past Q := by
  refine ensures_bind.mpr (ensures_lift.mpr (AccessControl.ensures_hasSystemRole fun asking yes hsettles => ?_))
  refine ensures_bind.mpr (Guard.ensures_demand_iff.mpr ?_)
  have hQ := h _ _ (.asked hsettles)
  cases yes with
  | true => exact hQ
  | false => exact hQ

end Licensing

end Tenancy
