import Tenancy.Proofs.Operation.Tasks
import Tenancy.Proofs.Request.Policy

/-!
# How operations are laid out

The operation that serves a request checks guards, and behind them it carries out a task. `Request.outline?` says which, for every
request that is more than a question and no letter, and `Platform.serve_eq` that the request is served in this way and no other.
What is to be shown of all operations is shown of guards that run their course, once and for all, and of the task that comes after
them (`Platform.ensures_outline`).
-/

namespace Tenancy

/-- What the operation that serves a request is equipped with, and its span. -/
def Request.home (p : Platform) : Request → Equipment × String
  | createUser _ => (p.accounts.equipment, "service.user/create")
  | getUser _ => (p.accounts.equipment, "service.user/get")
  | getUserByEmail _ => (p.accounts.equipment, "service.user/get_by_email")
  | getUsers _ _ => (p.accounts.equipment, "service.user/get_all")
  | updateUser _ _ => (p.accounts.equipment, "service.user/update")
  | deleteUser _ _ => (p.accounts.equipment, "service.user/delete")
  | createOrganization _ _ => (p.organizations.equipment, "service.organization/create")
  | getOrganization _ => (p.organizations.equipment, "service.organization/get")
  | getOrganizations _ _ => (p.organizations.equipment, "service.organization/get_all")
  | updateOrganization _ _ => (p.organizations.equipment, "service.organization/update")
  | deleteOrganization _ _ => (p.organizations.equipment, "service.organization/delete")
  | addMember _ _ => (p.organizations.equipment, "service.organization/add_member")
  | getMembers _ => (p.organizations.equipment, "service.organization/get_members")
  | removeMember _ _ => (p.organizations.equipment, "service.organization/remove_member")
  | invite _ _ _ => (p.organizations.equipment, "service.organization/invite")
  | grant _ => (p.access.equipment, "service.permission/create")
  | revoke _ => (p.access.equipment, "service.permission/delete")
  | hasPermission _ _ _ => (p.access.equipment, "service.permission/has_permission")
  | isPermitted _ _ => (p.access.equipment, "service.permission/ctx_user_permitted")
  | hasSystemRole _ => (p.access.equipment, "service.permission/ctx_user_has_system_role")
  | isLicenseExpired => (p.licensing.equipment, "service.license/expired")
  | hasFeature _ => (p.licensing.equipment, "service.license/has_feature")
  | isWithinThreshold _ => (p.licensing.equipment, "service.license/within_threshold")
  | getLicense => (p.licensing.equipment, "service.license/get_license")
  | pingLicense => (p.licensing.equipment, "service.license/ping")
  | sendPasswordReset _ _ => (p.correspondence.equipment, "service.email/send_auth_password_reset_email")
  | sendInvitation _ _ _ => (p.correspondence.equipment, "service.email/send_organization_invitation_email")
  | sendLicenseExpiry _ _ _ _ => (p.correspondence.equipment, "service.email/send_system_license_expiry_email")
  | sendWelcome _ => (p.correspondence.equipment, "service.email/send_user_welcome_email")

/-- The kind of the operation that serves a request, if it can fail. The lookup of a user is of one kind, whether by id or by
email. Questions about access always have an answer, and what else is asked of the service of the license is left out. -/
def Request.kind? : Request → Option ErrorKind
  | createUser _ => some .userCreate
  | getUser _ => some .userGet
  | getUserByEmail _ => some .userGet
  | getUsers _ _ => some .userGetAll
  | updateUser _ _ => some .userUpdate
  | deleteUser _ _ => some .userDelete
  | createOrganization _ _ => some .organizationCreate
  | getOrganization _ => some .organizationGet
  | getOrganizations _ _ => some .organizationGetAll
  | updateOrganization _ _ => some .organizationUpdate
  | deleteOrganization _ _ => some .organizationDelete
  | addMember _ _ => some .organizationAddMember
  | getMembers _ => some .organizationGetMembers
  | removeMember _ _ => some .organizationRemoveMember
  | invite _ _ _ => some .organizationInvite
  | grant _ => some .permissionCreate
  | revoke _ => some .permissionDelete
  | getLicense => some .licenseGet
  | sendPasswordReset _ _ => some .emailSend
  | sendInvitation _ _ _ => some .emailSend
  | sendLicenseExpiry _ _ _ _ => some .emailSend
  | sendWelcome _ => some .emailSend
  | _ => none

/-! ## Layouts -/

/-- What an operation checks, and what it does then. -/
structure Outline where
  guards : List Guard
  task : Step Response

/-- A call whose answer is shown, after guards. -/
def Outline.ofCall (ctx : Context) (guards : List Guard) (c : Call) (shown : c.Value → Response) : Outline where
  guards
  task := shown <$> Step.ask ctx c

/-- The layout of the operation that serves a request; there is none for questions, which have no guards and no kind, for what
else is asked of the service of the license, and for letters. -/
def Request.outline? (p : Platform) (ctx : Context) : Request → Option Outline
  | createUser user => some
    { guards := [.demand (!user.email.isEmpty) (.kind .invalidEmail), .valid .invalidUser user.violations,
        .right (.resource (Id.nil .user)) .create, .room p.accounts.licensing .users (.kind .quotaExceeded)]
      task := .user <$> p.accounts.enroll ctx user }
  | getUser id => some (.ofCall ctx [.named id .user] (.users (.get id)) .user)
  | getUserByEmail email => some
    (.ofCall ctx [.demand (!email.isEmpty) (.kind .invalidEmail)] (.users (.getByEmail email)) .user)
  | getUsers offset limit => some
    (.ofCall ctx [.page offset limit] (.users (.getAll offset.toNat limit.toNat)) .users)
  | updateUser id patch => some
    (.ofCall ctx
      ([.named id .user, .principal ctx] ++ Guard.rightUnless ctx id (.resource id) .write ++
        Guard.change .invalidUser patch.isEmpty patch.violations)
      (.users (.update id (Accounts.sealedPatch patch))) .user)
  | deleteUser id force => some
    (.ofCall ctx
      [.named id .user, .principal ctx, .demand (ctx.principal != some id) (.kind .noPermission), .right (.resource id) .delete]
      (if force then .users (.delete id) else .users (.update id UserPatch.softDelete)) fun _ => .nothing)
  | createOrganization owner organization => some
    { guards := [.named owner .user, .principal ctx] ++
        Guard.rightUnless ctx owner (.resource (Id.nil .organization)) .create ++
        [.valid .invalidOrganization organization.violations,
          .room p.organizations.licensing .organizations (.service .quotaExceeded)]
      task := .organization <$> p.organizations.found ctx owner organization }
  | getOrganization id => some (.ofCall ctx [.named id .organization] (.organizations (.get id)) .organization)
  | getOrganizations offset limit => some
    (.ofCall ctx [.page offset limit] (.organizations (.getAll offset.toNat limit.toNat)) .organizations)
  | updateOrganization id patch => some
    (.ofCall ctx
      ([.named id .organization, .principal ctx, .right (.resource id) .write] ++
        Guard.change .invalidOrganization patch.isEmpty patch.violations)
      (.organizations (.update id patch)) .organization)
  | deleteOrganization id force => some
    (.ofCall ctx [.named id .organization, .principal ctx, .right (.resource id) .delete]
      (if force then .organizations (.delete id) else .organizations (.update id OrganizationPatch.softDelete))
      fun _ => .nothing)
  | addMember organization user => some
    (.ofCall ctx
      [.named organization .organization, .named user .user, .principal ctx, .right (.resource organization) .write,
        .room p.organizations.licensing .users (.service .quotaExceeded)]
      (.organizations (.addMember organization user)) fun _ => .nothing)
  | getMembers organization => some
    { guards := [.named organization .organization]
      task := .members <$> p.organizations.list ctx organization }
  | removeMember organization user => some
    { guards := [.named organization .organization, .named user .user, .principal ctx,
        .right (.resource organization) .write]
      task := (fun _ => .nothing) <$> Organizations.expel ctx organization user }
  | invite organization user path => some
    { guards := [.demand p.organizations.users.isSome (.kind .noUserRepository),
        .demand p.organizations.correspondence.isSome (.kind .noEmailService),
        .named organization .organization, .named user .user, .principal ctx, .right (.resource organization) .write]
      task := (fun _ => .nothing) <$> p.organizations.write ctx organization user path }
  | grant permission => some
    (.ofCall ctx
      [.demand permission.isValid (.service .invalidPermission), .principal ctx, .right (.resource permission.target) .all]
      (.permissions (.create permission)) .permission)
  | revoke id => some
    (.ofCall ctx [.named id .permission, .principal ctx, .right (.ofPermission id) .all] (.permissions (.delete id))
      fun _ => .nothing)
  | getLicense => some
    { guards := []
      task := .license <$> p.licensing.disclose ctx }
  | _ => none

/-! ## Operations as they are laid out -/

/-- The body of an operation checks guards, and carries out a task behind them. -/
def LaidOut {α : Type} (e : Equipment) (ctx : Context) (span : String) (gs : List Guard) (task body : Step α) : Prop :=
  body = Guard.checkAll e ctx span gs >>= fun _ => task

namespace LaidOut

variable {α : Type} {e : Equipment} {ctx : Context} {span : String} {gs : List Guard} {task : Step α} {next : Unit → Step α}

/-- A task that follows no guards is laid out. -/
theorem done : LaidOut e ctx span [] task task := (pure_bind () fun _ => task).symm

/-- What comes first is the check of a guard. -/
theorem first {g : Guard} (h : LaidOut e ctx span gs task (next ())) :
    LaidOut e ctx span (g :: gs) task (g.check e ctx span >>= next) := by
  unfold LaidOut at h ⊢
  rw [Guard.checkAll, bind_assoc, ← h]

/-- A demand that comes first is a guard. -/
theorem demand {met : Bool} {complaint : Complaint} (h : LaidOut e ctx span gs task (next ())) :
    LaidOut e ctx span (.demand met complaint :: gs) task (Step.demand met complaint.failure >>= next) := h.first

/-- A demand that is met needs no check. -/
theorem met {complaint : Complaint} {body : Step α} (h : LaidOut e ctx span gs task body) :
    LaidOut e ctx span (.demand true complaint :: gs) task body := by
  unfold LaidOut at h ⊢
  rw [Guard.checkAll, bind_assoc, ← h]
  rfl

/-- A question for room that comes first is a guard. -/
theorem room {s : Licensing} {quota : Quota} {complaint : Complaint} (h : LaidOut e ctx span gs task (next ())) :
    LaidOut e ctx span (.room s quota complaint :: gs) task (s.demandRoom ctx quota complaint.failure >>= next) := h.first

/-- A question for a right that comes first is a guard. -/
theorem right {id : Id} {kind : PermissionKind} (h : LaidOut e ctx span gs task (next ())) :
    LaidOut e ctx span (.right (.resource id) kind :: gs) task
      ((liftM (e.permitted ctx span id [kind]) : Step Bool) >>= fun yes => Step.demand yes (.kind .noPermission) >>= next) := by
  have hfirst := h.first (g := .right (.resource id) kind)
  rwa [Guard.check, Policy.Target.find, pure_bind, bind_assoc] at hfirst

/-- The target of the right is that of a permission that is read first. -/
theorem rightOfPermission {id : Id} {kind : PermissionKind} (h : LaidOut e ctx span gs task (next ())) :
    LaidOut e ctx span (.right (.ofPermission id) kind :: gs) task
      ((Step.ask ctx (.permissions (.get id)) : Step Permission) >>= fun permission =>
        (liftM (e.permitted ctx span permission.target [kind]) : Step Bool) >>= fun yes =>
          Step.demand yes (.kind .noPermission) >>= next) := by
  refine Eq.trans ?_ (h.first (g := .right (.ofPermission id) kind))
  refine .symm ((bind_assoc _ _ _).trans ((bind_assoc _ _ _).trans ?_))
  exact congrArg (Step.ask ctx (.permissions (.get id)) >>= ·) (funext fun _ => (pure_bind _ _).trans (bind_assoc _ _ _))

/-- An authorization that comes first is two guards: there must be a principal, and it must hold the right. -/
theorem authorize {id : Id} {kind : PermissionKind} (h : LaidOut e ctx span gs task (next ())) :
    LaidOut e ctx span (.principal ctx :: .right (.resource id) kind :: gs) task
      (e.authorize ctx span id [kind] >>= next) := by
  unfold Equipment.authorize
  simp only [bind_assoc]
  exact h.right.demand

/-- An operation that needs its principal demands that there is one. -/
theorem principal {body : Id → Step α}
    (h : ∀ principal, ctx.principal = some principal → LaidOut e ctx span gs task (body principal)) :
    LaidOut e ctx span (.principal ctx :: gs) task (Step.principal ctx >>= body) := by
  unfold Step.principal Guard.principal
  split
  · next principal hprincipal =>
    rw [hprincipal]
    exact (h principal hprincipal).met
  · next hnone =>
    rw [hnone]
    rfl

/-- A principal who is demanded not to be a certain one. -/
theorem other {principal barred : Id} {complaint : Complaint} (hprincipal : ctx.principal = some principal)
    (h : LaidOut e ctx span gs task (next ())) :
    LaidOut e ctx span (.demand (ctx.principal != some barred) complaint :: gs) task
      (Step.demand (principal != barred) complaint.failure >>= next) := by
  rw [hprincipal]
  exact h.demand

/-- A right that one principal does not need is asked for of all others. -/
theorem rightUnless {principal exempt target : Id} {kind : PermissionKind} {body : Step α}
    (hprincipal : ctx.principal = some principal) (h : LaidOut e ctx span gs task body) :
    LaidOut e ctx span (Guard.rightUnless ctx exempt (.resource target) kind ++ gs) task
      (if principal ≠ exempt then
        (liftM (e.permitted ctx span target [kind]) : Step Bool) >>= fun yes =>
          Step.demand yes (.kind .noPermission) >>= fun _ => body
      else body) := by
  unfold Guard.rightUnless
  rw [hprincipal]
  by_cases hexempt : principal = exempt
  · rw [if_pos (congrArg some hexempt), if_neg (not_not.mpr hexempt)]
    exact h
  · rw [if_neg fun hsome => hexempt (Option.some.inj hsome), if_pos hexempt]
    exact right h

/-- A page is demanded to be in order. -/
theorem page {offset limit : Int} {body : Nat × Nat → Step α}
    (h : LaidOut e ctx span gs task (body (offset.toNat, limit.toNat))) :
    LaidOut e ctx span (.page offset limit :: gs) task (Step.page offset limit >>= body) := by
  unfold Step.page Guard.page
  by_cases hpage : offset < 0 ∨ limit ≤ 0
  · rw [if_pos hpage, decide_eq_false (by omega)]
    rfl
  · rw [if_neg hpage, decide_eq_true (by omega)]
    exact h.met

end LaidOut

namespace Platform

variable {p : Platform} {ctx : Context} {r : Request} {o : Outline} {kind : ErrorKind}

/-- An operation that is laid out is carried out so, whatever is shown of its task. -/
theorem respond_operation {α : Type} {e : Equipment} {name : String} {body task : Step α} {gs : List Guard}
    {shown : α → Response} {whole : Step Response} (h : LaidOut e ctx name gs task body) (hwhole : shown <$> task = whole) :
    respond shown (e.operation ctx name kind body) =
      e.operation ctx name kind (Guard.checkAll e ctx name gs >>= fun _ => whole) := by
  have hshown (r : Except Failure α) : (r.mapError (ServiceError.join kind)).map shown =
      (r.map shown).mapError (ServiceError.join kind) := by
    cases r <;> rfl
  unfold LaidOut at h
  rw [h, ← hwhole, ← map_bind]
  unfold respond Equipment.operation Equipment.span
  rw [ExceptT.run_map]
  simp only [map_eq_pure_bind, bind_assoc, pure_bind, hshown]

/-- An answer that is dropped is not shown. -/
theorem map_dropped {α : Type} (step : Step α) :
    (fun _ => Response.nothing) <$> (step >>= fun _ => pure ()) = (fun _ => Response.nothing) <$> step := by
  rw [map_bind, map_eq_pure_bind]
  rfl

/-- Every operation is served as it is laid out. -/
theorem serve_eq (h : r.outline? p ctx = some o) (hkind : r.kind? = some kind) :
    p.serve ctx r = (r.home p).1.operation ctx (r.home p).2 kind
      (Guard.checkAll (r.home p).1 ctx (r.home p).2 o.guards >>= fun _ => o.task) := by
  cases r with
  | createUser user =>
    cases h; cases hkind
    exact respond_operation (.demand (.demand (.right (.room .done)))) rfl
  | getUser id => cases h; cases hkind; exact respond_operation (.demand .done) rfl
  | getUserByEmail email => cases h; cases hkind; exact respond_operation (.demand .done) rfl
  | getUsers offset limit => cases h; cases hkind; exact respond_operation (.page .done) rfl
  | updateUser id patch =>
    cases h; cases hkind
    exact respond_operation (.demand (.principal fun _ hprincipal => .rightUnless hprincipal (.demand (.demand .done)))) rfl
  | deleteUser id force =>
    cases h; cases hkind
    refine respond_operation (.demand (.principal fun _ hprincipal => .other hprincipal (.right .done))) ?_
    cases force with
    | true => rfl
    | false => exact map_dropped _
  | createOrganization owner organization =>
    cases h; cases hkind
    exact respond_operation (.demand (.principal fun _ hprincipal => .rightUnless hprincipal (.demand (.room .done)))) rfl
  | getOrganization id => cases h; cases hkind; exact respond_operation (.demand .done) rfl
  | getOrganizations offset limit => cases h; cases hkind; exact respond_operation (.page .done) rfl
  | updateOrganization id patch =>
    cases h; cases hkind; exact respond_operation (.demand (.authorize (.demand (.demand .done)))) rfl
  | deleteOrganization id force =>
    cases h; cases hkind
    refine respond_operation (.demand (.authorize .done)) ?_
    cases force with
    | true => rfl
    | false => exact map_dropped _
  | addMember organization user =>
    cases h; cases hkind; exact respond_operation (.demand (.demand (.authorize (.room .done)))) rfl
  | getMembers organization => cases h; cases hkind; exact respond_operation (.demand .done) rfl
  | removeMember organization user =>
    cases h; cases hkind; exact respond_operation (.demand (.demand (.authorize .done))) rfl
  | invite organization user path =>
    cases h; cases hkind
    refine respond_operation ?_ rfl
    unfold Organizations.write
    cases husers : p.organizations.users with
    | none =>
      cases hletters : p.organizations.correspondence with
      | none => rfl
      | some letters => rfl
    | some users =>
      cases hletters : p.organizations.correspondence with
      | none => rfl
      | some letters => exact .met (.met (.demand (.demand (.authorize .done))))
  | grant permission => cases h; cases hkind; exact respond_operation (.demand (.authorize .done)) rfl
  | revoke id => cases h; cases hkind; exact respond_operation (.demand (.demand (.rightOfPermission .done))) rfl
  | getLicense => cases h; cases hkind; exact respond_operation .done rfl
  | _ => cases h

/-- The events of an operation until its task sets to work: its span is started, and its guards are checked. -/
def begun (p : Platform) (ctx : Context) (r : Request) (checked : List Event) : List Event :=
  (r.home p).1.left (.started (r.home p).2 ctx.principal) ++ checked

/-- Guards run their course, and turn the request away or let the task set to work. -/
theorem ensures_outline (h : r.outline? p ctx = some o) (hkind : r.kind? = some kind)
    {Q : List Event → Except ServiceError Response → Prop}
    (turned : ∀ checked cause, Guard.Course (r.home p).1 ctx (r.home p).2 o.guards checked (.error cause) →
      Q ((r.home p).1.enclosed ctx (r.home p).2 checked) (.error (.join kind cause)))
    (passed : ∀ checked, Guard.Course (r.home p).1 ctx (r.home p).2 o.guards checked (.ok ()) →
      o.task.Ensures (p.begun ctx r checked) fun es x =>
        Q (es ++ (r.home p).1.left (.ended (r.home p).2)) (x.mapError (.join kind))) :
    (p.serve ctx r).Ensures [] Q := by
  rw [serve_eq h hkind]
  refine Equipment.ensures_operation.mpr ?_
  rw [List.nil_append]
  exact Guard.ensures_checkAll_bind turned passed

/-- No operation that is laid out runs in the span of an invitation. -/
theorem home_ne_invitationSpan (h : r.outline? p ctx = some o) : (r.home p).2 ≠ Correspondence.invitationSpan := by
  cases r <;> cases h <;> simp [Request.home, Correspondence.invitationSpan]

/-- An operation that has checked its guards has changed nothing and handed nothing over. -/
theorem quiet_begun {checked : List Event} (h : r.outline? p ctx = some o) (hchecked : Quiet checked) :
    Quiet (p.begun ctx r checked) :=
  (Equipment.quiet_started (home_ne_invitationSpan h)).append hchecked

end Platform

/-! ## What the guards of a request ask for -/

namespace Request

variable {p : Platform} {ctx : Context} {r : Request} {o : Outline} {policy : Policy} {es : List Event}

/-- A request with guards has a kind, and is no request for a letter. -/
theorem exists_kind (h : r.outline? p ctx = some o) : (∃ kind, r.kind? = some kind) ∧ r.isLetter = false := by
  cases r <;> first | exact ⟨⟨_, rfl⟩, rfl⟩ | cases h

/-- No two guards of an operation ask the same. -/
theorem apart_guards (h : r.outline? p ctx = some o) : Guard.Apart o.guards := by
  have other (quota : Quota) (c : Call) (hc : c.IsAccess ∨ ∃ id, c = .permissions (.get id)) : ¬c = .count quota := by
    rcases hc with ⟨a, rfl⟩ | ⟨id, rfl⟩ <;> exact nofun
  cases r with
  | createUser user => cases h; simpa [Guard.Apart, Guard.Asks] using other _
  | addMember organization user => cases h; simpa [Outline.ofCall, Guard.Apart, Guard.Asks] using other _
  | updateUser id patch =>
    cases h
    unfold Outline.ofCall Guard.rightUnless
    split <;> simp [Guard.Apart, Guard.Asks]
  | createOrganization owner organization =>
    cases h
    unfold Guard.rightUnless
    split
    · simp [Guard.Apart, Guard.Asks]
    · simpa [Guard.Apart, Guard.Asks] using other _
  | _ => cases h <;> simp [Outline.ofCall, Guard.Apart, Guard.Asks]

/-- The platform has what an invitation takes: a store of users, and a service of letters. -/
def Equipped (p : Platform) : Request → Prop
  | invite _ _ _ => p.organizations.users.isSome = true ∧ p.organizations.correspondence.isSome = true
  | _ => True

/-- What the guards of a request ask for is its policy, and that the platform has what the request takes. -/
theorem foundAll_guards_iff (h : r.outline? p ctx = some o) (hpolicy : r.policy? = some policy) :
    Guard.FoundAll ctx es o.guards ↔ r.Equipped p ∧ policy.Met (p.licenseOf r) ctx es := by
  rw [Policy.met_iff, Policy.allows_iff]
  cases hprincipal : ctx.principal with
  | none =>
    -- nobody holds a right
    have unknown (target : Id) (kinds : List PermissionKind) : ¬Granted ctx target kinds es := by simp [Granted, hprincipal]
    cases r <;> cases h <;> cases hpolicy <;> simp [Outline.ofCall, unknown, hprincipal]
  | some principal =>
    cases r <;> cases h <;> cases hpolicy <;>
      simp [Equipped, Outline.ofCall, Platform.licenseOf, Policy.Target.Found, hprincipal] <;> tauto

end Request

/-- The response shows the value of the operation. -/
theorem Platform.value_respond {α σ : Type} {shown : α → Response} {op : Program (Except ServiceError α)} {w : World σ} {s : σ} :
    ((respond shown op).run w s).value = (op.run w s).value.map shown := by
  unfold respond
  rw [map_eq_pure_bind, Program.run_bind]
  rfl

/-- A request that is answered has found out all that its guards ask for. -/
theorem Platform.foundAll_of_ok {σ : Type} {p : Platform} {ctx : Context} {r : Request} {o : Outline} {w : World σ} {s : σ}
    {response : Response} (h : r.outline? p ctx = some o) (hvalue : ((p.serve ctx r).run w s).value = .ok response) :
    Guard.FoundAll ctx ((p.serve ctx r).trace w s) o.guards := by
  obtain ⟨⟨kind, hkind⟩, -⟩ := Request.exists_kind h
  have hserve : (p.serve ctx r).Ensures [] fun es x => x.isOk = true → Guard.FoundAll ctx es o.guards := by
    refine ensures_outline h hkind (fun _ _ _ => nofun) fun checked hcourse => ?_
    refine Program.Ensures.mono (Program.ensures_extends _) fun es _ hes _ => ?_
    have hfound := (hcourse.ok_iff (Request.apart_guards h)).mp rfl
    refine fun g hg => (hfound g hg).mono fun e he => ?_
    exact List.mem_append_left _ (hes.subset (List.mem_append_right _ he))
  exact hserve.run w s (by rw [hvalue]; rfl)

/-! ## Services by themselves -/

/-- The platform around a service of users. -/
def Accounts.platform (s : Accounts) : Platform where
  access := s.licensing.access
  licensing := s.licensing
  correspondence := { equipment := s.equipment, client := ⟨"mail"⟩, hostname := "", supportAddress := "" }
  accounts := s
  organizations := { equipment := s.equipment, licensing := s.licensing }

/-- The platform around a service of organizations. -/
def Organizations.platform (s : Organizations) : Platform where
  access := s.licensing.access
  licensing := s.licensing
  correspondence := { equipment := s.equipment, client := ⟨"mail"⟩, hostname := "", supportAddress := "" }
  accounts := ⟨s.equipment, s.licensing⟩
  organizations := s

end Tenancy
