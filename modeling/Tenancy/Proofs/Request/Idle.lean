import Tenancy.Proofs.Context.Interruption
import Tenancy.Proofs.Monitoring.Health
import Tenancy.Proofs.Program.Idle
import Tenancy.Proofs.Request.Outline

/-!
# A context that is done does no work

When the context of a request is done as it comes in, nothing is done for it: no store is read or changed, nothing is counted,
no letter is sent, and no component is pinged. A request that would need any of it fails, a question about access is answered by
no, and all components count as unhealthy, for the reason for which the context is done. The deletion outside the context with
which the creation of an organization may end is out of reach, since nothing has been created.
-/

namespace Tenancy

open Step Program Equipment

variable {ctx : Context}

namespace Licensing

variable (s : Licensing)

/-- To ask whether the license has expired is idle. -/
theorem idles_expired : (s.expired ctx).Idles ctx fun _ => True := by
  refine idles_span _ ?_
  exact idles_time.bind fun _ _ => trivial

/-- To ask for a feature is idle. -/
theorem idles_hasFeature (feature : String) : (s.hasFeature ctx feature).Idles ctx fun _ => True := idles_span _ trivial

theorem idles_ping : (s.ping ctx).Idles ctx fun _ => True := by
  refine idles_span _ ?_
  exact idles_time.bind fun _ _ => trivial

/-- The resources are not counted, and a license without the cap fails anyway. -/
theorem fails_withinThreshold (quota : Quota) : (s.withinThreshold ctx quota).Fails ctx := by
  refine idles_span _ ?_
  split
  · exact ⟨_, rfl⟩
  · refine (fails_ask ctx (.count quota)).bind ?_
    rintro _ ⟨cause, rfl⟩
    exact ⟨_, rfl⟩

end Licensing

namespace AccessControl

variable (s : AccessControl)

/-- When the context is done, the question for a permission is answered no. -/
theorem idles_hasPermission (subject target : Id) (kinds : List PermissionKind) :
    (s.hasPermission ctx subject target kinds).Idles ctx (· = false) :=
  idles_span _ (idles_holds _ _ _ _ _)

/-- When the context is done, the question whether something is permitted is answered no. -/
theorem idles_isPermitted (target : Id) (kinds : List PermissionKind) :
    (s.isPermitted ctx target kinds).Idles ctx (· = false) :=
  idles_span _ (idles_permitted _ _ _ _)

/-- When the context is done, the question for roles is answered no. -/
theorem idles_hasSystemRole (roles : List SystemRole) : (s.hasSystemRole ctx roles).Idles ctx (· = false) := by
  refine idles_span _ ?_
  split
  · exact idles_check _ _ _
  · exact rfl

end AccessControl

/-- A letter may be rendered, but it is not sent. -/
theorem Correspondence.fails_send (s : Correspondence) (name : String) (letter : Letter) (recipient : String)
    (data : TemplateData) : (s.send ctx name letter recipient data).Fails ctx := by
  have hrender : (s.render letter.path data).run.Idles ctx fun _ => True := by
    unfold render
    split
    · exact trivial
    · exact ⟨⟨_, _, rfl⟩, fun reply => trivial⟩
  refine fails_operation _ ?_
  refine fails_bind hrender fun rendered _ => ?_
  refine fails_bind (idles_lift (idles_event _ _ _)) fun _ _ => ?_
  exact fails_bind_left (fails_ask ctx _)

/-! ## Guards and tasks -/

namespace Guard

variable {e : Equipment} {span : String}

/-- A guard does nothing under a context that is done, whether or not it lets the operation pass. -/
theorem idles_check (g : Guard) : (g.check e ctx span).run.Idles ctx fun _ => True := by
  cases g with
  | demand met complaint => exact idles_demand
  | right target kind =>
    have hfind : (target.find ctx).run.Idles ctx fun _ => True := by
      cases target with
      | resource id => exact trivial
      | ofPermission id => exact idles_bind ((fails_ask ctx _).mono fun _ _ => trivial) fun _ => trivial
    refine idles_bind hfind fun id => idles_bind ?_ fun _ => idles_demand
    exact (idles_lift (idles_permitted e span id [kind])).mono fun _ _ => trivial
  | room s quota complaint =>
    exact idles_bind ((fails_ofOperation (s.fails_withinThreshold quota)).mono fun _ _ => trivial) fun _ => idles_demand

/-- Guards are idle one after the other. -/
theorem idles_checkAll (gs : List Guard) : (checkAll e ctx span gs).run.Idles ctx fun _ => True := by
  induction gs with
  | nil => exact trivial
  | cons g rest ih => exact idles_bind g.idles_check fun _ => ih

end Guard

/-- A task fails under a context that is done, at its first call. The creation of an organization fails before anything is created,
so that there is nothing to withdraw. -/
theorem Request.fails_task {p : Platform} {r : Request} {o : Outline} (h : r.outline? p ctx = some o) : o.task.run.Fails ctx := by
  cases r with
  | createUser user => cases h; exact fails_map (fails_bind_left (fails_ask ctx _))
  | createOrganization owner organization => cases h; exact fails_map (fails_bind_left (fails_ask ctx _))
  | getMembers organization => cases h; exact fails_map (fails_bind_left (fails_ask ctx _))
  | removeMember organization user => cases h; exact fails_map (fails_bind_left (fails_ask ctx _))
  | invite organization user path =>
    cases h
    refine fails_map ?_
    unfold Organizations.write
    split
    · exact fails_throw _
    · exact fails_bind_left (fails_ask ctx _)
  | getLicense => cases h; exact fails_map (fails_answer_bind (p.licensing.access.idles_hasSystemRole _))
  | _ => cases h <;> exact fails_map (fails_ask ctx _)

/-! ## Requests -/

/-- What becomes of a request for which nothing can be done. -/
inductive Standstill where
  | failure
  /-- A question about access is answered by no. -/
  | no
  /-- Nothing needs to be done, and the request is answered as ever. -/
  | asEver
deriving DecidableEq

namespace Request

/-- What becomes of each request when nothing can be done for it. -/
def standstill : Request → Standstill
  | hasPermission _ _ _ => .no
  | isPermitted _ _ => .no
  | hasSystemRole _ => .no
  | isLicenseExpired => .asEver
  | hasFeature _ => .asEver
  | pingLicense => .asEver
  | _ => .failure

/-- How a request ends for which nothing could be done. -/
def Unserved (r : Request) (value : Except ServiceError Response) : Prop :=
  match r.standstill with
  | .failure => ∃ e, value = .error e
  | .no => value = .ok (.flag false)
  | .asEver => True

end Request

namespace Platform

variable (p : Platform) {r : Request}

/-- A request that needs something done fails. -/
theorem unserved_of_fails {op : Program (Except ServiceError Response)} (h : op.Fails ctx) (hr : r.standstill = .failure) :
    op.Idles ctx r.Unserved := by
  refine h.mono ?_
  rintro _ ⟨e, rfl⟩
  unfold Request.Unserved
  rw [hr]
  exact ⟨e, rfl⟩

/-- How the value is shown makes no difference to a request that fails. -/
theorem fails_respond {α : Type} {shown : α → Response} {op : Program (Except ServiceError α)} (h : op.Fails ctx) :
    (respond shown op).Fails ctx :=
  Fails.map h fun e => ⟨e, rfl⟩

/-- A question that is answered no leaves its request unserved. -/
theorem unserved_of_no {op : Program Bool} (h : op.Idles ctx (· = false)) (hr : r.standstill = .no) :
    (decided op).Idles ctx r.Unserved := by
  refine Idles.map h ?_
  rintro _ rfl
  unfold Request.Unserved
  rw [hr]

/-- An operation that goes on as ever leaves its request unserved. -/
theorem unserved_of_asEver {α : Type} {shown : α → Response} {op : Program (Except ServiceError α)}
    (h : op.Idles ctx fun _ => True) (hr : r.standstill = .asEver) : (respond shown op).Idles ctx r.Unserved := by
  refine Idles.map h fun value _ => ?_
  unfold Request.Unserved
  rw [hr]
  trivial

/-- A span leaves nothing but notes when its body does. -/
theorem noted_span {α : Type} {e : Equipment} {name : String} {body : Program α}
    (h : body.Confined fun e => ∃ note, e = .noted note) :
    (e.span ctx name body).Confined fun e => ∃ note, e = .noted note :=
  confined_span (fun _ _ => noted_left) h

/-- A request that is answered as ever makes no calls, whatever its context. -/
theorem confined_asEver (ctx : Context) (hr : r.standstill = .asEver) :
    (p.serve ctx r).Confined fun e => ∃ note, e = .noted note := by
  cases r with
  | isLicenseExpired => exact (noted_span (confined_time.bind fun _ => confined_pure)).map
  | hasFeature feature => exact (noted_span confined_pure).map
  | pingLicense => exact (noted_span (confined_time.bind fun _ => confined_pure)).map
  | _ => cases hr

/-- Under a context that is done, no request is served. -/
theorem idles_serve (ctx : Context) (r : Request) : (p.serve ctx r).Idles ctx r.Unserved := by
  cases h : r.outline? p ctx with
  | some o =>
    obtain ⟨⟨kind, hkind⟩, -⟩ := Request.exists_kind h
    have hr : r.standstill = .failure := by
      cases r <;> first | rfl | cases h
    rw [serve_eq h hkind]
    refine unserved_of_fails (fails_operation _ ?_) hr
    exact fails_bind (Guard.idles_checkAll o.guards) fun _ _ => Request.fails_task h
  | none =>
    cases r with
    | hasPermission subject target kinds => exact unserved_of_no (p.access.idles_hasPermission subject target kinds) rfl
    | isPermitted target kinds => exact unserved_of_no (p.access.idles_isPermitted target kinds) rfl
    | hasSystemRole roles => exact unserved_of_no (p.access.idles_hasSystemRole roles) rfl
    | isLicenseExpired => exact unserved_of_asEver p.licensing.idles_expired rfl
    | hasFeature feature => exact unserved_of_asEver (p.licensing.idles_hasFeature feature) rfl
    | isWithinThreshold quota => exact unserved_of_fails (fails_respond (p.licensing.fails_withinThreshold quota)) rfl
    | pingLicense => exact unserved_of_asEver p.licensing.idles_ping rfl
    | sendPasswordReset user path => exact unserved_of_fails (fails_respond (p.correspondence.fails_send _ _ _ _)) rfl
    | sendInvitation organization user path =>
      exact unserved_of_fails (fails_respond (p.correspondence.fails_send _ _ _ _)) rfl
    | sendLicenseExpiry id email organization expiresAt =>
      exact unserved_of_fails (fails_respond (p.correspondence.fails_send _ _ _ _)) rfl
    | sendWelcome user => exact unserved_of_fails (fails_respond (p.correspondence.fails_send _ _ _ _)) rfl
    | _ => cases h

end Platform

/-! ## The health of the system -/

/-- When all pings fail for one cause, all components are unhealthy, and it is the cause of the failure that is kept. -/
theorem Survey.health_failed (components : List Component) (cause : Failure) :
    (health components (components.map fun c => (c, .failed cause))).components = components.map (·, .unhealthy) ∧
      (components ≠ [] → (health components (components.map fun c => (c, .failed cause))).error =
        some (.join .systemHealthCheck cause)) := by
  have hreflects : (health components (components.map fun c => (c, .failed cause))).Reflects components
      (fun _ => .failed cause) (components.map fun c => (c, .failed cause)) := by
    refine reflects ?_ fun c hc => List.mem_map.mpr ⟨c, hc, rfl⟩
    intro r hr
    obtain ⟨c, hc, rfl⟩ := List.mem_map.mp hr
    exact ⟨hc, rfl⟩
  refine ⟨hreflects.statuses.trans (by simp), fun hcomponents => ?_⟩
  obtain ⟨c, hc⟩ := List.exists_mem_of_ne_nil components hcomponents
  cases herror : (health components (components.map fun c => (c, .failed cause))).error with
  | none => exact absurd (hreflects.faultless.mp herror c hc) nofun
  | some e => rw [hreflects.error_eq (fun _ _ => rfl) herror]

namespace Monitoring

/-- A service of the system that has been set up has a component to watch. -/
theorem components_ne_nil {components : List Component} {version : Option VersionInfo} {offers : List (Offer Handle)}
    {m : Monitoring} (h : ofOffers components version offers = .ok m) : m.components ≠ [] := by
  unfold ofOffers at h
  cases hkit : Kit.ofOffers offers with
  | error e => rw [hkit] at h; cases h
  | ok kit =>
    rw [hkit] at h
    cases components with
    | nil => cases h
    | cons c rest =>
      cases version with
      | none => cases h
      | some version => cases h; exact List.cons_ne_nil c rest

variable (m : Monitoring) (ctx : Context)

/-- The heartbeat is idle. -/
theorem idles_heartbeat : (m.heartbeat ctx).Idles ctx fun _ => True := idles_span _ trivial

/-- To tell the version is idle. -/
theorem idles_buildInfo : (m.buildInfo ctx).Idles ctx fun _ => True := idles_span _ trivial

/-- To ask for health is idle. -/
theorem idles_health : (m.health ctx).Idles ctx fun _ => True := by
  refine idles_span _ ((idles_forM (fun c => idles_event _ _ _) _).bind fun _ _ => ?_)
  exact (idles_survey ctx _).bind fun _ _ => (idles_note _).bind fun _ _ => trivial

/-- Under a context that is done, all components are unhealthy, and the failure says why the context is done. -/
theorem health_done {σ : Type} {w : World σ} {s : σ} {cause : Interruption} (hdone : w.interruption? s ctx = some cause)
    (hm : m.components ≠ []) :
    ((m.health ctx).run w s).value.components = m.components.map (·, .unhealthy) ∧
      ∃ e, ((m.health ctx).run w s).value.error = some e ∧ .interruption cause ∈ e.causes := by
  obtain ⟨hcomponents, herror⟩ := Survey.health_failed m.components (.interruption cause)
  rw [value_health, World.reports, hdone]
  exact ⟨hcomponents, _, herror hm, List.mem_singleton_self _⟩

end Monitoring

namespace Platform

/-- **A context that is done does no work.** When the context is done in which a request comes in, nothing is done for it, and no
store changes. Requests fail that would need anything done, questions about access are answered by no, and only those requests
are answered as ever that make no calls under any context. All components of the system count as unhealthy, for the reason for
which the context is done. -/
theorem rests_when_done {σ τ : Type} (p : Platform) {w : World σ} {view : σ → τ} (hw : w.Steady view) {ctx : Context}
    (hlasting : w.Lasting ctx) {s : σ} {cause : Interruption} (hdone : w.interruption? s ctx = some cause) :
    (∀ r, (p.serve ctx r).Rests w view s ∧ r.Unserved ((p.serve ctx r).run w s).value ∧
        (r.standstill = .asEver → ∀ ctx', (p.serve ctx' r).Confined fun e => ∃ note, e = .noted note)) ∧
      ∀ components version offers m, Monitoring.ofOffers components version offers = .ok m →
        (m.heartbeat ctx).Rests w view s ∧ (m.buildInfo ctx).Rests w view s ∧ (m.health ctx).Rests w view s ∧
          ((m.health ctx).run w s).value.components = m.components.map (·, .unhealthy) ∧
          ∃ e, ((m.health ctx).run w s).value.error = some e ∧ .interruption cause ∈ e.causes := by
  have hnow : w.interruption? s ctx ≠ none := by simp [hdone]
  refine ⟨fun r => ?_, fun components version offers m hm => ?_⟩
  · obtain ⟨hrests, hvalue⟩ := (p.idles_serve ctx r).run hw hlasting hnow
    exact ⟨hrests, hvalue, fun hr ctx' => p.confined_asEver ctx' hr⟩
  · have hhealth := m.health_done ctx hdone (Monitoring.components_ne_nil hm)
    exact ⟨((m.idles_heartbeat ctx).run hw hlasting hnow).1, ((m.idles_buildInfo ctx).run hw hlasting hnow).1,
      ((m.idles_health ctx).run hw hlasting hnow).1, hhealth⟩

end Platform

/-! ## A scene -/

namespace Scene

/-- To perform a call takes no time. -/
theorem timeline_perform (s : Scene) (c : Call) : (s.perform c).2.timeline = s.timeline := by
  unfold perform
  split
  · rfl
  · split <;> rfl

/-- A call under a context takes the time of its race. -/
theorem timeline_answer (s : Scene) (ctx : Context) (c : Call) :
    (s.answer ctx c).2.timeline = (s.timeline.race ctx (s.delays c)).2 := by
  unfold answer
  rcases s.timeline.race ctx (s.delays c) with ⟨race, timeline⟩
  cases race with
  | finished => exact timeline_perform _ c
  | _ => rfl

/-- In a scene, a context that is done stays done. -/
theorem lasting_world (ctx : Context) : world.Lasting ctx := by
  intro s e s' hmoves (hdone : s.timeline.interruption? ctx ≠ none)
  change s'.timeline.interruption? ctx ≠ none
  cases e with
  | noted note => exact (show s' = s from hmoves) ▸ hdone
  | refused ctx' c cause => exact hmoves.2 ▸ hdone
  | answered ctx' c reply =>
    obtain rfl : (s.answer ctx' c).2 = s' := congrArg Prod.snd hmoves.2
    rw [timeline_answer]
    exact Timeline.interruption?_race hdone ctx' _
  | insisted c reply =>
    obtain rfl : (s.insist c).2 = s' := congrArg Prod.snd hmoves
    unfold insist
    rw [timeline_perform]
    exact Timeline.interruption?_moveTo hdone _
  | surveyed ctx' components reports notes =>
    obtain rfl : (s.survey ctx' components).2.2 = s' := congrArg (fun survey => survey.2.2) hmoves.2
    unfold survey
    dsimp only
    split
    · exact hdone
    · exact Timeline.interruption?_moveTo hdone _

end Scene

namespace Platform

/-- Under a context that has been cancelled, no organization is created, and all databases count as unhealthy. -/
theorem rests_when_done_cancelled :
    let scene : Scene := { timeline := { cancelled := [0] }, today := Store.creation }
    let founding := Request.createOrganization (Id.nth .user 1) (Organization.fresh "acme" "info@acme.com")
    let databases := [Component.relationalDatabase, .cacheDatabase, .graphDatabase]
    (((bare 5).serve firstUser founding).Rests Scene.world Scene.store scene ∧
        ∃ e, (((bare 5).serve firstUser founding).run Scene.world scene).value = .error e) ∧
      ((Monitoring.databases.health firstUser).run Scene.world scene).value.components = databases.map (·, .unhealthy) := by
  intro scene founding databases
  have hdone : Scene.world.interruption? scene firstUser = some .canceled := rfl
  have hsetup : Monitoring.ofOffers databases (some ⟨"1.0.0", "", "", ""⟩) [] = .ok Monitoring.databases := rfl
  obtain ⟨hserve, hmonitoring⟩ := rests_when_done (bare 5) Scene.steady_store (Scene.lasting_world firstUser) hdone
  obtain ⟨hrests, hunserved, -⟩ := hserve founding
  obtain ⟨-, -, -, hcomponents, -⟩ := hmonitoring _ _ _ _ hsetup
  exact ⟨⟨hrests, hunserved⟩, hcomponents⟩

end Platform

end Tenancy
