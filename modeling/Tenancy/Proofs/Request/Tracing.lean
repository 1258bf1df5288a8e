import Tenancy.Proofs.Operation.Spans
import Tenancy.Proofs.Request.Letters

/-!
# Every operation leaves a complete record

Each operation of the platform runs in one span, named after the service and the operation. The record of a run begins with the
start of that span and ends with its end, whichever way the operation exits, and what stands between is as the grammar says
(`Within`, and `Correspondence.Posted` for letters).
-/

namespace Tenancy

open Step Telemetry Equipment

/-! ## Requests -/

namespace Platform

variable {p : Platform} {ctx : Context} {r : Request} {o : Outline} {past : List Event}

/-- The guards of a request may stand in the span of its operation. -/
theorem mayStandIn_guards (h : r.outline? p ctx = some o) : ∀ g ∈ o.guards, g.MayStandIn (r.home p).2 := by
  have hspan : ∀ calls ∈ spanCalls, calls.2 ≠ (r.home p).2 := by
    cases r <;> cases h <;>
      simp [Request.home, spanCalls, Licensing.thresholdSpan, Correspondence.invitationSpan, AccessControl.rolesSpan]
  have hroom (s : Licensing) (quota : Quota) (complaint : Complaint) (hg : .room s quota complaint ∈ o.guards) :
      ((r.home p).2, Licensing.thresholdSpan) ∈ spanCalls := by
    cases r <;> cases h <;> simp [Outline.ofCall, Guard.rightUnless, Request.home, spanCalls] at hg ⊢
  intro g hg
  cases g with
  | demand met complaint => exact trivial
  | right target kind => exact hspan
  | room s quota complaint => exact hroom s quota complaint hg

/-- Behind its guards, an operation stays in its span. -/
theorem within_task (h : r.outline? p ctx = some o) : o.task.Ensures past fun es _ =>
    ∃ added, es = past ++ added ∧ Within ctx (r.home p).1 (r.home p).2 added := by
  have call {c : Call} {f : c.Value → Response} {e : Equipment} {span : String} (hc : c.isPlainIn span = true) :
      (f <$> Step.ask ctx c).Ensures past fun es _ => ∃ added, es = past ++ added ∧ Within ctx e span added :=
    ensures_map.mpr (ensures_attempt fun attempt _ hyields => ⟨[attempt], rfl, hyields.attempts.within hc⟩)
  cases r with
  | createUser user => cases h; exact ensures_map.mpr (Accounts.ensures_enroll fun added _ h => ⟨added, rfl, h.within⟩)
  | createOrganization owner organization =>
    cases h
    exact ensures_map.mpr (Organizations.ensures_found fun added _ h => ⟨added, rfl, h.within⟩)
  | getMembers organization =>
    cases h
    exact ensures_map.mpr (Organizations.ensures_list fun added _ h => ⟨added, rfl, h.within⟩)
  | removeMember organization user =>
    cases h
    exact ensures_map.mpr (Organizations.ensures_expel fun added _ h => ⟨added, rfl, h.within⟩)
  | invite organization user path =>
    cases h
    exact ensures_map.mpr (Organizations.ensures_write fun added _ h => ⟨added, rfl, h.within⟩)
  | getLicense => cases h; exact ensures_map.mpr (Licensing.ensures_disclose fun added _ h => ⟨added, rfl, h.within⟩)
  | deleteUser id force => cases h; cases force <;> exact call rfl
  | deleteOrganization id force => cases h; cases force <;> exact call rfl
  | _ => cases h <;> exact call rfl

end Platform

/-! ## The system -/

/-- Components that were asked for their health have left nothing with a tracer. -/
def Unspanned (es : List Event) : Prop :=
  ∀ ctx components reports notes, .surveyed ctx components reports notes ∈ es → ∀ n ∈ notes, n.mark? = none

/-- Components that are asked for their health open no spans. -/
def World.PingsUnspanned {σ : Type} (w : World σ) : Prop :=
  ∀ s ctx components, ∀ n ∈ (w.survey s ctx components).2.1, n.mark? = none

/-- Fewer events open no span either. -/
theorem Unspanned.mono {es es' : List Event} (h : Unspanned es') (hsub : es ⊆ es') : Unspanned es :=
  fun ctx components reports notes hmem => h ctx components reports notes (hsub hmem)

/-- No span is opened in a run where pings open none. -/
theorem World.PingsUnspanned.trace {σ α : Type} {w : World σ} (h : w.PingsUnspanned) (p : Program α) (s : σ) :
    Unspanned (p.trace w s) := by
  intro ctx components reports notes hmem n hn
  obtain ⟨before, after, heq⟩ := List.append_of_mem hmem
  obtain ⟨s₁, s₂, -, hmoves, -⟩ := World.leads_middle.mp (heq ▸ World.leads_trace w p s)
  refine h s₁ ctx components n ?_
  rw [hmoves.2]
  exact hn

namespace Monitoring

variable {m : Monitoring} {ctx : Context}

/-- The heartbeat leaves its complete record. -/
theorem recorded_heartbeat : (m.heartbeat ctx).Adds (Recorded ctx m.equipment "service.system/get_heartbeat") :=
  recorded_span Program.stays_pure

/-- To tell the version leaves its complete record. -/
theorem recorded_buildInfo : (m.buildInfo ctx).Adds (Recorded ctx m.equipment "service.system/get_version") :=
  recorded_span Program.stays_pure

/-- To announce the components stays in any span. -/
theorem stays_announce {span : String} {components : List Component} : Program.Stays ctx m.equipment span
    (components.forM fun c => m.equipment.event span ("Check " ++ Labelled.label c ++ " health")) := by
  induction components with
  | nil => exact Program.stays_pure
  | cons c rest ih =>
    rw [List.forM_eq_forM, List.forM_cons]
    refine Program.Stays.bind (fun past => ?_) fun _ => ih
    exact ensures_leave.mpr ⟨_, rfl, .component c⟩

/-- What may stand in a span, provided that the components leave nothing with a tracer. -/
def MayStand (ctx : Context) (e : Equipment) (span : String) (es : List Event) : Prop :=
  Unspanned es → Within ctx e span es

/-- What a survey adds may stand in any span. -/
theorem mayStand_survey {e : Equipment} {span : String} {components : List Component} :
    (Program.survey ctx components).Adds (MayStand ctx e span) := by
  refine fun past => ⟨fun cause => ⟨[], (List.append_nil past).symm, fun _ => .nothing⟩, fun reports notes => ?_⟩
  refine ⟨[.surveyed ctx components reports notes], rfl, fun unspanned => .untold ?_⟩
  simp only [Event.isUntoldIn, List.all_eq_true, Option.isNone_iff_eq_none]
  exact unspanned ctx components reports notes (List.mem_singleton_self _)

/-- What may stand in a span may do so one after the other. -/
theorem MayStand.append {e : Equipment} {span : String} {es es' : List Event} (h : MayStand ctx e span es)
    (h' : MayStand ctx e span es') : MayStand ctx e span (es ++ es') := by
  intro unspanned
  have hes := h (unspanned.mono (List.subset_append_left _ _))
  have hes' := h' (unspanned.mono (List.subset_append_right _ _))
  exact hes.append hes'

/-- The check of the system's health leaves a complete record, provided that the components leave nothing with a tracer. -/
theorem recorded_health : (m.health ctx).Adds fun es =>
    Unspanned es → Recorded ctx m.equipment "service.system/get_health" es := by
  have inside {α : Type} {p : Program α} (h : p.Stays ctx m.equipment "service.system/get_health") :
      p.Adds (MayStand ctx m.equipment "service.system/get_health") := h.mono fun es hes _ => hes
  refine (adds_span (R := MayStand ctx m.equipment "service.system/get_health") ?_).mono ?_
  · refine (inside stays_announce).bind (fun _ => ?_) fun _ _ => MayStand.append
    refine mayStand_survey.bind (fun reports => ?_) fun _ _ => MayStand.append
    exact inside (stays_log.bind fun _ => Program.stays_pure)
  · rintro _ ⟨inner, hinner, rfl⟩ unspanned
    exact ⟨inner, hinner (unspanned.mono fun e he => by simp [enclosed, he]), rfl⟩

end Monitoring

/-! ## All operations -/

/-- The letter that a request asks for. -/
def Request.mailing? : Request → Option Mailing
  | sendPasswordReset user path => some (.passwordReset user path)
  | sendInvitation organization user path => some (.invitation organization user path)
  | sendLicenseExpiry id email organization expiresAt => some (.licenseExpiry id email organization expiresAt)
  | sendWelcome user => some (.welcome user)
  | _ => none

/-- What happens in the span of the operation that serves a request: a letter is written, or what the grammar says. -/
def Request.Inside (r : Request) (p : Platform) (ctx : Context) (inner : List Event) : Prop :=
  match r.mailing? with
  | some m => p.correspondence.Posted ctx (r.home p).2 m.letter.path m.recipient (m.data p.correspondence) inner
  | none => Within ctx (r.home p).1 (r.home p).2 inner

/-- In a run, a program leaves the complete record of an operation. A tracer that is not silent has the start and the end of the
span once each, first and last, and one question about access, and one answer, for each lookup that the operation attempts. -/
def Program.Traced {σ α : Type} (p : Program α) (w : World σ) (s : σ) (ctx : Context) (e : Equipment) (name : String)
    (Inside : List Event → Prop) : Prop :=
  ∃ inner, Inside inner ∧ p.trace w s = e.enclosed ctx name inner ∧
    (e.tracer ≠ .silent →
      (p.run w s).notes.filterMap Note.mark? = .start name :: (marks inner ++ [.finish name]) ∧ Tally name inner)

section

variable {σ α : Type} {w : World σ} {s : σ} {ctx : Context} {e : Equipment} {name : String} {p : Program α}

/-- What the tracer has of a complete record begins with the start of the span and ends with its end. -/
theorem marks_of_enclosed {inner : List Event} (h : p.trace w s = e.enclosed ctx name inner) (heard : e.tracer ≠ .silent) :
    (p.run w s).notes.filterMap Note.mark? = .start name :: (marks inner ++ [.finish name]) := by
  rw [← marks_trace, h, enclosed, marks_append, marks_append, marks_left heard, marks_left heard]
  rfl

/-- Where there is a complete record, the trace is that of the operation. -/
theorem Recorded.traced (h : Recorded ctx e name (p.trace w s)) : p.Traced w s ctx e name (Within ctx e name) := by
  obtain ⟨inner, hwithin, htrace⟩ := h
  exact ⟨inner, hwithin, htrace, fun heard => ⟨marks_of_enclosed htrace heard, hwithin.tally heard⟩⟩

end

namespace Platform

variable {p : Platform} {ctx : Context}

/-- An operation that is laid out leaves a complete record: its guards, and its task. -/
theorem recorded_outline {r : Request} {o : Outline} (h : r.outline? p ctx = some o) :
    (p.serve ctx r).Ensures [] fun es _ => Recorded ctx (r.home p).1 (r.home p).2 es := by
  obtain ⟨⟨kind, hkind⟩, -⟩ := Request.exists_kind h
  refine ensures_outline h hkind (fun checked cause hcourse => ?_) fun checked hcourse => ?_
  · exact ⟨checked, hcourse.within (mayStandIn_guards h), rfl⟩
  · refine Program.Ensures.mono (within_task h) ?_
    rintro _ x ⟨added, rfl, hadded⟩
    refine ⟨checked ++ added, (hcourse.within (mayStandIn_guards h)).append hadded, ?_⟩
    simp only [begun, enclosed, List.append_assoc]

/-- An operation that writes no letter leaves a complete record. -/
theorem recorded_serve {r : Request} (h : r.mailing? = none) :
    (p.serve ctx r).Ensures [] fun es _ => Recorded ctx (r.home p).1 (r.home p).2 es := by
  cases houtline : r.outline? p ctx with
  | some o => exact recorded_outline houtline
  | none =>
    cases r with
    | hasPermission subject target kinds =>
      refine (Program.Adds.map (recorded_span fun _ => ensures_holds fun added _ hsettles => ⟨added, rfl, ?_⟩)).ensures
      exact hsettles.within fun a ha => isAskedIn_question ha (by decide)
    | isPermitted target kinds =>
      refine (Program.Adds.map (recorded_span fun _ => ensures_permitted fun added _ hsettles => ⟨added, rfl, ?_⟩)).ensures
      exact hsettles.within fun a ha => isAskedIn_principalQuestion ha (by decide)
    | hasSystemRole roles =>
      exact Program.ensures_map.mpr (AccessControl.ensures_hasSystemRole fun asking _ h => AccessControl.recorded_asking h)
    | isLicenseExpired => exact (recorded_span (Program.stays_time.bind fun _ => Program.stays_pure)).map.ensures
    | hasFeature feature => exact (recorded_span Program.stays_pure).map.ensures
    | isWithinThreshold quota =>
      exact Program.ensures_map.mpr (Licensing.ensures_withinThreshold fun added _ h => h.recorded)
    | pingLicense => exact (recorded_span (Program.stays_time.bind fun _ => Program.stays_pure)).map.ensures
    | _ => first | cases houtline; done | cases h

/-- Letters are the service of letters' own. -/
theorem home_of_mailing {r : Request} {m : Mailing} (h : r.mailing? = some m) :
    (r.home p).1 = p.correspondence.equipment := by
  cases r <;> first | rfl | cases h

/-- An operation that writes a letter leaves a complete record of it. -/
theorem posted_serve {r : Request} {m : Mailing} (h : r.mailing? = some m) : (p.serve ctx r).Ensures [] fun es _ =>
    ∃ inner, p.correspondence.Posted ctx (r.home p).2 m.letter.path m.recipient (m.data p.correspondence) inner ∧
      es = p.correspondence.equipment.enclosed ctx (r.home p).2 inner := by
  cases r with
  | sendPasswordReset user path =>
    cases h
    exact Program.ensures_map.mpr (Correspondence.ensures_send fun added _ hsends => hsends.posted)
  | sendInvitation organization user path =>
    cases h
    exact Program.ensures_map.mpr (Correspondence.ensures_send fun added _ hsends => hsends.posted)
  | sendLicenseExpiry id email organization expiresAt =>
    cases h
    exact Program.ensures_map.mpr (Correspondence.ensures_send fun added _ hsends => hsends.posted)
  | sendWelcome user =>
    cases h
    exact Program.ensures_map.mpr (Correspondence.ensures_send fun added _ hsends => hsends.posted)
  | _ => cases h

end Platform

/-- **Balanced tracing.** Every operation of every service leaves the complete record of one span, named after the service and
the operation: the start of the span, then what happens inside, and the end, whichever way the operation exits. Inside, each
lookup of access that the operation attempts stands between a question and an answer of its own, whatever comes of the lookup;
the operations that are called leave complete records of their own; and the sending of a letter is announced, before the
sender is called, if and only if the letter has been rendered. The check of the system's health does so when the components
that are asked open no spans. -/
theorem balanced_tracing {σ : Type} (w : World σ) (s : σ) (ctx : Context) (p : Platform) (m : Monitoring) :
    (∀ r : Request, (p.serve ctx r).Traced w s ctx (r.home p).1 (r.home p).2 (r.Inside p ctx)) ∧
    (∀ (r : Request) (mail : Mailing), r.mailing? = some mail → p.correspondence.equipment.tracer ≠ .silent →
      (.event (r.home p).2 "send email" ∈ ((p.serve ctx r).run w s).notes.filterMap Note.mark? ↔
        p.correspondence.Rendered mail.letter.path (mail.data p.correspondence) ((p.serve ctx r).trace w s))) ∧
    (m.heartbeat ctx).Traced w s ctx m.equipment "service.system/get_heartbeat"
      (Within ctx m.equipment "service.system/get_heartbeat") ∧
    (m.buildInfo ctx).Traced w s ctx m.equipment "service.system/get_version"
      (Within ctx m.equipment "service.system/get_version") ∧
    (w.PingsUnspanned → (m.health ctx).Traced w s ctx m.equipment "service.system/get_health"
      (Within ctx m.equipment "service.system/get_health")) := by
  refine ⟨fun r => ?_, fun r mail hmail heard => ?_, ?_, ?_, fun hpings => ?_⟩
  · cases hmail : r.mailing? with
    | none =>
      obtain ⟨inner, hwithin, hrest⟩ := Recorded.traced ((Platform.recorded_serve hmail).run w s)
      refine ⟨inner, ?_, hrest⟩
      unfold Request.Inside
      rw [hmail]
      exact hwithin
    | some mail =>
      obtain ⟨inner, posted, htrace⟩ := (Platform.posted_serve hmail).run w s
      rw [Platform.home_of_mailing hmail]
      refine ⟨inner, ?_, htrace, fun heard => ⟨marks_of_enclosed htrace heard, posted.tally⟩⟩
      unfold Request.Inside
      rw [hmail]
      exact posted
  · obtain ⟨inner, posted, htrace⟩ := (Platform.posted_serve hmail).run w s
    rw [List.nil_append] at htrace
    rw [marks_of_enclosed htrace heard, htrace, Correspondence.rendered_enclosed, ← posted.announced_iff heard]
    simp
  · exact (Monitoring.recorded_heartbeat.trace w s).traced
  · exact (Monitoring.recorded_buildInfo.trace w s).traced
  · exact (Monitoring.recorded_health.trace w s (hpings.trace _ s)).traced

/-- A platform of which every service keeps a record. -/
def Platform.recording : Platform :=
  let equipment : Equipment := { tracer := .recording, permissions := some ⟨"permissions"⟩ }
  let access : AccessControl := ⟨equipment⟩
  let licensing : Licensing := { (bare 5).licensing with equipment, access }
  { access, licensing
    correspondence := { (bare 5).correspondence with equipment }
    accounts := ⟨equipment, licensing⟩
    organizations := { equipment, licensing } }

/-- The record of a check of health, and that of a welcome, whose sending is announced after it has been rendered. -/
theorem balanced_tracing_welcome :
    let p := Platform.recording
    let m : Monitoring := ⟨p.access.equipment, [.cacheDatabase, .graphDatabase], ⟨"1.0.0", "", "", ""⟩⟩
    let user := User.fresh "ada" "ada@example.com" "secret"
    let welcome := p.serve Platform.firstUser (.sendWelcome user)
    World.postal.PingsUnspanned ∧
      (m.health Platform.firstUser).Traced World.postal () Platform.firstUser m.equipment "service.system/get_health"
        (Within Platform.firstUser m.equipment "service.system/get_health") ∧
      p.correspondence.equipment.tracer ≠ .silent ∧
      p.correspondence.Rendered Letter.userWelcome.path (p.correspondence.welcomeData user)
        (welcome.trace World.postal ()) ∧
      .event "service.email/send_user_welcome_email" "send email" ∈
        (welcome.run World.postal ()).notes.filterMap Note.mark? := by
  intro p m user welcome
  have pings : World.postal.PingsUnspanned := fun _ _ _ _ hn => nomatch hn
  have heard : p.correspondence.equipment.tracer ≠ .silent := nofun
  have rendered : p.correspondence.Rendered Letter.userWelcome.path (p.correspondence.welcomeData user)
      (welcome.trace World.postal ()) :=
    ⟨_, [], ⟨((Mailing.welcome user).ofPath_data p.correspondence).symm, rfl⟩, List.nil_subset _⟩
  obtain ⟨-, announced, -, -, health⟩ := balanced_tracing World.postal () Platform.firstUser p m
  exact ⟨pings, health pings, heard, rendered, (announced (.sendWelcome user) (.welcome user) rfl heard).mpr rendered⟩

/-- One who may write to an organization makes a user a member: the right is looked up, and the license asked for room. -/
example :
    let scene : Scene :=
      { store :=
          ({ organizations := [{ Organization.fresh "acme" "" with id := Id.nth .organization 1 }] } : Store).withPermission
            (Permission.fresh (Id.nth .user 1) (Id.nth .organization 1) .write)
        today := Store.creation }
    let adding := Platform.recording.serve Platform.firstUser (.addMember (Id.nth .organization 1) (Id.nth .user 2))
    (adding.run Scene.world scene).notes.filterMap Note.mark? =
      [.start "service.organization/add_member",
        .event "service.organization/add_member" "check permission",
        .event "service.organization/add_member" "permission checked",
        .start "service.license/within_threshold", .finish "service.license/within_threshold",
        .finish "service.organization/add_member"] := by
  rfl

end Tenancy
