import Tenancy.Proofs.Request.Seal

/-!
# Growth under an expired license

Users, organizations and members are added under the caps of the license. Whether the license has expired is found out by those
who ask for it, and by no request that adds a resource: such a request stops when its policy is not met, which speaks of the caps
but not of the expiry, or when its context is done before the resource is added, and for no other reason
(`Platform.growth_stops_iff`). An installation whose license has expired goes on to accept resources, against what the letter
about the expiry says (`Platform.growth_after_expiry`).
-/

namespace Tenancy

open Step Request Equipment Time

/-- What adds a resource: a user, an organization with its owner, or a member of an organization. -/
inductive Growth where
  | user (given : User)
  | organization (owner : Id) (given : Organization)
  | member (organizationId userId : Id)
deriving Repr

namespace Growth

/-- The request for the resource. -/
def request : Growth → Request
  | user given => .createUser given
  | organization owner given => .createOrganization owner given
  | member organizationId userId => .addMember organizationId userId

/-- The call by which the resource is added. -/
def call : Growth → Call
  | user given => .users (.create (Accounts.sealed given))
  | organization owner given => .organizations (.create owner given)
  | member organizationId userId => .organizations (.addMember organizationId userId)

theorem isWrite_call (g : Growth) : g.call.isWrite = true := by cases g <;> rfl

theorem not_isLetter_request (g : Growth) : g.request.isLetter = false := by cases g <;> rfl

end Growth

/-! ## How requests fare -/

namespace Request

variable {r : Request} {license : License} {ctx : Context} {c : Call} {past es es' last : List Event} {α : Type}

/-- What has been found out was found out from answers. -/
theorem Met.of_answers (h : r.Met license ctx es) (hes : ∀ c reply, .answered ctx c reply ∈ es → .answered ctx c reply ∈ es') :
    r.Met license ctx es' := by
  obtain ⟨policy, hpolicy, hmet⟩ := h
  refine ⟨policy, hpolicy, hmet.named, hmet.sound, hmet.allowed.of_answers hes, fun quota hquota => ?_⟩
  obtain ⟨cap, count, hcap, hmem, hroom⟩ := hmet.roomy quota hquota
  exact ⟨cap, count, hcap, hes _ _ hmem, hroom⟩

/-- Of a license only the caps count. -/
theorem Met.of_caps {license' : License} (h : r.Met license ctx es) (hcaps : license.caps = license'.caps) :
    r.Met license' ctx es := by
  obtain ⟨policy, hpolicy, hmet⟩ := h
  refine ⟨policy, hpolicy, hmet.named, hmet.sound, hmet.allowed, fun quota hquota => ?_⟩
  obtain ⟨cap, count, hcap, hmem, hroom⟩ := hmet.roomy quota hquota
  exact ⟨cap, count, hcaps ▸ hcap, hmem, hroom⟩

/-- How a request fares that is to make a call once its policy is met. -/
inductive Fares (r : Request) (license : License) (ctx : Context) (c : Call) (es : List Event) : Prop where
  /-- The policy is not met, and nothing is written. -/
  | turnedAway (unmet : ¬ r.Met license ctx es) (unwritten : es.filter Event.writes = [])
  /-- The context is done when the call is to be made, and nothing is written. -/
  | tooLate (cause : Interruption) (refused : .refused ctx c cause ∈ es) (unwritten : es.filter Event.writes = [])
  | made (reply : Except (Refusal c.Fault) c.Value) (answered : .answered ctx c reply ∈ es)
    (live : ∀ cause, .refused ctx c cause ∉ es)

/-- A request goes on to fare as it does when no call is made any more. -/
theorem Fares.append (h : r.Fares license ctx c es) (hquiet : Quiet last) (hlast : ∀ e ∈ last, e.subject? = none) :
    r.Fares license ctx c (es ++ last) := by
  have hsilent : Concern (fun _ => False) last := concern_of_silent hlast
  cases h with
  | turnedAway unmet unwritten =>
    refine .turnedAway (fun hmet => unmet (hmet.of_answers fun c reply hmem => ?_)) ?_
    · exact (List.mem_append.mp hmem).resolve_right fun hmem => hsilent.answered hmem
    · rw [List.filter_append, unwritten, hquiet.filter_writes, List.append_nil]
  | tooLate cause refused unwritten =>
    refine .tooLate cause (List.mem_append_left _ refused) ?_
    rw [List.filter_append, unwritten, hquiet.filter_writes, List.append_nil]
  | made reply answered live =>
    refine .made reply (List.mem_append_left _ answered) fun cause hmem => ?_
    rcases List.mem_append.mp hmem with hmem | hmem
    · exact live cause hmem
    · exact hsilent.refused hmem

/-- The call comes to nothing: the context is done, or the call is made and fails. -/
theorem Fares.of_failed {attempt : Event} {cause : Failure} (hunwritten : past.filter Event.writes = [])
    (hlive : ∀ cause, .refused ctx c cause ∉ past) (h : attempt.Yields ctx c (.error cause)) :
    r.Fares license ctx c (past ++ [attempt]) := by
  cases h with
  | refused cause =>
    refine .tooLate cause (by simp) ?_
    rw [List.filter_append, hunwritten]
    rfl
  | failed refusal => exact .made (.error refusal) (by simp) fun cause hmem => by simp [hlive cause] at hmem

/-- The call is made, and what comes after it is about other calls. -/
theorem Fares.of_made {v : c.Value} (hlive : ∀ cause, .refused ctx c cause ∉ past) (hlast : Concern (· ≠ c) last) :
    r.Fares license ctx c (past ++ .answered ctx c (.ok v) :: last) := by
  refine .made (.ok v) (by simp) fun cause hmem => ?_
  have hmem : .refused ctx c cause ∈ last := by simpa [hlive cause] using hmem
  exact hlast.refused hmem rfl

end Request

/-! ## Growing -/

namespace Growth

variable {p : Platform} {ctx : Context} {g : Growth} {o : Outline} {past : List Event}

/-- The platform has what it takes to add a resource. -/
theorem equipped (p : Platform) (g : Growth) : g.request.Equipped p := by cases g <;> exact trivial

/-- Behind the guards, the resource is added, unless the context is done. -/
theorem fares_task (h : g.request.outline? p ctx = some o) (hunwritten : past.filter Event.writes = [])
    (hlive : ∀ cause, .refused ctx g.call cause ∉ past) :
    o.task.Ensures past fun es _ => g.request.Fares (p.licenseOf g.request) ctx g.call es := by
  cases g with
  | user given =>
    cases h
    refine ensures_map.mpr (Accounts.ensures_enroll fun added x henrolls => ?_)
    cases henrolls with
    | failed hyields => exact .of_failed hunwritten hlive hyields
    | stored created => exact .of_made hlive (concern_of_silent (List.forall_mem_singleton.mpr rfl))
  | organization owner given =>
    cases h
    refine ensures_map.mpr (Organizations.ensures_found fun added x hfounds => ?_)
    cases hfounds with
    | unfounded hyields => exact .of_failed hunwritten hlive hyields
    | founded created granted =>
      have hgranting : Event.Attempts ctx (Organizations.entrusting owner created.id) _ := .inr ⟨.ok granted, rfl⟩
      exact .of_made hlive (hgranting.concern.mono fun c hc => hc ▸ nofun)
    | withdrawn created undone hyields =>
      refine .of_made hlive (concern_append.mpr ⟨hyields.attempts.concern.mono fun c hc => hc ▸ nofun, ?_⟩)
      exact Organizations.concern_withdrawal.mono fun c hc => hc ▸ nofun
  | member organizationId userId =>
    cases h
    refine ensures_map.mpr (ensures_attempt fun attempt x hyields => ?_)
    cases x with
    | error cause => exact .of_failed hunwritten hlive hyields
    | ok v =>
      cases hyields
      exact .of_made hlive (concern_of_silent fun _ he => absurd he List.not_mem_nil)

end Growth

/-! ## Expiry -/

/-- The platform under licenses that expire at some instant, and are as they were otherwise. -/
def Platform.expiring (p : Platform) (expiry : Instant) : Platform :=
  let expire (s : Licensing) : Licensing := { s with license := { s.license with expiresAt := expiry } }
  { p with
    licensing := expire p.licensing
    accounts := { p.accounts with licensing := expire p.accounts.licensing }
    organizations := { p.organizations with licensing := expire p.organizations.licensing } }

/-- A request fails, and nothing is written. -/
def Request.Stops {σ : Type} (r : Request) (p : Platform) (w : World σ) (ctx : Context) (s : σ) : Prop :=
  (∃ e, ((p.serve ctx r).run w s).value = .error e) ∧ ((p.serve ctx r).trace w s).filter Event.writes = []

namespace Platform

variable {σ : Type} {p : Platform} {w : World σ} {ctx : Context} {s : σ}

theorem caps_licenseOf_expiring (p : Platform) (expiry : Instant) (r : Request) :
    ((p.expiring expiry).licenseOf r).caps = (p.licenseOf r).caps := by
  cases r <;> rfl

/-- A request for a resource is turned away, too late, or adds the resource. -/
theorem fares_growth (p : Platform) (g : Growth) (w : World σ) (ctx : Context) (s : σ) :
    g.request.Fares (p.licenseOf g.request) ctx g.call ((p.serve ctx g.request).trace w s) := by
  obtain ⟨o, h⟩ : ∃ o, g.request.outline? p ctx = some o := by cases g <;> exact ⟨_, rfl⟩
  obtain ⟨⟨kind, hkind⟩, -⟩ := exists_kind h
  have hserve : (p.serve ctx g.request).Ensures [] fun es _ => g.request.Fares (p.licenseOf g.request) ctx g.call es := by
    refine ensures_outline h hkind (fun checked cause hcourse => ?_) fun checked hcourse => ?_
    · -- guards that turn the request away leave something unmet
      refine .turnedAway (fun hmet => ?_) (quiet_enclosed (home_ne_invitationSpan h) hcourse.quiet).filter_writes
      have hchecked : g.request.Met (p.licenseOf g.request) ctx checked := hmet.of_answers fun c reply hmem => by
        rw [← mem_calls_iff rfl, calls_enclosed] at hmem
        exact (mem_calls_iff rfl).mp hmem
      obtain ⟨policy, hpolicy, hmet⟩ := hchecked
      have hfound := (foundAll_guards_iff h hpolicy).mpr ⟨g.equipped p, hmet⟩
      cases (hcourse.ok_iff (apart_guards h)).mpr hfound
    · have hunwritten := (quiet_begun h hcourse.quiet).filter_writes
      refine Program.Ensures.mono (g.fares_task h hunwritten fun cause hmem => ?_) fun es _ hfares => ?_
      · -- no guard makes the call
        rcases List.mem_append.mp hmem with hmem | hmem
        · cases subject_left hmem
        · obtain ⟨guard, -, hasks⟩ := hcourse.concern.refused hmem
          cases hasks.isWrite.symm.trans g.isWrite_call
      · exact hfares.append (quiet_left rfl) fun _ => subject_left
  exact hserve.run w s

/-- A request for a resource fails when it writes nothing. -/
theorem fails_of_unwritten (p : Platform) (g : Growth) (w : World σ) (ctx : Context) (s : σ)
    (hunwritten : ((p.serve ctx g.request).trace w s).filter Event.writes = []) :
    ∃ e, ((p.serve ctx g.request).run w s).value = .error e := by
  have hwrites := (p.conducted ctx g.not_isLetter_request w s).writes
  rw [hunwritten] at hwrites
  cases hvalue : ((p.serve ctx g.request).run w s).value with
  | error e => exact ⟨e, rfl⟩
  | ok response =>
    rw [hvalue] at hwrites
    cases g <;> cases hwrites

/-- **Growth under an expired license.** Whenever the license expires, a request for a user, an organization or a member stops,
without having written anything, if and only if its policy is not met, which does not speak of the expiry, or its context is done
before the resource is added. -/
theorem growth_stops_iff (p : Platform) (expiry : Instant) (g : Growth) (w : World σ) (ctx : Context) (s : σ) :
    g.request.Stops (p.expiring expiry) w ctx s ↔
      ¬ (g.request.Met (p.licenseOf g.request) ctx (((p.expiring expiry).serve ctx g.request).trace w s) ∧
        ∀ cause, .refused ctx g.call cause ∉ ((p.expiring expiry).serve ctx g.request).trace w s) := by
  have hcaps := caps_licenseOf_expiring p expiry g.request
  have hfails := fails_of_unwritten (p.expiring expiry) g w ctx s
  cases fares_growth (p.expiring expiry) g w ctx s with
  | turnedAway unmet unwritten =>
    exact iff_of_true ⟨hfails unwritten, unwritten⟩ fun h => unmet (h.1.of_caps hcaps.symm)
  | tooLate cause refused unwritten =>
    exact iff_of_true ⟨hfails unwritten, unwritten⟩ fun h => h.2 cause refused
  | made reply answered live =>
    have hwrites : (Event.answered ctx g.call reply).writes = true := g.isWrite_call
    refine iff_of_false (fun hstops => ?_) (not_not.mpr ⟨?_, live⟩)
    · exact List.not_mem_nil (hstops.2 ▸ List.mem_filter.mpr ⟨answered, hwrites⟩)
    · -- whoever writes has met the policy before
      obtain ⟨before, after, htrace⟩ := List.append_of_mem answered
      have hmet := ((p.expiring expiry).conducted ctx g.not_isLetter_request w s).orderly before _ after htrace
        (by simp [Event.acts, hwrites])
      exact (hmet.mono (by rw [htrace]; exact List.subset_append_left _ _)).of_caps hcaps

/-- A user who is to be created. -/
def ada : Growth := .user (User.fresh "ada" "ada@example.com" "secret")

/-- An administrator creates a user under a license that has expired. -/
theorem growth_after_expiry :
    ¬ ∀ (p : Platform) (g : Growth) (ctx : Context) (s : Scene),
      (p.licenseOf g.request).isExpiredAt (Scene.world.time s) = true → g.request.Stops p Scene.world ctx s := by
  intro h
  have hexpired : ((bare 5).licenseOf ada.request).isExpiredAt (Scene.world.time Scene.vacant) = true := by decide
  obtain ⟨⟨e, hvalue⟩, -⟩ := h (bare 5) ada administrator Scene.vacant hexpired
  have hcreated : (((bare 5).serve administrator ada.request).run Scene.world Scene.vacant).value.isOk = true := by
    decide +kernel
  rw [hvalue] at hcreated
  cases hcreated

end Platform

end Tenancy
