import Tenancy.Proofs.Request.Serve
import Tenancy.Proofs.Operation.Runs
import Tenancy.Proofs.Operation.Setup
import Tenancy.Proofs.World.Register

/-!
# Verdicts about access

Whoever asks whether something is allowed puts one question at most, and takes nothing but a plain yes for a yes (`Decides`): no
principal, no store of permissions, a context that is done and a lookup that fails all count as a no. When lookups are answered
from a register of permissions and roles, the verdict is what the register says (`Gate.value_iff`), so that it stays a yes when
more is asked for or more is registered. The license is given to those who have one of the roles that may read it.
-/

namespace Tenancy

/-! ## Questions -/

/-- The kinds that are asked for on behalf of whoever asks for some kinds: these, in order, and `all` after them unless it is
among them. -/
inductive PermissionKind.Asked (kinds : List PermissionKind) : List PermissionKind → Prop where
  | given : .all ∈ kinds → Asked kinds kinds
  | extended : .all ∉ kinds → Asked kinds (kinds ++ [.all])

namespace PermissionKind

variable {kinds asked : List PermissionKind}

/-- What is asked for are the kinds in question, with the kind of all rights among them. -/
theorem asked_iff : Asked kinds asked ↔ asked = withAll kinds := by
  unfold withAll
  by_cases h : .all ∈ kinds
  · rw [if_pos (List.contains_iff_mem.mpr h)]
    constructor
    · rintro (_ | hnot)
      · rfl
      · exact absurd h hnot
    · rintro rfl
      exact .given h
  · rw [if_neg fun hmem => h (List.contains_iff_mem.mp hmem)]
    constructor
    · rintro (hmem | _)
      · exact absurd hmem h
      · rfl
    · rintro rfl
      exact .extended h

/-- All rights are always asked for. -/
theorem Asked.all_mem (h : Asked kinds asked) : .all ∈ asked := by
  cases h with
  | given h => exact h
  | extended _ => exact List.mem_append_right _ (List.mem_singleton_self _)

end PermissionKind

/-- A way of asking whether something is allowed. -/
inductive Gate where
  /-- An operation asks for the principal, in its span. -/
  | within (e : Equipment) (span : String) (target : Id) (kinds : List PermissionKind)
  /-- The service of permissions is asked for the principal. -/
  | permitted (access : AccessControl) (target : Id) (kinds : List PermissionKind)
  /-- The service of permissions is asked for anyone. -/
  | holding (access : AccessControl) (subject target : Id) (kinds : List PermissionKind)
  /-- The service of permissions is asked for the roles of the principal. -/
  | ranking (access : AccessControl) (roles : List SystemRole)

namespace Gate

/-- The program that asks. -/
def program (ctx : Context) : Gate → Program Bool
  | within e span target kinds => e.permitted ctx span target kinds
  | permitted access target kinds => access.isPermitted ctx target kinds
  | holding access subject target kinds => access.hasPermission ctx subject target kinds
  | ranking access roles => access.hasSystemRole ctx roles

/-- The question that is put: about permissions only when they are stored, and about a principal only when there is one. -/
inductive Question (ctx : Context) : Gate → AccessCall → Prop where
  | within {e : Equipment} {span : String} {target principal : Id} {kinds asked : List PermissionKind} :
    e.permissions.isSome = true → ctx.principal = some principal → PermissionKind.Asked kinds asked →
    Question ctx (.within e span target kinds) (.hasPermission principal target asked)
  | permitted {access : AccessControl} {target principal : Id} {kinds asked : List PermissionKind} :
    access.equipment.permissions.isSome = true → ctx.principal = some principal → PermissionKind.Asked kinds asked →
    Question ctx (.permitted access target kinds) (.hasPermission principal target asked)
  | holding {access : AccessControl} {subject target : Id} {kinds asked : List PermissionKind} :
    access.equipment.permissions.isSome = true → PermissionKind.Asked kinds asked →
    Question ctx (.holding access subject target kinds) (.hasPermission subject target asked)
  | ranking {access : AccessControl} {principal : Id} {roles : List SystemRole} : ctx.principal = some principal →
    Question ctx (.ranking access roles) (.hasSystemRole principal roles)

end Gate

section

variable {σ : Type} {w : World σ} {s : σ} {ctx : Context}

/-- A program that asks decides by what comes of its question. -/
structure Decides (w : World σ) (s : σ) (ctx : Context) (question : AccessCall → Prop) (p : Program Bool) : Prop where
  /-- Without a question no call is made or attempted, and the verdict is no. -/
  unasked : (∀ a, ¬ question a) → calls (p.trace w s) = [] ∧ (p.run w s).value = false
  /-- The question is put once, under the context, and no other call is made or attempted. -/
  asked : ∀ a, question a → calls (p.trace w s) = [w.attempt s ctx (.access a)]
  /-- The verdict is yes if and only if the context is live when the question is put, and the answer is yes. -/
  yes_iff : ∀ a, question a →
    ((p.run w s).value = true ↔ w.interruption? s ctx = none ∧ (w.answer s ctx (.access a)).1 = .ok true)

/-- The moments of a span make no call. -/
theorem Equipment.calls_leave (e : Equipment) (note : Telemetry.SpanNote) (s : σ) :
    calls ((e.leave note).trace w s) = [] :=
  calls_silent (silent_leave.trace w s)

/-- An attempt is its own call. -/
theorem World.calls_attempt (w : World σ) (s : σ) (ctx : Context) (c : Call) :
    calls [w.attempt s ctx c] = [w.attempt s ctx c] := by
  unfold attempt
  split <;> rfl

namespace Decides

variable {question question' : AccessCall → Prop} {p : Program Bool} {e : Equipment} {name : String}

/-- Where there is nothing to ask, the verdict is no. -/
theorem no (h : ∀ a, ¬ question a) : Decides w s ctx question (pure false) where
  unasked _ := ⟨rfl, rfl⟩
  asked a ha := absurd ha (h a)
  yes_iff a ha := absurd ha (h a)

/-- Where there is one question, it is put. -/
theorem check {a : AccessCall} (h : ∀ a', question a' ↔ a' = a) : Decides w s ctx question (e.check ctx name a) where
  unasked hnone := absurd ((h a).mpr rfl) (hnone a)
  asked a' ha := by
    obtain rfl := (h a').mp ha
    rw [Equipment.trace_check, calls_append, Equipment.event, Equipment.calls_leave, List.nil_append,
      ← List.singleton_append, calls_append, World.calls_attempt, Equipment.event, Equipment.calls_leave, List.append_nil]
  yes_iff a' ha := by
    obtain rfl := (h a').mp ha
    rw [Equipment.value_check_iff, World.attempt_eq_answered_iff]

/-- What decides does so in a span of its own as well. -/
theorem span (h : Decides w s ctx question p) : Decides w s ctx question (e.span ctx name p) := by
  have hcalls : calls ((e.span ctx name p).trace w s) = calls (p.trace w s) := by
    rw [Equipment.trace_span, calls_append, calls_append, Equipment.calls_leave, Equipment.calls_leave, List.nil_append,
      List.append_nil]
  have hvalue : ((e.span ctx name p).run w s).value = (p.run w s).value := Equipment.value_span e ctx name p s
  refine ⟨fun hnone => ?_, fun a ha => ?_, fun a ha => ?_⟩
  · rw [hcalls, hvalue]
    exact h.unasked hnone
  · rw [hcalls]
    exact h.asked a ha
  · rw [hvalue]
    exact h.yes_iff a ha

/-- A subject is asked about when permissions are stored. -/
theorem holds {subject target : Id} {kinds : List PermissionKind}
    (h : ∀ a, question a ↔ e.permissions.isSome = true ∧ a = .hasPermission subject target (PermissionKind.withAll kinds)) :
    Decides w s ctx question (e.holds ctx name subject target kinds) := by
  unfold Equipment.holds
  split
  · next store hstore => exact check fun a => by simp [h, hstore]
  · next hnone => exact no fun a => by simp [h, hnone]

/-- A principal is asked about when there is one, and permissions are stored. -/
theorem permitted {target : Id} {kinds : List PermissionKind}
    (h : ∀ a, question a ↔ e.permissions.isSome = true ∧ ∃ principal, ctx.principal = some principal ∧
      a = .hasPermission principal target (PermissionKind.withAll kinds)) :
    Decides w s ctx question (e.permitted ctx name target kinds) := by
  unfold Equipment.permitted
  split
  · next principal hprincipal => exact holds fun a => by simp [h, hprincipal]
  · next hnone => exact no fun a => by simp [h, hnone]

end Decides

namespace Gate

/-- Every way of asking decides by its question. -/
theorem decides (gate : Gate) (w : World σ) (s : σ) (ctx : Context) :
    Decides w s ctx (gate.Question ctx) (gate.program ctx) := by
  cases gate with
  | within e span target kinds =>
    refine Decides.permitted fun a => ⟨fun h => ?_, ?_⟩
    · cases h with
      | within hstore hprincipal hasked => exact ⟨hstore, _, hprincipal, by rw [PermissionKind.asked_iff.mp hasked]⟩
    · rintro ⟨hstore, principal, hprincipal, rfl⟩
      exact .within hstore hprincipal (PermissionKind.asked_iff.mpr rfl)
  | permitted access target kinds =>
    refine (Decides.permitted fun a => ⟨fun h => ?_, ?_⟩).span
    · cases h with
      | permitted hstore hprincipal hasked => exact ⟨hstore, _, hprincipal, by rw [PermissionKind.asked_iff.mp hasked]⟩
    · rintro ⟨hstore, principal, hprincipal, rfl⟩
      exact .permitted hstore hprincipal (PermissionKind.asked_iff.mpr rfl)
  | holding access subject target kinds =>
    refine (Decides.holds fun a => ⟨fun h => ?_, ?_⟩).span
    · cases h with
      | holding hstore hasked => exact ⟨hstore, by rw [PermissionKind.asked_iff.mp hasked]⟩
    · rintro ⟨hstore, rfl⟩
      exact .holding hstore (PermissionKind.asked_iff.mpr rfl)
  | ranking access roles =>
    refine Decides.span ?_
    split
    · next principal hprincipal =>
      refine Decides.check fun a => ⟨fun h => ?_, ?_⟩
      · cases h with
        | ranking hprincipal' => rw [Option.some.inj (hprincipal.symm.trans hprincipal')]
      · rintro rfl
        exact .ranking hprincipal
    · next hnone =>
      refine Decides.no fun a h => ?_
      cases h with
      | ranking hprincipal => cases hnone.symm.trans hprincipal

end Gate

/-! ## The license -/

/-- The license is given to those who have one of the roles that may read it, and to nobody else. -/
theorem Licensing.value_get (service : Licensing) (w : World σ) (s : σ) (ctx : Context) :
    ((service.get ctx).run w s).value =
      if ((service.access.hasSystemRole ctx SystemRole.licenseReaders).run w s).value = true then .ok service.license
      else .error (.join .licenseGet (.kind .noPermission)) := by
  unfold get
  rw [Equipment.value_operation, Step.run_lift_bind, Program.run_bind, Outcome.after_value]
  cases ((service.access.hasSystemRole ctx SystemRole.licenseReaders).run w s).value with
  | true => rfl
  | false => rfl

/-! ## What is registered -/

/-- Every question about access that is put under a context is answered. -/
def World.Responds (w : World σ) (s : σ) (ctx : Context) : Prop :=
  ∀ a, ∃ yes : Bool, w.attempt s ctx (.access a) = .answered ctx (.access a) (.ok yes)

namespace Gate

/-- What is registered is enough to be allowed. -/
def Satisfied (R : Register) (ctx : Context) : Gate → Prop
  | within e _ target kinds =>
    e.permissions.isSome = true ∧ ∃ principal, ctx.principal = some principal ∧ R.Entitles principal target kinds
  | permitted access target kinds =>
    access.equipment.permissions.isSome = true ∧
      ∃ principal, ctx.principal = some principal ∧ R.Entitles principal target kinds
  | holding access subject target kinds =>
    access.equipment.permissions.isSome = true ∧ R.Entitles subject target kinds
  | ranking _ roles => ∃ principal, ctx.principal = some principal ∧ R.Ranks principal roles

/-- The same is asked for, or more. -/
inductive Widens : Gate → Gate → Prop where
  | within {e : Equipment} {span : String} {target : Id} {kinds kinds' : List PermissionKind} : kinds ⊆ kinds' →
    Widens (.within e span target kinds) (.within e span target kinds')
  | permitted {access : AccessControl} {target : Id} {kinds kinds' : List PermissionKind} : kinds ⊆ kinds' →
    Widens (.permitted access target kinds) (.permitted access target kinds')
  | holding {access : AccessControl} {subject target : Id} {kinds kinds' : List PermissionKind} : kinds ⊆ kinds' →
    Widens (.holding access subject target kinds) (.holding access subject target kinds')
  | ranking {access : AccessControl} {roles roles' : List SystemRole} : roles ⊆ roles' →
    Widens (.ranking access roles) (.ranking access roles')

variable {gate gate' : Gate} {R R' : Register}

/-- What is registered is enough if and only if there is a question, and it is to be answered by yes. -/
theorem satisfied_iff : gate.Satisfied R ctx ↔ ∃ a, gate.Question ctx a ∧ R.Answers a := by
  constructor
  · cases gate with
    | within e span target kinds =>
      rintro ⟨hstore, principal, hprincipal, h⟩
      exact ⟨_, .within hstore hprincipal (PermissionKind.asked_iff.mpr rfl), Register.answers_withAll_iff.mpr h⟩
    | permitted access target kinds =>
      rintro ⟨hstore, principal, hprincipal, h⟩
      exact ⟨_, .permitted hstore hprincipal (PermissionKind.asked_iff.mpr rfl), Register.answers_withAll_iff.mpr h⟩
    | holding access subject target kinds =>
      rintro ⟨hstore, h⟩
      exact ⟨_, .holding hstore (PermissionKind.asked_iff.mpr rfl), Register.answers_withAll_iff.mpr h⟩
    | ranking access roles =>
      rintro ⟨principal, hprincipal, h⟩
      exact ⟨_, .ranking hprincipal, h⟩
  · rintro ⟨a, hquestion, h⟩
    cases hquestion with
    | within hstore hprincipal hasked =>
      rw [PermissionKind.asked_iff.mp hasked] at h
      exact ⟨hstore, _, hprincipal, Register.answers_withAll_iff.mp h⟩
    | permitted hstore hprincipal hasked =>
      rw [PermissionKind.asked_iff.mp hasked] at h
      exact ⟨hstore, _, hprincipal, Register.answers_withAll_iff.mp h⟩
    | holding hstore hasked =>
      rw [PermissionKind.asked_iff.mp hasked] at h
      exact ⟨hstore, Register.answers_withAll_iff.mp h⟩
    | ranking hprincipal => exact ⟨_, hprincipal, h⟩

/-- What is enough remains so when more is registered or more is asked for. -/
theorem Satisfied.mono (h : gate.Satisfied R ctx) (hR : R ≤ R') (hgate : gate.Widens gate') : gate'.Satisfied R' ctx := by
  cases hgate with
  | within hkinds =>
    obtain ⟨hstore, principal, hprincipal, h⟩ := h
    exact ⟨hstore, principal, hprincipal, h.mono hR hkinds⟩
  | permitted hkinds =>
    obtain ⟨hstore, principal, hprincipal, h⟩ := h
    exact ⟨hstore, principal, hprincipal, h.mono hR hkinds⟩
  | holding hkinds =>
    obtain ⟨hstore, h⟩ := h
    exact ⟨hstore, h.mono hR hkinds⟩
  | ranking hroles =>
    obtain ⟨principal, hprincipal, h⟩ := h
    exact ⟨principal, hprincipal, h.mono hR hroles⟩

variable {register : σ → Register}

/-- When questions are answered from what is registered, the verdict is what is registered. -/
theorem value_iff (hw : w.Follows register Register.Turns) (hs : w.Responds s ctx) :
    ((gate.program ctx).run w s).value = true ↔ gate.Satisfied (register s) ctx := by
  have hdecides := gate.decides w s ctx
  -- a question is answered by yes if and only if the register says so
  have hanswer : ∀ a, w.attempt s ctx (.access a) = .answered ctx (.access a) (.ok true) ↔ (register s).Answers a := by
    intro a
    obtain ⟨yes, hyes⟩ := hs a
    obtain ⟨s', hmoves⟩ := World.moves_of_attempt hyes
    rw [← (hw s _ s' hmoves).truthful a yes rfl, hyes]
    cases yes with
    | true => exact iff_of_true rfl rfl
    | false => exact iff_of_false nofun nofun
  rw [satisfied_iff]
  constructor
  · intro hvalue
    by_cases hquestion : ∃ a, gate.Question ctx a
    · obtain ⟨a, ha⟩ := hquestion
      exact ⟨a, ha, (hanswer a).mp (World.attempt_eq_answered_iff.mpr ((hdecides.yes_iff a ha).mp hvalue))⟩
    · rw [(hdecides.unasked (not_exists.mp hquestion)).2] at hvalue
      cases hvalue
  · rintro ⟨a, ha, h⟩
    exact (hdecides.yes_iff a ha).mpr (World.attempt_eq_answered_iff.mp ((hanswer a).mpr h))

end Gate

/-- **Access is decided by a plain yes.** Whoever asks whether something is allowed puts the one question that there is to
put, or none; the verdict is no unless the context is live and the answer is yes. The license is given to those who have one
of three roles. When questions are answered from what is registered, so is whether something is allowed: it stays allowed when
more is registered or more is asked for, and nothing is denied to those who hold all rights. -/
theorem access_decided (w : World σ) (ctx : Context) :
    (∀ (gate : Gate) (s : σ), Decides w s ctx (gate.Question ctx) (gate.program ctx)) ∧
    (∀ (gate : Gate) (s : σ),
      (∀ a, gate.Question ctx a →
        w.interruption? s ctx ≠ none ∨ ∃ refusal, (w.answer s ctx (.access a)).1 = .error refusal) →
      ((gate.program ctx).run w s).value = false) ∧
    (∀ license? counters offers service, Licensing.ofOffers license? counters offers = .ok service →
      ∃ license, license? = some license ∧ ∀ s, ((service.get ctx).run w s).value =
        if (((Gate.ranking service.access [.owner, .admin, .support]).program ctx).run w s).value = true then .ok license
        else .error (.join .licenseGet (.kind .noPermission))) ∧
    ∀ register, w.Follows register Register.Turns →
      (∀ (gate : Gate) s, w.Responds s ctx →
        (((gate.program ctx).run w s).value = true ↔ gate.Satisfied (register s) ctx)) ∧
      (∀ (gate gate' : Gate) s s', w.Responds s ctx → w.Responds s' ctx → register s ≤ register s' → gate.Widens gate' →
        ((gate.program ctx).run w s).value = true → ((gate'.program ctx).run w s').value = true) ∧
      ∀ (gate : Gate) s subject target asked, w.Responds s ctx → gate.Question ctx (.hasPermission subject target asked) →
        (register s).Holds subject target .all → ((gate.program ctx).run w s).value = true := by
  refine ⟨fun gate s => gate.decides w s ctx, fun gate s hfails => ?_, fun license? counters offers service h => ?_,
    fun register hw => ⟨fun gate s hs => Gate.value_iff hw hs, ?_, ?_⟩⟩
  · have hdecides := gate.decides w s ctx
    by_cases hquestion : ∃ a, gate.Question ctx a
    · obtain ⟨a, ha⟩ := hquestion
      refine Bool.eq_false_iff.mpr fun hvalue => ?_
      obtain ⟨hlive, hyes⟩ := (hdecides.yes_iff a ha).mp hvalue
      rcases hfails a ha with hdone | ⟨refusal, herror⟩
      · exact hdone hlive
      · cases herror.symm.trans hyes
    · exact (hdecides.unasked (not_exists.mp hquestion)).2
  · exact ⟨service.license, Licensing.license_of_ofOffers h, fun s => service.value_get w s ctx⟩
  · intro gate gate' s s' hs hs' hR hgate hvalue
    exact (Gate.value_iff hw hs').mpr (((Gate.value_iff hw hs).mp hvalue).mono hR hgate)
  · intro gate s subject target asked hs hquestion hall
    have hdecides := gate.decides w s ctx
    refine (Gate.value_iff hw hs).mpr (Gate.satisfied_iff.mpr ⟨_, hquestion, .all, ?_, hall⟩)
    cases hquestion with
    | within _ _ hasked => exact hasked.all_mem
    | permitted _ _ hasked => exact hasked.all_mem
    | holding _ hasked => exact hasked.all_mem

end

/-! ## A scene -/

/-- A scene in which a user holds all rights on another one, and supports the platform. -/
def Scene.trusting : Scene where
  store :=
    { ({} : Store).withPermission (Permission.fresh (Id.nth .user 1) (Id.nth .user 2) .all) with
      systemRoles := [(Id.nth .user 1, .support)] }
  today := Store.creation

/-- Who holds all rights on another user may read them, and who supports the platform may read the license. -/
theorem access_decided_trusting :
    let access := (Platform.bare 5).access
    let license := (Platform.bare 5).licensing.license
    let reading := Gate.permitted access (Id.nth .user 2) [.read]
    let service : Licensing := ⟨{}, license, access⟩
    ((reading.program Platform.firstUser).run Scene.world Scene.trusting).value = true ∧
      ((service.get Platform.firstUser).run Scene.world Scene.trusting).value = .ok license := by
  intro access license reading service
  obtain ⟨-, -, hlicense, hregister⟩ := access_decided Scene.world Platform.firstUser
  obtain ⟨hsatisfied, -, hall⟩ := hregister Scene.register Scene.follows_register
  have hresponds : Scene.world.Responds Scene.trusting Platform.firstUser := fun a => ⟨_, rfl⟩
  constructor
  · refine hall reading Scene.trusting (Id.nth .user 1) (Id.nth .user 2) [.read, .all] hresponds ?_ ?_
    · exact .permitted rfl rfl (.extended (by decide))
    · exact ⟨_, List.mem_toFinset.mpr (List.mem_singleton_self _), rfl, rfl, rfl⟩
  · obtain ⟨_, ⟨⟩, hget⟩ := hlicense (some license) (some ⟨"counters"⟩) [Platform.offer .accessControl access] service rfl
    rw [hget, if_pos]
    refine (hsatisfied _ Scene.trusting hresponds).mpr ⟨Id.nth .user 1, rfl, .support, by decide, ?_⟩
    exact List.mem_toFinset.mpr (List.mem_singleton_self _)

end Tenancy
