import Tenancy.Proofs.Operation.Moments

/-!
# Guards of operations

Before it sets to work, an operation makes sure that it may: it demands something of its arguments and of its context, asks
whether its principal holds a right, and asks whether the license has room. `Guard.Outcome` says all that can come of one such
guard, and with which events; `Guard.Course` says it of guards that are checked in order, up to the first one that turns the
operation away. Whatever is known of operations before they set to work follows from these two: that nothing acts meanwhile
(`Course.quiet`), and that the guards let an operation pass if and only if all that they ask for has been found out
(`Course.ok_iff`).
-/

namespace Tenancy

/-- A failure with which an operation turns a request away by itself. -/
inductive Complaint where
  | kind (k : ErrorKind)
  | service (k : ErrorKind)
  | broken (k : ErrorKind) (rules : Violations)

/-- The complaint as the cause of a failure. -/
def Complaint.failure : Complaint → Failure
  | kind k => .kind k
  | service k => .service k
  | broken k rules => .joined k (.invalid rules)

/-- What a principal needs a right on: a resource, or the target of a permission as it is stored. -/
inductive Policy.Target where
  | resource (id : Id)
  | ofPermission (id : Id)

namespace Policy.Target

/-- A target is the one that was found out: that of a permission is read from the store. -/
def Found (ctx : Context) (es : List Event) : Target → Id → Prop
  | resource id, target => target = id
  | ofPermission id, target =>
    ∃ permission : Permission, .answered ctx (.permissions (.get id)) (.ok permission) ∈ es ∧ target = permission.target

/-- A target that was found out stays so. -/
theorem Found.mono {ctx : Context} {es es' : List Event} {t : Target} {target : Id} (h : t.Found ctx es target)
    (hsub : es ⊆ es') : t.Found ctx es' target := by
  cases t with
  | resource id => exact h
  | ofPermission id =>
    obtain ⟨permission, hread, htarget⟩ := h
    exact ⟨permission, hsub hread, htarget⟩

/-- Finds a target out. -/
def find (ctx : Context) : Target → Step Id
  | resource id => pure id
  | ofPermission id => do
    let permission : Permission ← Step.ask ctx (.permissions (.get id))
    return permission.target

/-- What comes of finding a target out, and the events of it. -/
inductive Finds (ctx : Context) : Target → List Event → Except Failure Id → Prop where
  | resource (id : Id) : Finds ctx (.resource id) [] (.ok id)
  | read {id : Id} (permission : Permission) :
    Finds ctx (.ofPermission id) [.answered ctx (.permissions (.get id)) (.ok permission)] (.ok permission.target)
  | unread {id : Id} {attempt : Event} {cause : Failure} : attempt.Yields ctx (.permissions (.get id)) (.error cause) →
    Finds ctx (.ofPermission id) [attempt] (.error cause)

namespace Finds

variable {ctx : Context} {target : Target} {finding es : List Event} {id id' : Id} {r : Except Failure Id}

/-- Nothing is asked but to read a permission. -/
theorem concern (h : target.Finds ctx finding r) : Concern (fun c => ∃ id, c = .permissions (.get id)) finding := by
  cases h with
  | resource id => exact fun e he => nomatch he
  | read permission => exact (Event.Attempts.concern (.inr ⟨_, rfl⟩)).mono fun c hc => ⟨_, hc⟩
  | unread hyields => exact hyields.attempts.concern.mono fun c hc => ⟨_, hc⟩

/-- To read a permission changes nothing and hands nothing over. -/
theorem quiet (h : target.Finds ctx finding r) : Quiet finding := by
  cases h with
  | resource id => exact quiet_nil
  | read permission => exact quiet_singleton.mpr rfl
  | unread hyields => cases hyields <;> exact quiet_singleton.mpr rfl

/-- A target that comes of finding it out has been found out. -/
theorem found (h : target.Finds ctx finding (.ok id)) (hsub : finding ⊆ es) : target.Found ctx es id := by
  cases h with
  | resource id => exact rfl
  | read permission => exact ⟨permission, hsub (List.mem_singleton_self _), rfl⟩

/-- Nothing else has been found out. -/
theorem found_unique (h : target.Finds ctx finding (.ok id)) (hes : Concern Call.IsAccess es)
    (hfound : target.Found ctx (finding ++ es) id') : id = id' := by
  cases h with
  | resource id => exact hfound.symm
  | read permission =>
    obtain ⟨permission', hread, rfl⟩ := hfound
    rcases List.mem_append.mp hread with hread | hread
    · cases List.mem_singleton.mp hread
      rfl
    · obtain ⟨a, ⟨⟩⟩ := hes.answered hread

/-- When a target cannot be found out, nothing has been. -/
theorem not_found {cause : Failure} (h : target.Finds ctx finding (.error cause)) : ¬target.Found ctx finding id := by
  cases h with
  | unread hyields =>
    rintro ⟨permission, hread, -⟩
    cases hyields <;> cases List.mem_singleton.mp hread

end Finds

end Policy.Target

/-- What an operation makes sure of before it sets to work. -/
inductive Guard where
  /-- Something that is known without asking anyone, or else there is a complaint. -/
  | demand (met : Bool) (complaint : Complaint)
  /-- The principal holds a right, or all of them, on a target. -/
  | right (target : Policy.Target) (kind : PermissionKind)
  /-- There is room for one more under a cap of the license. -/
  | room (s : Licensing) (quota : Quota) (complaint : Complaint)

namespace Guard

/-- An id names a single resource of a type. -/
abbrev named (id : Id) (kind : ResourceType) : Guard := .demand (id.names kind) (.service .invalidId)

/-- A record breaks no rules. -/
abbrev valid (kind : ErrorKind) (broken : Violations) : Guard := .demand broken.isEmpty (.broken kind broken)

/-- There is a principal. -/
abbrev principal (ctx : Context) : Guard := .demand ctx.principal.isSome (.kind .noUser)

/-- An offset is not negative, and a limit is positive. -/
abbrev page (offset limit : Int) : Guard := .demand (decide (0 ≤ offset ∧ 0 < limit)) (.kind .invalidPagination)

/-- A patch sets a field, and breaks no rules. -/
abbrev change (kind : ErrorKind) (empty : Bool) (broken : Violations) : List Guard :=
  [.demand (!empty) (.kind .noPatchData), .valid kind broken]

/-- A right that one principal does not need. -/
def rightUnless (ctx : Context) (exempt : Id) (target : Policy.Target) (kind : PermissionKind) : List Guard :=
  if ctx.principal = some exempt then [] else [.right target kind]

/-- What an operation does with a guard. -/
def check (e : Equipment) (ctx : Context) (span : String) : Guard → Step Unit
  | demand met complaint => Step.demand met complaint.failure
  | right target kind => do
    let target ← target.find ctx
    Step.demand (← e.permitted ctx span target [kind]) (.kind .noPermission)
  | room s quota complaint => s.demandRoom ctx quota complaint.failure

/-- What an operation does with guards: it checks one after the other. -/
def checkAll (e : Equipment) (ctx : Context) (span : String) : List Guard → Step Unit
  | [] => return
  | g :: gs => do
    g.check e ctx span
    checkAll e ctx span gs

/-! ## What comes of a guard -/

/-- Passes if a condition holds, and fails otherwise. -/
def passIf (met : Bool) (cause : Failure) : Except Failure Unit := if met then .ok () else .error cause

/-- What passes if a condition holds passes exactly when it does. -/
@[simp] theorem passIf_eq_ok_iff {met : Bool} {cause : Failure} : passIf met cause = .ok () ↔ met = true := by
  cases met <;> simp [passIf]

/-- What passes if a condition holds fails with the cause given, exactly when it does not hold. -/
@[simp] theorem passIf_eq_error_iff {met : Bool} {cause f : Failure} :
    passIf met cause = .error f ↔ met = false ∧ cause = f := by
  cases met <;> simp [passIf]

/-- All that can come of a guard, and with which events. -/
inductive Outcome (e : Equipment) (ctx : Context) (span : String) : Guard → List Event → Except Failure Unit → Prop where
  | demanded {met : Bool} {complaint : Complaint} :
    Outcome e ctx span (.demand met complaint) [] (passIf met complaint.failure)
  /-- The target of the right cannot be found out. -/
  | lost {target : Policy.Target} {kind : PermissionKind} {finding : List Event} {cause : Failure} :
    target.Finds ctx finding (.error cause) → Outcome e ctx span (.right target kind) finding (.error cause)
  | asked {target : Policy.Target} {kind : PermissionKind} {finding asking : List Event} {id : Id} {yes : Bool} :
    target.Finds ctx finding (.ok id) → e.Settles ctx span (e.principalQuestion? ctx id [kind]) asking yes →
    Outcome e ctx span (.right target kind) (finding ++ asking) (passIf yes (.kind .noPermission))
  /-- There is no cap, or the resources cannot be counted. -/
  | unsettled {s : Licensing} {quota : Quota} {complaint : Complaint} {counting : List Event} {failure : ServiceError} :
    s.Counts ctx quota counting (.error failure) →
    Outcome e ctx span (.room s quota complaint) counting (.error failure.toFailure)
  | counted {s : Licensing} {quota : Quota} {complaint : Complaint} {counting : List Event} {yes : Bool} :
    s.Counts ctx quota counting (.ok yes) →
    Outcome e ctx span (.room s quota complaint) counting (passIf yes complaint.failure)

/-- All that can come of guards that are checked in order, and with which events: the first one that does not let the operation
pass turns it away. -/
inductive Course (e : Equipment) (ctx : Context) (span : String) : List Guard → List Event → Except Failure Unit → Prop where
  | through : Course e ctx span [] [] (.ok ())
  | passed {g : Guard} {gs : List Guard} {es es' : List Event} {r : Except Failure Unit} :
    g.Outcome e ctx span es (.ok ()) → Course e ctx span gs es' r → Course e ctx span (g :: gs) (es ++ es') r
  | turned {g : Guard} {gs : List Guard} {es : List Event} {cause : Failure} :
    g.Outcome e ctx span es (.error cause) → Course e ctx span (g :: gs) es (.error cause)

section

variable {e : Equipment} {ctx : Context} {span : String} {past : List Event} {g : Guard} {gs : List Guard}

/-- A demand ensures what is asked of its passing or failing, with no events of its own. -/
theorem ensures_demand_iff {met : Bool} {cause : Failure} {Q : List Event → Except Failure Unit → Prop} :
    (Step.demand met cause).Ensures past Q ↔ Q past (passIf met cause) := by
  cases met
  · exact Iff.rfl
  · exact Iff.rfl

/-- To find a target out ensures what holds of all that can come of it. -/
theorem ensures_find {target : Policy.Target} {Q : List Event → Except Failure Id → Prop}
    (h : ∀ added r, target.Finds ctx added r → Q (past ++ added) r) : (target.find ctx).Ensures past Q := by
  cases target with
  | resource id =>
    have hQ := h [] _ (.resource id)
    rwa [List.append_nil] at hQ
  | ofPermission id =>
    refine Step.ensures_bind.mpr (Step.ensures_attempt fun attempt r hyields => ?_)
    cases hyields with
    | refused cause => exact h _ _ (.unread (.refused cause))
    | answered permission => exact h _ _ (.read permission)
    | failed refusal => exact h _ _ (.unread (.failed refusal))

/-- To check a guard ensures what holds of all that can come of it. -/
theorem ensures_check {Q : List Event → Except Failure Unit → Prop}
    (h : ∀ added r, g.Outcome e ctx span added r → Q (past ++ added) r) : (g.check e ctx span).Ensures past Q := by
  cases g with
  | demand met complaint =>
    have hQ := h [] _ .demanded
    rw [List.append_nil] at hQ
    exact ensures_demand_iff.mpr hQ
  | right target kind =>
    refine Step.ensures_bind.mpr (ensures_find fun finding r hfinds => ?_)
    cases r with
    | error cause => exact h _ _ (.lost hfinds)
    | ok id =>
      refine Step.ensures_bind.mpr (Step.ensures_lift.mpr (Equipment.ensures_permitted fun asking yes hsettles => ?_))
      have hQ := h _ _ (.asked hfinds hsettles)
      rw [← List.append_assoc] at hQ
      exact ensures_demand_iff.mpr hQ
  | room s quota complaint =>
    refine Step.ensures_bind.mpr (Step.ensures_ofOperation.mpr (Licensing.ensures_withinThreshold fun added r hcounts => ?_))
    cases r with
    | error failure => exact h _ _ (.unsettled hcounts)
    | ok yes => exact ensures_demand_iff.mpr (h _ _ (.counted hcounts))

/-- Guards that are checked in order run their course. -/
theorem ensures_checkAll {Q : List Event → Except Failure Unit → Prop}
    (h : ∀ added r, Course e ctx span gs added r → Q (past ++ added) r) : (checkAll e ctx span gs).Ensures past Q := by
  induction gs generalizing past with
  | nil =>
    have hQ := h [] _ .through
    rwa [List.append_nil] at hQ
  | cons g gs ih =>
    refine Step.ensures_bind.mpr (ensures_check fun added r houtcome => ?_)
    cases r with
    | error cause => exact h _ _ (.turned houtcome)
    | ok u =>
      refine ih fun later r hcourse => ?_
      rw [List.append_assoc]
      exact h _ _ (.passed houtcome hcourse)

/-- What comes after guards is reached when they let the operation pass. -/
theorem ensures_checkAll_bind {α : Type} {task : Step α} {Q : List Event → Except Failure α → Prop}
    (turned : ∀ added cause, Course e ctx span gs added (.error cause) → Q (past ++ added) (.error cause))
    (passed : ∀ added, Course e ctx span gs added (.ok ()) → task.Ensures (past ++ added) Q) :
    (checkAll e ctx span gs >>= fun _ => task).Ensures past Q := by
  refine Step.ensures_bind.mpr (ensures_checkAll fun added r hcourse => ?_)
  cases r with
  | error cause => exact turned added cause hcourse
  | ok u => exact passed added hcourse

end

/-! ## What guards find out -/

/-- The calls by which a guard finds out what it asks for. -/
def Asks : Guard → Call → Prop
  | demand _ _, _ => False
  | right _ _, c => c.IsAccess ∨ ∃ id, c = .permissions (.get id)
  | room _ quota _, c => c = .count quota

/-- Guards change nothing. -/
theorem Asks.isWrite {g : Guard} {c : Call} (h : g.Asks c) : c.isWrite = false := by
  cases g with
  | demand met complaint => cases h
  | right target kind => rcases h with ⟨a, rfl⟩ | ⟨id, rfl⟩ <;> rfl
  | room s quota complaint =>
    rw [show c = .count quota from h]
    rfl

/-- What a guard asks for has been found out. -/
def Found (ctx : Context) (es : List Event) : Guard → Prop
  | demand met _ => met = true
  | right target kind => ∃ id, target.Found ctx es id ∧ Granted ctx id [kind] es
  | room s quota _ => Roomy s.license ctx quota es

/-- What has been found out was found out from answers. -/
theorem Found.of_answers {ctx : Context} {es es' : List Event} {g : Guard} (h : g.Found ctx es)
    (hes : ∀ c reply, g.Asks c → .answered ctx c reply ∈ es → .answered ctx c reply ∈ es') : g.Found ctx es' := by
  cases g with
  | demand met complaint => exact h
  | right target kind =>
    obtain ⟨id, hfound, principal, hprincipal, hmem⟩ := h
    refine ⟨id, ?_, principal, hprincipal, hes _ _ (.inl ⟨_, rfl⟩) hmem⟩
    cases target with
    | resource id' => exact hfound
    | ofPermission id' =>
      obtain ⟨permission, hread, htarget⟩ := hfound
      exact ⟨permission, hes _ _ (.inr ⟨_, rfl⟩) hread, htarget⟩
  | room s quota complaint =>
    obtain ⟨cap, count, hcap, hmem, hroom⟩ := h
    exact ⟨cap, count, hcap, hes _ _ rfl hmem, hroom⟩

/-- What a guard has found out stays so. -/
theorem Found.mono {ctx : Context} {es es' : List Event} {g : Guard} (h : g.Found ctx es) (hsub : es ⊆ es') : g.Found ctx es' :=
  h.of_answers fun _ _ _ hmem => hsub hmem

section

variable {ctx : Context} {es : List Event} {gs gs' : List Guard}

@[simp] theorem found_demand {met : Bool} {complaint : Complaint} : (demand met complaint).Found ctx es ↔ met = true := Iff.rfl

@[simp] theorem found_right {target : Policy.Target} {kind : PermissionKind} :
    (right target kind).Found ctx es ↔ ∃ id, target.Found ctx es id ∧ Granted ctx id [kind] es := Iff.rfl

@[simp] theorem found_room {s : Licensing} {quota : Quota} {complaint : Complaint} :
    (room s quota complaint).Found ctx es ↔ Roomy s.license ctx quota es := Iff.rfl

/-- What is not about a call finds out nothing. -/
theorem found_calls {g : Guard} : g.Found ctx (calls es) ↔ g.Found ctx es :=
  ⟨fun h => h.of_answers fun _ _ _ => (mem_calls_iff rfl).mp, fun h => h.of_answers fun _ _ _ => (mem_calls_iff rfl).mpr⟩

/-- What guards ask for has been found out. -/
def FoundAll (ctx : Context) (es : List Event) (gs : List Guard) : Prop := ∀ g ∈ gs, g.Found ctx es

@[simp] theorem foundAll_nil : FoundAll ctx es [] := List.forall_mem_nil _

/-- A list of guards has found out what its first one and the others have. -/
@[simp] theorem foundAll_cons {g : Guard} : FoundAll ctx es (g :: gs) ↔ g.Found ctx es ∧ FoundAll ctx es gs :=
  List.forall_mem_cons

/-- Two lists of guards have found out together what each of them has. -/
@[simp] theorem foundAll_append : FoundAll ctx es (gs ++ gs') ↔ FoundAll ctx es gs ∧ FoundAll ctx es gs' :=
  List.forall_mem_append

/-- What guards have found out stays so. -/
theorem FoundAll.mono {es' : List Event} (h : FoundAll ctx es gs) (hsub : es ⊆ es') : FoundAll ctx es' gs :=
  fun g hg => (h g hg).mono hsub

/-- What a span adds finds out nothing. -/
theorem foundAll_enclosed {e : Equipment} {name : String} : FoundAll ctx (e.enclosed ctx name es) gs ↔ FoundAll ctx es gs :=
  forall₂_congr fun g _ => by rw [← found_calls, Equipment.calls_enclosed, found_calls]

/-- Of a right that one principal does not need, either it is that principal, or the right has been found. -/
@[simp] theorem foundAll_rightUnless {exempt : Id} {target : Policy.Target} {kind : PermissionKind} :
    FoundAll ctx es (rightUnless ctx exempt target kind) ↔
      ctx.principal = some exempt ∨ (right target kind).Found ctx es := by
  unfold rightUnless
  split
  · next hexempt => simp [hexempt]
  · next hother => simp [hother]

end

/-- No two guards ask the same. -/
def Apart (gs : List Guard) : Prop := gs.Pairwise fun g g' => ∀ c, g.Asks c → ¬g'.Asks c

section

variable {e : Equipment} {ctx : Context} {span : String} {g : Guard} {gs gs' : List Guard} {es es' : List Event}
  {r : Except Failure Unit}

/-- What a guard asks for is not found out from events that are about other calls. -/
theorem Found.of_append {P : Call → Prop} (h : g.Found ctx (es ++ es')) (hes : Concern P es)
    (hother : ∀ c, P c → ¬g.Asks c) : g.Found ctx es' :=
  h.of_answers fun c _ hasks hmem => (List.mem_append.mp hmem).resolve_left fun hmem => hother c (hes.answered hmem) hasks

namespace Outcome

/-- Nothing comes of a demand but passing or failing, without events. -/
theorem demand_iff {met : Bool} {complaint : Complaint} :
    (demand met complaint).Outcome e ctx span es r ↔ es = [] ∧ r = passIf met complaint.failure := by
  constructor
  · intro h
    cases h
    exact ⟨rfl, rfl⟩
  · rintro ⟨rfl, rfl⟩
    exact .demanded

/-- A demand turns an operation away when it is not met. -/
theorem demand_error {met : Bool} {complaint : Complaint} {cause : Failure}
    (h : (demand met complaint).Outcome e ctx span es (.error cause)) : met = false ∧ complaint.failure = cause :=
  passIf_eq_error_iff.mp (demand_iff.mp h).2.symm

/-- Who is not found to hold a right on a resource has no permission. -/
theorem resource_error {id : Id} {kind : PermissionKind} {cause : Failure}
    (h : (right (.resource id) kind).Outcome e ctx span es (.error cause)) : cause = .kind .noPermission := by
  generalize hr : Except.error cause = r at h
  cases h with
  | lost hfinds => cases hfinds
  | asked _ _ => exact (passIf_eq_error_iff.mp hr.symm).2.symm

/-- A guard is about nothing but what it asks. -/
theorem concern (h : g.Outcome e ctx span es r) : Concern g.Asks es := by
  cases h with
  | demanded => exact fun e he => nomatch he
  | lost hfinds => exact hfinds.concern.mono fun _ => .inr
  | asked hfinds hsettles =>
    exact concern_append.mpr ⟨hfinds.concern.mono fun _ => .inr, hsettles.concern.mono fun _ => .inl⟩
  | unsettled hcounts => exact hcounts.concern
  | counted hcounts => exact hcounts.concern

/-- A guard changes nothing and hands nothing over. -/
theorem quiet (h : g.Outcome e ctx span es r) : Quiet es := by
  cases h with
  | demanded => exact quiet_nil
  | lost hfinds => exact hfinds.quiet
  | asked hfinds hsettles => exact hfinds.quiet.append hsettles.quiet
  | unsettled hcounts => exact hcounts.quiet
  | counted hcounts => exact hcounts.quiet

/-- A guard lets an operation pass if and only if what it asks for has been found out. -/
theorem ok_iff (h : g.Outcome e ctx span es r) : r = .ok () ↔ g.Found ctx es := by
  cases h with
  | demanded => exact passIf_eq_ok_iff
  | lost hfinds =>
    refine iff_of_false nofun ?_
    rintro ⟨id, hfound, -⟩
    exact hfinds.not_found hfound
  | @asked target kind finding asking id yes hfinds hsettles =>
    rw [passIf_eq_ok_iff, hsettles.granted_iff]
    constructor
    · exact fun hgranted => ⟨id, hfinds.found (List.subset_append_left _ _), hgranted.mono (List.subset_append_right _ _)⟩
    · rintro ⟨id', hfound, hgranted⟩
      obtain rfl := hfinds.found_unique hsettles.concern hfound
      exact hgranted.of_append hfinds.concern (by rintro _ ⟨_, rfl⟩ ⟨a, ⟨⟩⟩)
  | unsettled hcounts => exact iff_of_false nofun fun hroomy => nomatch hcounts.roomy_iff.mpr hroomy
  | counted hcounts =>
    rw [passIf_eq_ok_iff]
    exact ⟨fun hyes => hcounts.roomy_iff.mp (congrArg Except.ok hyes), fun h => Except.ok.inj (hcounts.roomy_iff.mpr h)⟩

end Outcome

namespace Course

/-- Guards are about nothing but what they ask. -/
theorem concern (h : Course e ctx span gs es r) : Concern (fun c => ∃ g ∈ gs, g.Asks c) es := by
  induction h with
  | through => exact fun e he => nomatch he
  | passed houtcome _ ih =>
    refine concern_append.mpr ⟨houtcome.concern.mono fun c hasks => ⟨_, List.mem_cons_self, hasks⟩, ih.mono ?_⟩
    rintro c ⟨g, hg, hasks⟩
    exact ⟨g, List.mem_cons_of_mem _ hg, hasks⟩
  | turned houtcome => exact houtcome.concern.mono fun c hasks => ⟨_, List.mem_cons_self, hasks⟩

/-- Guards change nothing and hand nothing over. -/
theorem quiet (h : Course e ctx span gs es r) : Quiet es := by
  induction h with
  | through => exact quiet_nil
  | passed houtcome _ ih => exact houtcome.quiet.append ih
  | turned houtcome => exact houtcome.quiet

/-- Guards let an operation pass one after the other, and the first one that does not turns it away. -/
theorem cons_iff : Course e ctx span (g :: gs) es r ↔
    (∃ es₁ es₂, es = es₁ ++ es₂ ∧ g.Outcome e ctx span es₁ (.ok ()) ∧ Course e ctx span gs es₂ r) ∨
      ∃ cause, r = .error cause ∧ g.Outcome e ctx span es (.error cause) := by
  constructor
  · intro h
    cases h with
    | passed houtcome hcourse => exact .inl ⟨_, _, rfl, houtcome, hcourse⟩
    | turned houtcome => exact .inr ⟨_, rfl, houtcome⟩
  · rintro (⟨es₁, es₂, rfl, houtcome, hcourse⟩ | ⟨cause, rfl, houtcome⟩)
    · exact .passed houtcome hcourse
    · exact .turned houtcome

/-- What comes of a demand is known without asking anyone. -/
theorem demand_iff {met : Bool} {complaint : Complaint} : Course e ctx span (.demand met complaint :: gs) es r ↔
    met = true ∧ Course e ctx span gs es r ∨ met = false ∧ es = [] ∧ r = .error complaint.failure := by
  simp only [cons_iff, Outcome.demand_iff]
  cases met <;> simp [passIf, and_comm]

/-- The first of some guards turn an operation away, or else it is left to the others. -/
theorem append (h : Course e ctx span (gs ++ gs') es r) : (∃ cause, r = .error cause ∧ Course e ctx span gs es (.error cause)) ∨
    ∃ es₁ es₂, es = es₁ ++ es₂ ∧ Course e ctx span gs es₁ (.ok ()) ∧ Course e ctx span gs' es₂ r := by
  induction gs generalizing es with
  | nil => exact .inr ⟨[], es, rfl, .through, h⟩
  | cons g gs ih =>
    rcases cons_iff.mp h with ⟨es₁, es₂, rfl, houtcome, hcourse⟩ | ⟨cause, rfl, houtcome⟩
    · rcases ih hcourse with ⟨cause, rfl, hturned⟩ | ⟨es₃, es₄, rfl, hpassed, hrest⟩
      · exact .inl ⟨cause, rfl, .passed houtcome hturned⟩
      · exact .inr ⟨es₁ ++ es₃, es₄, (List.append_assoc ..).symm, .passed houtcome hpassed, hrest⟩
    · exact .inl ⟨cause, rfl, .turned houtcome⟩

/-- An operation that is turned away is turned away by one of its guards. -/
theorem turned_by {cause : Failure} (h : Course e ctx span gs es (.error cause)) :
    ∃ g ∈ gs, ∃ es', g.Outcome e ctx span es' (.error cause) := by
  induction gs generalizing es with
  | nil => cases h
  | cons g gs ih =>
    rcases cons_iff.mp h with ⟨_, _, -, -, hcourse⟩ | ⟨_, heq, houtcome⟩
    · obtain ⟨g', hg', hturned⟩ := ih hcourse
      exact ⟨g', List.mem_cons_of_mem _ hg', hturned⟩
    · obtain rfl := Except.error.inj heq
      exact ⟨g, List.mem_cons_self, es, houtcome⟩

/-- Guards let an operation pass if and only if all that they ask for has been found out. -/
theorem ok_iff (h : Course e ctx span gs es r) (apart : Apart gs) : r = .ok () ↔ FoundAll ctx es gs := by
  induction h with
  | through => simp
  | passed houtcome _ ih =>
    obtain ⟨hother, apart⟩ := List.pairwise_cons.mp apart
    rw [ih apart]
    constructor
    · intro hrest
      refine List.forall_mem_cons.mpr ⟨(houtcome.ok_iff.mp rfl).mono (List.subset_append_left _ _), fun g hg => ?_⟩
      exact (hrest g hg).mono (List.subset_append_right _ _)
    · -- what the first guard has found out is no answer to another one
      intro hall g hg
      exact (hall g (List.mem_cons_of_mem _ hg)).of_append houtcome.concern fun c => hother g hg c
  | turned houtcome => exact iff_of_false nofun fun hall => nomatch houtcome.ok_iff.mpr (hall _ List.mem_cons_self)

end Course

end

end Guard

end Tenancy
