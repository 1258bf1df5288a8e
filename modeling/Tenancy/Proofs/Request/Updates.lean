import Tenancy.Proofs.Request.Serve
import Tenancy.Proofs.Record.Patching

/-!
# Updates that set nothing

Whoever may change a record is told that there is nothing to change exactly if the patch changes no record whatever
(`patch_algebra`). Whoever may not is turned away before the patch is looked at.
-/

namespace Tenancy

/-- No call fails for want of a change. -/
theorem Call.refused_ne_noPatchData (c : Call) (refusal : Refusal c.Fault) : c.refused refusal ≠ .kind .noPatchData := by
  cases refusal with
  | interrupted cause => exact nofun
  | failed fault => cases c <;> exact nofun

/-- An attempt at a call does not fail for want of a change. -/
theorem Event.Yields.ne_noPatchData {ctx : Context} {c : Call} {attempt : Event} {cause : Failure}
    (h : attempt.Yields ctx c (.error cause)) : cause ≠ .kind .noPatchData := by
  cases h with
  | refused cause => exact nofun
  | failed refusal => exact c.refused_ne_noPatchData refusal

/-- To be joined to a kind tells failures apart. -/
theorem ServiceError.mapError_join_eq_iff {α : Type} {kind : ErrorKind} {cause : Failure} {r : Except Failure α} :
    r.mapError (join kind) = .error (join kind cause) ↔ r = .error cause := by
  cases r with
  | ok a => exact ⟨nofun, nofun⟩
  | error f =>
    change Except.error (join kind f) = Except.error (join kind cause) ↔ _
    simp [join]

/-! ## Guards -/

namespace Guard

/-- The complaint of a guard, when it has one of its own. -/
def complaint? : Guard → Option Complaint
  | demand _ complaint => some complaint
  | right _ _ => none
  | room _ _ complaint => some complaint

/-- A right that one principal does not need has no complaint of its own. -/
theorem complaint?_of_mem_rightUnless {ctx : Context} {exempt : Id} {target : Policy.Target} {kind : PermissionKind} {g : Guard}
    (h : g ∈ rightUnless ctx exempt target kind) : g.complaint? = none := by
  unfold rightUnless at h
  split at h
  · cases h
  · rw [List.mem_singleton.mp h]
    rfl

variable {e : Equipment} {ctx : Context} {span : String} {es : List Event} {kind : ErrorKind} {broken : Violations} {empty : Bool}

/-- A guard that has another complaint turns nothing away for want of a change. -/
theorem Outcome.ne_noPatchData {g : Guard} {cause : Failure} (h : g.Outcome e ctx span es (.error cause))
    (hother : g.complaint? ≠ some (.kind .noPatchData)) : cause ≠ .kind .noPatchData := by
  have complaint_ne {complaint : Complaint} (hne : complaint ≠ .kind .noPatchData) : complaint.failure ≠ .kind .noPatchData := by
    cases complaint with
    | kind k => exact fun heq => hne (congrArg Complaint.kind (Failure.kind.inj heq))
    | service k => exact nofun
    | broken k rules => exact nofun
  generalize hr : Except.error cause = r at h
  cases h with
  | demanded =>
    obtain ⟨-, rfl⟩ := passIf_eq_error_iff.mp hr.symm
    exact complaint_ne fun heq => hother (congrArg some heq)
  | lost hfinds =>
    cases hr
    cases hfinds with
    | unread hyields => exact hyields.ne_noPatchData
  | asked _ _ =>
    obtain ⟨-, rfl⟩ := passIf_eq_error_iff.mp hr.symm
    exact nofun
  | unsettled hcounts =>
    cases hr
    cases hcounts with
    | uncapped _ => exact nofun
    | uncounted _ _ => exact nofun
  | counted _ =>
    obtain ⟨-, rfl⟩ := passIf_eq_error_iff.mp hr.symm
    exact complaint_ne fun heq => hother (congrArg some heq)

/-- Behind other guards, an update is turned away for want of a change exactly if they let it pass and its patch is empty. -/
theorem Course.complains_iff {gs : List Guard} {r : Except Failure Unit}
    (h : Course e ctx span (gs ++ change kind empty broken) es r)
    (apart : Apart gs) (hother : ∀ g ∈ gs, g.complaint? ≠ some (.kind .noPatchData)) :
    r = .error (.kind .noPatchData) ↔ FoundAll ctx es gs ∧ empty = true := by
  rcases h.append with ⟨cause, rfl, hturned⟩ | ⟨es₁, es₂, rfl, hpassed, hlast⟩
  · obtain ⟨g, hg, es', houtcome⟩ := hturned.turned_by
    refine iff_of_false (fun heq => houtcome.ne_noPatchData (hother g hg) (Except.error.inj heq)) fun hall => ?_
    cases (hturned.ok_iff apart).mpr hall.1
  · have hfound : FoundAll ctx (es₁ ++ es₂) gs := ((hpassed.ok_iff apart).mp rfl).mono (List.subset_append_left _ _)
    rcases demand_iff.mp hlast with ⟨hchange, hvalid⟩ | ⟨hempty, -, rfl⟩
    · -- the patch is not empty, and breaks rules or does not
      refine iff_of_false (fun hcause => ?_) fun hall => by simp [hall.2] at hchange
      obtain ⟨g, hg, es', houtcome⟩ := turned_by (hcause ▸ hvalid)
      obtain rfl := List.mem_singleton.mp hg
      exact houtcome.ne_noPatchData nofun rfl
    · exact iff_of_true rfl ⟨hfound, by simpa using hempty⟩

end Guard

/-! ## Updates -/

namespace Platform

variable {p : Platform} {ctx : Context} {r : Request} {gs : List Guard} {empty : Bool} {kind kind' : ErrorKind}
  {broken : Violations} {c : Call} {shown : c.Value → Response}

/-- An update is turned away for want of a change exactly if all that its other guards ask for has been found out, and its patch
is empty. -/
theorem complains_iff
    (h : r.outline? p ctx = some (.ofCall ctx (gs ++ Guard.change kind' empty broken) c shown))
    (hkind : r.kind? = some kind) (hother : ∀ g ∈ gs, g.complaint? ≠ some (.kind .noPatchData)) :
    (p.serve ctx r).Ensures [] fun es x =>
      x = .error (.join kind (.kind .noPatchData)) ↔ Guard.FoundAll ctx es gs ∧ empty = true := by
  have apart : Guard.Apart gs := (List.pairwise_append.mp (Request.apart_guards h)).1
  refine ensures_outline h hkind (fun checked cause hcourse => ?_) fun checked hcourse => ?_
  · rw [Guard.foundAll_enclosed, ← hcourse.complains_iff apart hother]
    simp [ServiceError.join]
  · -- behind its guards, an update has a patch that is not empty
    have hchange : empty = false := by
      have hfound := (hcourse.ok_iff (Request.apart_guards h)).mp rfl
      simpa using hfound (.demand (!empty) (.kind .noPatchData)) (by simp [Outline.ofCall])
    refine Step.ensures_map.mpr (Step.ensures_attempt fun attempt result hyields => ?_)
    refine iff_of_false (fun hcause => ?_) fun hall => by simp [hchange] at hall
    cases result with
    | ok v => cases hcause
    | error cause => exact hyields.ne_noPatchData (Except.error.inj (ServiceError.mapError_join_eq_iff.mp hcause))

end Platform

section

variable {ctx : Context} {id : Id}

/-- The value that is shown makes no difference to a failure. -/
theorem Except.map_eq_error_iff {α : Type} {shown : α → Response} {x : Except ServiceError α} {e : ServiceError} :
    x.map shown = .error e ↔ x = .error e := by
  cases x with
  | ok v => exact ⟨nofun, nofun⟩
  | error e' => exact ⟨fun h => by cases h; rfl, fun h => by cases h; rfl⟩

/-- A user's record may be changed by the user and by whoever has been found to hold the right to write it. -/
theorem Accounts.complains_update (s : Accounts) {patch : UserPatch} :
    (s.update ctx id patch).Ensures [] fun es r => r = .error (.join .userUpdate (.kind .noPatchData)) ↔
      (id.names .user = true ∧ (ctx.principal = some id ∨ Granted ctx id [.write] es)) ∧ patch.isEmpty = true := by
  have hother : ∀ g ∈ [.named id .user, .principal ctx] ++ Guard.rightUnless ctx id (.resource id) .write,
      g.complaint? ≠ some (.kind .noPatchData) := by
    refine List.forall_mem_append.mpr ⟨by simp [Guard.complaint?], fun g hg => ?_⟩
    simp [Guard.complaint?_of_mem_rightUnless hg]
  have hserve : (s.platform.serve ctx (.updateUser id patch)).Ensures [] _ := Platform.complains_iff rfl rfl hother
  refine (Program.ensures_map.mp hserve).mono fun es x hx => ?_
  rw [← Except.map_eq_error_iff, hx]
  refine and_congr_left fun _ => ?_
  have hself (heq : ctx.principal = some id) : ctx.principal.isSome = true := by rw [heq]; rfl
  have hgranted (h : Granted ctx id [.write] es) : ctx.principal.isSome = true := h.isSome
  simp only [Guard.foundAll_append, Guard.foundAll_cons, Guard.foundAll_nil, Guard.foundAll_rightUnless, Guard.found_demand,
    Guard.found_right, Policy.Target.Found, exists_eq_left]
  tauto

/-- An organization may be changed by whoever has been found to hold the right to write it. -/
theorem Organizations.complains_update (s : Organizations) {patch : OrganizationPatch} :
    (s.update ctx id patch).Ensures [] fun es r => r = .error (.join .organizationUpdate (.kind .noPatchData)) ↔
      (id.names .organization = true ∧ Granted ctx id [.write] es) ∧ patch.isEmpty = true := by
  have hserve : (s.platform.serve ctx (.updateOrganization id patch)).Ensures [] _ :=
    Platform.complains_iff rfl rfl (by simp [Guard.complaint?])
  refine (Program.ensures_map.mp hserve).mono fun es x hx => ?_
  rw [← Except.map_eq_error_iff, hx]
  refine and_congr_left fun _ => ?_
  simpa [Policy.Target.Found] using fun _ hgranted => Granted.isSome hgranted

end

/-- **Patches.** A patch changes the fields that it sets, to what it sets them to, and nothing else; one patch after another is
the patch that takes each field from the later one where that one sets it; and the patches that are empty are those that change
no record. So an update is turned away for want of a change exactly if it is let pass by the guards before and its patch could
never change a record. -/
theorem patch_algebra :
    UserPatch.patching.Lawful UserPatch.apply UserPatch.merge UserPatch.isEmpty ∧
    OrganizationPatch.patching.Lawful OrganizationPatch.apply OrganizationPatch.merge OrganizationPatch.isEmpty ∧
    ∀ {σ : Type} (w : World σ) (s : σ) (ctx : Context) (id : Id),
      (∀ (service : Accounts) (patch : UserPatch),
        let update := service.update ctx id patch
        (update.run w s).value = .error (.join .userUpdate (.kind .noPatchData)) ↔
          (id.names .user = true ∧ (ctx.principal = some id ∨ Granted ctx id [.write] (update.trace w s))) ∧
            ∀ user, patch.apply user = user) ∧
      ∀ (service : Organizations) (patch : OrganizationPatch),
        let update := service.update ctx id patch
        (update.run w s).value = .error (.join .organizationUpdate (.kind .noPatchData)) ↔
          (id.names .organization = true ∧ Granted ctx id [.write] (update.trace w s)) ∧
            ∀ organization, patch.apply organization = organization := by
  refine ⟨UserPatch.faithful.lawful, OrganizationPatch.faithful.lawful, fun w s ctx id => ⟨?_, ?_⟩⟩
  · intro service patch update
    rw [← UserPatch.faithful.isEmpty_iff]
    exact service.complains_update.run w s
  · intro service patch update
    rw [← OrganizationPatch.faithful.isEmpty_iff]
    exact service.complains_update.run w s

end Tenancy
