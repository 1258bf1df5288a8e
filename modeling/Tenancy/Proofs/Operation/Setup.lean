import Tenancy.Operation.Setup
import Tenancy.Proofs.Failure.Steps

/-!
# Services as they are set up

A service that has been set up has the collaborators that it requires, and what else it was given.
-/

namespace Tenancy

/-- Something that must be given is, exactly when it succeeds. -/
theorem orMissing_eq_ok_iff {α : Type} {kind : ErrorKind} {given : Option α} {a : α} :
    orMissing kind given = .ok a ↔ given = some a := by
  cases given with
  | some b => simp [orMissing]
  | none => simp [orMissing]

namespace Kit

variable {κ : Collaborator → Type} {kit : Kit κ} {c : Collaborator}

/-- A collaborator that is required is in the kit. -/
theorem require_eq_ok_iff {handle : κ c} : kit.require c = .ok handle ↔ kit c = some handle := by
  unfold require
  cases kit c with
  | some handle' => simp
  | none => simp

end Kit

section

variable {offers : List (Offer Handle)}

/-- The service of the license has the license that it was given. -/
theorem Licensing.license_of_ofOffers {license : Option License} {counters : Option Endpoint} {service : Licensing}
    (h : ofOffers license counters offers = .ok service) : license = some service.license := by
  obtain ⟨kit, -, h⟩ := Except.bind_eq_ok_iff.mp h
  obtain ⟨given, hgiven, h⟩ := Except.bind_eq_ok_iff.mp h
  obtain ⟨_, -, h⟩ := Except.bind_eq_ok_iff.mp h
  obtain ⟨access, -, h⟩ := Except.bind_eq_ok_iff.mp h
  obtain rfl := Except.ok.inj h
  exact orMissing_eq_ok_iff.mp hgiven

/-- The service of organizations has a store of permissions. -/
theorem Organizations.stored_of_ofOffers {service : Organizations} (h : ofOffers offers = .ok service) :
    service.equipment.permissions.isSome = true := by
  obtain ⟨kit, -, h⟩ := Except.bind_eq_ok_iff.mp h
  obtain ⟨_, -, h⟩ := Except.bind_eq_ok_iff.mp h
  obtain ⟨store, hstore, h⟩ := Except.bind_eq_ok_iff.mp h
  obtain ⟨licensing, -, h⟩ := Except.bind_eq_ok_iff.mp h
  obtain rfl := Except.ok.inj h
  exact Option.isSome_iff_exists.mpr ⟨store, Kit.require_eq_ok_iff.mp hstore⟩

end

end Tenancy
