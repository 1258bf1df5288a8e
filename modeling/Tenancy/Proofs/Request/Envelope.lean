import Tenancy.Proofs.Request.Exits

/-!
# One envelope for all failures

Whatever a request fails of, its failure is of the kind of its operation and has a cause. The cause tells all, apart from what
lookups of access failed with: a call that fails is a link of the chain, also when the operation of another service has made it,
and so is the failure of the service of the license when it knows no cap.
-/

namespace Tenancy

open Step Equipment Request Failure

/-! ## Licenses without a cap -/

namespace Request

end Request

namespace Guard

variable {e : Equipment} {ctx : Context} {span : String} {s : Licensing} {quota : Quota} {complaint : Complaint}
  {gs : List Guard} {es : List Event} {y : Except Failure Unit}

end Guard

/-! ## All requests -/

namespace Request

section

variable {r : Request} {kind : ErrorKind} {license : License} {ctx : Context} {es : List Event}
  {x : Except ServiceError Response}

/-- Where a failure comes from. -/
theorem Exits.reason (h : r.Exits kind es x) (e : ServiceError) (he : x = .error e) : ∃ cause, e = .join kind cause ∧
    (cause.IsComplaint ∨ ∃ c f, (c, f) ∈ failings es ∧ ¬c.IsAccess ∧ cause = r.blame c f) := by
  obtain ⟨y, rfl, exit⟩ := h
  cases y with
  | ok v => cases he
  | error cause =>
    obtain rfl := Except.error.inj he
    refine ⟨cause, rfl, ?_⟩
    cases exit with
    | complained _ complaint => exact .inl complaint
    | turnedAway _ _ => exact .inl isComplaint_kind
    | stopped other one => exact .inr ⟨_, _, by simp [one], other, rfl⟩

end

end Request

namespace Platform

variable {p : Platform} {ctx : Context} {r : Request} {kind : ErrorKind}

/-- An organization that the first user may write to, and counters that cannot be reached. -/
def uncounted : Scene where
  store :=
    ({ organizations := [{ Organization.fresh "acme" "" with id := Id.nth .organization 1 }] } : Store).withPermission
      (Permission.fresh (Id.nth .user 1) (Id.nth .organization 1) .write)
  faults := fun c =>
    match c with
    | .count _ => some (RepositoryError.storage "offline")
    | _ => none
  today := Store.creation

end Platform

end Tenancy
