import Tenancy.Failure

/-!
# Kits of collaborators

A service is set up from a list of offers, each of which gives it a collaborator or says that there is none. Offers are
taken in order: a later one replaces an earlier one of the same kind, and the first that withholds its collaborator ends
the setup.
-/

namespace Tenancy

/-- The kinds of collaborator that services are given. -/
inductive Collaborator where
  | logger
  | tracer
  | permissions
  | users
  | organizations
  | licensing
  | accessControl
  | correspondence
deriving DecidableEq, Repr

/-- The complaint about a collaborator that is missing. -/
def Collaborator.missing : Collaborator → ErrorKind
  | logger => .noLogger
  | tracer => .noTracer
  | permissions => .noPermissionRepository
  | users => .noUserRepository
  | organizations => .noOrganizationRepository
  | licensing => .noLicenseService
  | accessControl => .noPermissionService
  | correspondence => .noEmailService

/-- A collaborator of a kind, or the statement that there is none. -/
structure Offer (κ : Collaborator → Type) where
  collaborator : Collaborator
  handle? : Option (κ collaborator)

/-- The collaborators that a service has. -/
abbrev Kit (κ : Collaborator → Type) := (c : Collaborator) → Option (κ c)

namespace Kit

variable {κ : Collaborator → Type}

/-- The kit with one more collaborator. -/
def put (kit : Kit κ) (c : Collaborator) (handle : κ c) : Kit κ :=
  fun d => if e : d = c then some (e ▸ handle) else kit d

/-- Takes an offer. -/
def take (kit : Kit κ) (offer : Offer κ) : Except ServiceError (Kit κ) :=
  match offer.handle? with
  | some handle => .ok (kit.put offer.collaborator handle)
  | none => .error ⟨offer.collaborator.missing, none⟩

/-- Takes offers in order. -/
def takeAll (kit : Kit κ) (offers : List (Offer κ)) : Except ServiceError (Kit κ) := offers.foldlM take kit

/-- A collaborator that must be there. -/
def require (kit : Kit κ) (c : Collaborator) : Except ServiceError (κ c) :=
  match kit c with
  | some handle => .ok handle
  | none => .error ⟨c.missing, none⟩

/-- Whether a collaborator is there. -/
def has (kit : Kit κ) (c : Collaborator) : Bool := (kit c).isSome

end Kit

/-- What must be there, or the complaint that it is missing. -/
def orMissing {α : Type} (kind : ErrorKind) : Option α → Except ServiceError α
  | some a => .ok a
  | none => .error ⟨kind, none⟩

end Tenancy
