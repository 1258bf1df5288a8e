import Tenancy.Proofs.Operation.Kit
import Tenancy.Proofs.Operation.Setup

/-!
# What services require

Every setup takes its offers first and fails as they do. With the kit that comes of them it goes through the service's own
requirements in a fixed order and fails at the first that is not met, with a bare complaint about it; when all are met the
service is made of what was given.
-/

namespace Tenancy

/-- Something that a setup needs: the complaint when it is missing, and whether it is there. -/
structure Requirement where
  kind : ErrorKind
  met : Bool

namespace Requirement

/-- A collaborator that must be in a kit. -/
def collaborator (kit : Kit Handle) (c : Collaborator) : Requirement := ⟨c.missing, (kit c).isSome⟩

/-- Whether what is needed is missing. -/
def unmet (r : Requirement) : Bool := !r.met

end Requirement

/-- The setups of services, each with what it is given besides its offers. -/
inductive Setup where
  | access
  | licensing (license : Option License) (counters : Option Endpoint)
  | accounts
  | organizations
  | correspondence (client : Option Endpoint) (config : MailConfig)
  | monitoring (components : List Component) (version : Option VersionInfo)

namespace Setup

/-- The service that is set up. -/
def Service : Setup → Type
  | access => AccessControl
  | licensing _ _ => Licensing
  | accounts => Accounts
  | organizations => Organizations
  | correspondence _ _ => Correspondence
  | monitoring _ _ => Monitoring

/-- Sets a service up from offers of collaborators. -/
def run : (setup : Setup) → List (Offer Handle) → Except ServiceError setup.Service
  | access => AccessControl.ofOffers
  | licensing license counters => Licensing.ofOffers license counters
  | accounts => Accounts.ofOffers
  | organizations => Organizations.ofOffers
  | correspondence client config => Correspondence.ofOffers client config
  | monitoring components version => Monitoring.ofOffers components version

end Setup

/-! ## Going through requirements -/

/-- A computation goes through requirements in order: it fails bare at the first that is not met, and otherwise makes what
`made` tells. -/
structure Demands {α : Type} (x : Except ServiceError α) (needs : List Requirement) (made : α → Prop) : Prop where
  error_iff : ∀ e, x = .error e ↔ ∃ r, needs.find? Requirement.unmet = some r ∧ e = ⟨r.kind, none⟩
  ok_iff : ∀ a, x = .ok a ↔ (∀ r ∈ needs, r.met) ∧ made a

namespace Demands

variable {α β : Type} {x : Except ServiceError α} {needs : List Requirement} {made : α → Prop} {kind : ErrorKind}

/-- Nothing is needed for what is made already. -/
theorem pure {a : α} (here : made a) (unique : ∀ b, made b → b = a) : Demands (.ok a) [] made where
  error_iff e := ⟨nofun, fun ⟨_, found, _⟩ => nomatch found⟩
  ok_iff b := by
    constructor
    · rintro ⟨⟩
      exact ⟨nofun, here⟩
    · rintro ⟨-, made⟩
      rw [unique b made]

/-- What is missing is complained about, whatever else is needed. -/
theorem missing : Demands (.error ⟨kind, none⟩) (⟨kind, false⟩ :: needs) made where
  error_iff e := by
    have first : (⟨kind, false⟩ :: needs).find? Requirement.unmet = some ⟨kind, false⟩ := rfl
    rw [first]
    constructor
    · rintro ⟨⟩
      exact ⟨_, rfl, rfl⟩
    · rintro ⟨_, ⟨⟩, rfl⟩
      rfl
  ok_iff b := ⟨nofun, fun ⟨met, _⟩ => absurd (met _ List.mem_cons_self) Bool.false_ne_true⟩

/-- What is there is passed over. -/
theorem passing (h : Demands x needs made) : Demands x (⟨kind, true⟩ :: needs) made where
  error_iff e := h.error_iff e
  ok_iff b := by simpa using h.ok_iff b

/-- Something that must have been given is the first of the requirements. -/
theorem given {given : Option β} {rest : β → Except ServiceError α}
    (h : ∀ b, given = some b → Demands (rest b) needs made) :
    Demands (orMissing kind given >>= rest) (⟨kind, given.isSome⟩ :: needs) made := by
  cases given with
  | some b => exact (h b rfl).passing
  | none => exact missing

/-- A collaborator that must be in the kit is the first of the requirements. -/
theorem collaborator {kit : Kit Handle} {c : Collaborator} {rest : Handle c → Except ServiceError α}
    (h : ∀ handle, kit c = some handle → Demands (rest handle) needs made) :
    Demands (kit.require c >>= rest) (.collaborator kit c :: needs) made := by
  have same : kit.require c = orMissing c.missing (kit c) := by
    unfold Kit.require orMissing
    cases kit c <;> rfl
  rw [same]
  exact given h

end Demands

/-! ## The six setups -/

namespace Setup

variable {kit : Kit Handle} {offers : List (Offer Handle)}

end Setup

end Tenancy
