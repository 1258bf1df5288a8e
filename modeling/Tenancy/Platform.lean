import Tenancy.Operation.Setup

/-!
# The platform

The services of the platform, set up over the same collaborators: the service of permissions first, then the license, which
asks it, then letters, and at last users and organizations, which ask the license.
-/

namespace Tenancy

/-- The services of the platform. -/
structure Platform where
  access : AccessControl
  licensing : Licensing
  correspondence : Correspondence
  accounts : Accounts
  organizations : Organizations

/-- What a platform is set up with. -/
structure Platform.Plan where
  /-- Offers that every service takes: a logger, a tracer. -/
  shared : List (Offer Handle) := []
  license : License
  mail : MailConfig
  /-- The renderer that replaces the built-in one. -/
  renderer : Option Renderer := none
  /-- Whether the service of organizations is given a store of users. -/
  invitesUsers : Bool := true
  /-- Whether the service of organizations is given a service of letters. -/
  writesLetters : Bool := true

namespace Platform

/-- The offer of a collaborator. -/
def offer (c : Collaborator) (handle : Handle c) : Offer Handle := ⟨c, some handle⟩

/-- The offer of the store of permissions. -/
def permissions : Offer Handle := offer .permissions (⟨"permissions"⟩ : Endpoint)

/-- The offer of the store of users. -/
def users : Offer Handle := offer .users (⟨"users"⟩ : Endpoint)

/-- The offer of the store of organizations. -/
def organizationStore : Offer Handle := offer .organizations (⟨"organizations"⟩ : Endpoint)

/-- Sets up all services. -/
def assemble (plan : Plan) : Except ServiceError Platform := do
  let access ← AccessControl.ofOffers (plan.shared ++ [permissions])
  let licensing ← Licensing.ofOffers (some plan.license) (some ⟨"counters"⟩)
    (plan.shared ++ [offer .accessControl access])
  let letters ← Correspondence.ofOffers (some ⟨"mail"⟩) plan.mail plan.shared
  let correspondence ←
    match plan.renderer with
    | some renderer => letters.withRenderer (some renderer)
    | none => .ok letters
  let accounts ← Accounts.ofOffers (plan.shared ++ [users, permissions, offer .licensing licensing])
  let organizations ← Organizations.ofOffers (plan.shared ++
    [organizationStore, permissions, offer .licensing licensing] ++
    (if plan.invitesUsers then [users] else []) ++
    (if plan.writesLetters then [offer .correspondence correspondence] else []))
  return { access, licensing, correspondence, accounts, organizations }

end Platform

end Tenancy
