import Tenancy.Accounts
import Tenancy.Monitoring
import Tenancy.Operation.Kit
import Tenancy.Organizations

/-!
# Setting up services

How each service is set up from offers of collaborators. A faulty list of offers is reported before anything else, then
the first of the service's own requirements that is not met, in a fixed order.
-/

namespace Tenancy

open Telemetry

/-- What the collaborators of each kind are. -/
def Handle : Collaborator → Type
  | .logger => Logger
  | .tracer => Tracer
  | .permissions => Endpoint
  | .users => Endpoint
  | .organizations => Endpoint
  | .licensing => Licensing
  | .accessControl => AccessControl
  | .correspondence => Correspondence

/-- The kit that every setup begins with: a logger, and a tracer that is silent. -/
def Kit.standard : Kit Handle
  | .logger => some ({} : Logger)
  | .tracer => some Tracer.silent
  | _ => none

/-- The kit of a list of offers. -/
def Kit.ofOffers (offers : List (Offer Handle)) : Except ServiceError (Kit Handle) := Kit.standard.takeAll offers

/-- The equipment that a kit holds. -/
def Kit.equipment (kit : Kit Handle) : Equipment where
  logger := (kit .logger).getD ({} : Logger)
  tracer := (kit .tracer).getD Tracer.silent
  permissions := kit .permissions

/-- Sets up the service of permissions. -/
def AccessControl.ofOffers (offers : List (Offer Handle)) : Except ServiceError AccessControl := do
  let kit ← Kit.ofOffers offers
  let _ ← kit.require .permissions
  return ⟨kit.equipment⟩

/-- Sets up the service of the license. -/
def Licensing.ofOffers (license : Option License) (counters : Option Endpoint) (offers : List (Offer Handle)) :
    Except ServiceError Licensing := do
  let kit ← Kit.ofOffers offers
  let license ← orMissing .noLicense license
  let _ ← orMissing .noLicenseRepository counters
  let access ← kit.require .accessControl
  return ⟨kit.equipment, license, access⟩

/-- Sets up the service of users. -/
def Accounts.ofOffers (offers : List (Offer Handle)) : Except ServiceError Accounts := do
  let kit ← Kit.ofOffers offers
  let _ ← kit.require .users
  let _ ← kit.require .permissions
  let licensing ← kit.require .licensing
  return ⟨kit.equipment, licensing⟩

/-- Sets up the service of organizations. -/
def Organizations.ofOffers (offers : List (Offer Handle)) : Except ServiceError Organizations := do
  let kit ← Kit.ofOffers offers
  let _ ← kit.require .organizations
  let _ ← kit.require .permissions
  let licensing ← kit.require .licensing
  return ⟨kit.equipment, licensing, kit .users, kit .correspondence⟩

/-- Sets up the service of letters, with the built-in templates. -/
def Correspondence.ofOffers (client : Option Endpoint) (config : MailConfig) (offers : List (Offer Handle)) :
    Except ServiceError Correspondence := do
  let kit ← Kit.ofOffers offers
  let client ← orMissing .noMailClient client
  return { equipment := kit.equipment, client, hostname := config.hostname, supportAddress := config.supportAddress }

/-- The service of letters with another renderer, which must be there. -/
def Correspondence.withRenderer (s : Correspondence) (renderer : Option Renderer) :
    Except ServiceError Correspondence := do
  let renderer ← orMissing .noTemplateRenderer renderer
  return { s with renderer }

/-- Sets up the service of the system, which needs a component to watch. -/
def Monitoring.ofOffers (components : List Component) (version : Option VersionInfo) (offers : List (Offer Handle)) :
    Except ServiceError Monitoring := do
  let kit ← Kit.ofOffers offers
  if components.isEmpty then throw ⟨.noResources, none⟩
  let version ← orMissing .noVersionInfo version
  return ⟨kit.equipment, components, version⟩

end Tenancy
