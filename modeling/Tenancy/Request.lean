import Tenancy.Platform
import Tenancy.Program.Journal

/-!
# Requests

The operations of the platform as data: a request with its arguments is served by one of the services, and answered by a
value or a failure.
-/

namespace Tenancy

/-- An operation with its arguments. -/
inductive Request where
  | createUser (user : User)
  | getUser (id : Id)
  | getUserByEmail (email : String)
  | getUsers (offset limit : Int)
  | updateUser (id : Id) (patch : UserPatch)
  | deleteUser (id : Id) (force : Bool)
  | createOrganization (owner : Id) (organization : Organization)
  | getOrganization (id : Id)
  | getOrganizations (offset limit : Int)
  | updateOrganization (id : Id) (patch : OrganizationPatch)
  | deleteOrganization (id : Id) (force : Bool)
  | addMember (organization user : Id)
  | getMembers (organization : Id)
  | removeMember (organization user : Id)
  | invite (organization user : Id) (path : String)
  | grant (permission : Permission)
  | revoke (id : Id)
  | hasPermission (subject target : Id) (kinds : List PermissionKind)
  | isPermitted (target : Id) (kinds : List PermissionKind)
  | hasSystemRole (roles : List SystemRole)
  | isLicenseExpired
  | hasFeature (feature : String)
  | isWithinThreshold (quota : Quota)
  | getLicense
  | pingLicense
  | sendPasswordReset (user : User) (path : String)
  | sendInvitation (organization : Organization) (user : User) (path : String)
  | sendLicenseExpiry (id email organization : String) (expiresAt : Time.Instant)
  | sendWelcome (user : User)
deriving DecidableEq

/-- The value that a request is answered by. -/
inductive Response where
  | nothing
  | flag (yes : Bool)
  | user (user : User)
  | users (users : List User)
  | organization (organization : Organization)
  | organizations (organizations : List Organization)
  | members (members : List OrganizationMember)
  | permission (permission : Permission)
  | license (license : License)

/-- A member in JSON, with the answer whether they own the organization. -/
def OrganizationMember.toAnnotatedJson (m : OrganizationMember) : Json :=
  .object [("member", m.toJson), ("is_owner", .bool m.isOwner)]

/-- A response in JSON. -/
def Response.toJson : Response → Json
  | .nothing => .null
  | .flag yes => .bool yes
  | .user u => u.toFullJson
  | .users us => .array (us.map User.toFullJson)
  | .organization o => o.toJson
  | .organizations os => .array (os.map Organization.toJson)
  | .members ms => .array (ms.map OrganizationMember.toAnnotatedJson)
  | .permission p => p.toJson
  | .license l => l.toJson

namespace Platform

/-- The response that an operation ends with. -/
def respond {α : Type} (f : α → Response) (p : Program (Except ServiceError α)) :
    Program (Except ServiceError Response) :=
  (fun r => r.map f) <$> p

/-- The response to a question that is always answered. -/
def decided (p : Program Bool) : Program (Except ServiceError Response) := (fun yes => .ok (.flag yes)) <$> p

/-- Serves a request under a context. -/
def serve (p : Platform) (ctx : Context) : Request → Program (Except ServiceError Response)
  | .createUser user => respond .user (p.accounts.create ctx user)
  | .getUser id => respond .user (p.accounts.get ctx id)
  | .getUserByEmail email => respond .user (p.accounts.getByEmail ctx email)
  | .getUsers offset limit => respond .users (p.accounts.getAll ctx offset limit)
  | .updateUser id patch => respond .user (p.accounts.update ctx id patch)
  | .deleteUser id force => respond (fun _ => .nothing) (p.accounts.delete ctx id force)
  | .createOrganization owner organization => respond .organization (p.organizations.create ctx owner organization)
  | .getOrganization id => respond .organization (p.organizations.get ctx id)
  | .getOrganizations offset limit => respond .organizations (p.organizations.getAll ctx offset limit)
  | .updateOrganization id patch => respond .organization (p.organizations.update ctx id patch)
  | .deleteOrganization id force => respond (fun _ => .nothing) (p.organizations.delete ctx id force)
  | .addMember organization user => respond (fun _ => .nothing) (p.organizations.addMember ctx organization user)
  | .getMembers organization => respond .members (p.organizations.getMembers ctx organization)
  | .removeMember organization user => respond (fun _ => .nothing) (p.organizations.removeMember ctx organization user)
  | .invite organization user path => respond (fun _ => .nothing) (p.organizations.invite ctx organization user path)
  | .grant permission => respond .permission (p.access.grant ctx permission)
  | .revoke id => respond (fun _ => .nothing) (p.access.revoke ctx id)
  | .hasPermission subject target kinds => decided (p.access.hasPermission ctx subject target kinds)
  | .isPermitted target kinds => decided (p.access.isPermitted ctx target kinds)
  | .hasSystemRole roles => decided (p.access.hasSystemRole ctx roles)
  | .isLicenseExpired => respond .flag (p.licensing.expired ctx)
  | .hasFeature feature => respond .flag (p.licensing.hasFeature ctx feature)
  | .isWithinThreshold quota => respond .flag (p.licensing.withinThreshold ctx quota)
  | .getLicense => respond .license (p.licensing.get ctx)
  | .pingLicense => respond (fun _ => .nothing) (p.licensing.ping ctx)
  | .sendPasswordReset user path => respond (fun _ => .nothing) (p.correspondence.passwordReset ctx user path)
  | .sendInvitation organization user path =>
    respond (fun _ => .nothing) (p.correspondence.invitation ctx organization user path)
  | .sendLicenseExpiry id email organization expiresAt =>
    respond (fun _ => .nothing) (p.correspondence.licenseExpiry ctx id email organization expiresAt)
  | .sendWelcome user => respond (fun _ => .nothing) (p.correspondence.welcome ctx user)

end Platform

end Tenancy
