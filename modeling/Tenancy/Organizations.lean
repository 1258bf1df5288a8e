import Tenancy.Correspondence
import Tenancy.Licensing

/-!
# Organizations

Organizations and their members. Whoever creates one makes its owner hold all rights on it; an organization whose owner
cannot be given them is removed again. The owner cannot be removed from the members, and other members lose their rights
before they are removed.
-/

namespace Tenancy

/-- The service of organizations. Invitations need a store of users and a service of letters besides. -/
structure Organizations where
  equipment : Equipment
  licensing : Licensing
  users : Option Endpoint := none
  correspondence : Option Correspondence := none

namespace Organizations

/-- Removes an organization that has no owner, outside the context, which may be what kept the owner from being given
rights. -/
def withdraw (s : Organizations) (id : Id) : Program Unit := do
  match ← Program.insist (.organizations (.delete id)) with
  | .ok _ => return
  | .error (fault : RepositoryError) =>
    s.equipment.log .warn ("failed to remove organization " ++ id.text ++ " without owner: " ++ fault.text)

/-- Gives the owner all rights on an organization, which is removed again when that fails. -/
def entrust (s : Organizations) (ctx : Context) (owner : Id) (organization : Organization) : Step Unit := do
  try
    let _ ← Step.ask ctx (.permissions (.create (Permission.fresh owner organization.id .all)))
  catch cause =>
    s.withdraw organization.id
    throw cause

/-- Creates an organization for an owner. The principal is the owner, or may create organizations. -/
def create (s : Organizations) (ctx : Context) (owner : Id) (organization : Organization) :
    Program (Except ServiceError Organization) :=
  let name := "service.organization/create"
  s.equipment.operation ctx name .organizationCreate do
    Step.demandId owner .user
    let principal ← Step.principal ctx
    if principal ≠ owner then
      Step.demand (← s.equipment.permitted ctx name (Id.nil .organization) [.create]) (.kind .noPermission)
    Step.demandValid .invalidOrganization organization.violations
    s.licensing.demandRoom ctx .organizations (.service .quotaExceeded)
    let created : Organization ← Step.ask ctx (.organizations (.create owner organization))
    s.entrust ctx owner created
    return created

/-- The organization of an id. -/
def get (s : Organizations) (ctx : Context) (id : Id) : Program (Except ServiceError Organization) :=
  s.equipment.operation ctx "service.organization/get" .organizationGet do
    Step.demandId id .organization
    Step.ask ctx (.organizations (.get id))

/-- A page of organizations. -/
def getAll (s : Organizations) (ctx : Context) (offset limit : Int) :
    Program (Except ServiceError (List Organization)) :=
  s.equipment.operation ctx "service.organization/get_all" .organizationGetAll do
    let (offset, limit) ← Step.page offset limit
    Step.ask ctx (.organizations (.getAll offset limit))

/-- Changes an organization. -/
def update (s : Organizations) (ctx : Context) (id : Id) (patch : OrganizationPatch) :
    Program (Except ServiceError Organization) :=
  let name := "service.organization/update"
  s.equipment.operation ctx name .organizationUpdate do
    Step.demandId id .organization
    s.equipment.authorize ctx name id [.write]
    Step.demand (!patch.isEmpty) (.kind .noPatchData)
    Step.demandValid .invalidOrganization patch.violations
    Step.ask ctx (.organizations (.update id patch))

/-- Deletes an organization: for good when forced to, and otherwise by a patch. -/
def delete (s : Organizations) (ctx : Context) (id : Id) (force : Bool) : Program (Except ServiceError Unit) :=
  let name := "service.organization/delete"
  s.equipment.operation ctx name .organizationDelete do
    Step.demandId id .organization
    s.equipment.authorize ctx name id [.delete]
    if force then
      Step.ask ctx (.organizations (.delete id))
    else
      let _ ← Step.ask ctx (.organizations (.update id OrganizationPatch.softDelete))
      return

/-- Makes a user a member. -/
def addMember (s : Organizations) (ctx : Context) (organization user : Id) : Program (Except ServiceError Unit) :=
  let name := "service.organization/add_member"
  s.equipment.operation ctx name .organizationAddMember do
    Step.demandId organization .organization
    Step.demandId user .user
    s.equipment.authorize ctx name organization [.write]
    s.licensing.demandRoom ctx .users (.service .quotaExceeded)
    Step.ask ctx (.organizations (.addMember organization user))

/-- A member with the role of an owner, when all rights are held. -/
def annotate (s : Organizations) (ctx : Context) (span : String) (organization : Id) (member : OrganizationMember) :
    Program OrganizationMember := do
  if ← s.equipment.holds ctx span member.user.id organization [.all] then
    return { member with roles := member.roles.insert OrganizationMember.ownerRole }
  else return member

/-- The members of an organization, where those who hold all rights on it have the role of an owner. -/
def getMembers (s : Organizations) (ctx : Context) (organization : Id) :
    Program (Except ServiceError (List OrganizationMember)) :=
  let name := "service.organization/get_members"
  s.equipment.operation ctx name .organizationGetMembers do
    Step.demandId organization .organization
    let members : List OrganizationMember ← Step.ask ctx (.organizations (.getMembers organization))
    members.mapM fun member => (s.annotate ctx name organization member : Step OrganizationMember)

/-- Revokes permissions one after the other. -/
def revokeAll (ctx : Context) : List Permission → Step Unit
  | [] => return
  | permission :: rest => do
    Step.ask ctx (.permissions (.delete permission.id))
    revokeAll ctx rest

/-- Removes a member after all permissions of theirs on the organization; not one who holds all rights on it. -/
def removeMember (s : Organizations) (ctx : Context) (organization user : Id) : Program (Except ServiceError Unit) :=
  let name := "service.organization/remove_member"
  s.equipment.operation ctx name .organizationRemoveMember do
    Step.demandId organization .organization
    Step.demandId user .user
    s.equipment.authorize ctx name organization [.write]
    let permissions : List Permission ← Step.ask ctx (.permissions (.getByTarget organization))
    let held := permissions.filter fun p => p.subject == user
    Step.demand (held.all fun p => p.kind != .all) (.kind .noPermission)
    revokeAll ctx held
    Step.ask ctx (.organizations (.removeMember organization user))

/-- Sends a user an invitation. -/
def invite (s : Organizations) (ctx : Context) (organization user : Id) (path : String) :
    Program (Except ServiceError Unit) :=
  let name := "service.organization/invite"
  s.equipment.operation ctx name .organizationInvite
    (match s.users, s.correspondence with
    | none, _ => throw (.kind .noUserRepository)
    | some _, none => throw (.kind .noEmailService)
    | some _, some letters => do
      Step.demandId organization .organization
      Step.demandId user .user
      s.equipment.authorize ctx name organization [.write]
      let inviting : Organization ← Step.ask ctx (.organizations (.get organization))
      let invited : User ← Step.ask ctx (.users (.get user))
      Step.ofOperation (letters.invitation ctx inviting invited path))

end Organizations

end Tenancy
