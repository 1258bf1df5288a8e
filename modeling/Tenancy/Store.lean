import Tenancy.Program.Call

/-!
# Stores in memory

Users, organizations with their members, permissions and system roles, as lists in the order in which they came. A call
either changes a store as it says, or fails and leaves it as it is.
-/

namespace Tenancy

open Time

/-- A user in an organization, with the roles held there. -/
structure Membership where
  organization : Id
  user : Id
  roles : LabelSet := LabelSet.empty
deriving DecidableEq

/-- What is stored, and how many ids of each type have been given out. -/
structure Store where
  users : List User := []
  organizations : List Organization := []
  memberships : List Membership := []
  permissions : List Permission := []
  systemRoles : List (Id × SystemRole) := []
  issued : ResourceType → Nat := fun _ => 0

namespace Store

/-- When stored records are created. -/
def creation : Instant := Instant.ofCivil ⟨2024, 1, 1⟩ 0 0 0 0

/-- When stored records are changed. -/
def change : Instant := Instant.ofCivil ⟨2024, 1, 2⟩ 0 0 0 0

/-- The next id of a type. -/
def next (s : Store) (kind : ResourceType) : Id × Store :=
  let n := s.issued kind + 1
  (Id.nth kind n, { s with issued := fun k => if k = kind then n else s.issued k })

/-- The store with a user, who is given the next id unless there is one already. -/
def withUser (s : Store) (user : User) : Store :=
  if user.id.isNil then
    let (id, s) := s.next .user
    { s with users := s.users ++ [{ user with id }] }
  else { s with users := s.users ++ [user] }

/-- The store with a permission under the next id. -/
def withPermission (s : Store) (permission : Permission) : Store :=
  let (id, s) := s.next .permission
  { s with permissions := s.permissions ++ [{ permission with id }] }

/-- The user of an id. -/
def user? (s : Store) (id : Id) : Option User := s.users.find? fun u => u.id == id

/-- The organization of an id, as it is stored. -/
def organization? (s : Store) (id : Id) : Option Organization := s.organizations.find? fun o => o.id == id

/-- The memberships of an organization, in order. -/
def membershipsOf (s : Store) (organization : Id) : List Membership :=
  s.memberships.filter fun m => m.organization == organization

/-- Whether a user is a member of an organization. -/
def isMember (s : Store) (organization user : Id) : Bool :=
  s.memberships.any fun m => m.organization == organization && m.user == user

/-- A page of a list. -/
def page {α : Type} (items : List α) (offset limit : Nat) : List α := (items.drop offset).take limit

/-- What a call answers, and the store afterwards. -/
abbrev Reply (φ α : Type) := Except φ α × Store

/-- Answers a call to the store of users. -/
def answerUsers (s : Store) : (c : UserCall) → Reply RepositoryError c.Value
  | .create user =>
    if s.users.any fun u => u.email == user.email then (.error .alreadyExists, s)
    else
      let (id, s) := s.next .user
      let user : User := { user with id, createdAt := some creation }
      (.ok user, { s with users := s.users ++ [user] })
  | .get id =>
    match s.user? id with
    | some user => (.ok user, s)
    | none => (.error .notFound, s)
  | .getByEmail email =>
    match s.users.find? fun u => u.email == email with
    | some user => (.ok user, s)
    | none => (.error .notFound, s)
  | .getAll offset limit => (.ok (page s.users offset limit), s)
  | .update id patch =>
    match s.user? id with
    | some user =>
      let user : User := { patch.apply user with updatedAt := some change }
      (.ok user, { s with users := s.users.map fun u => if u.id = id then user else u })
    | none => (.error .notFound, s)
  | .delete id =>
    match s.user? id with
    | some _ => (.ok (), { s with users := s.users.filter fun u => u.id != id })
    | none => (.error .notFound, s)

/-- The members of an organization; nothing when one of them is no user. -/
def members? (s : Store) (organization : Id) : Option (List OrganizationMember) :=
  (s.membershipsOf organization).mapM fun m => (s.user? m.user).map fun user => ⟨user, m.roles⟩

/-- Answers a call to the store of organizations. -/
def answerOrganizations (s : Store) : (c : OrganizationCall) → Reply RepositoryError c.Value
  | .create owner organization =>
    let (id, s) := s.next .organization
    let organization : Organization := { organization with id, createdAt := some creation, members := [owner] }
    (.ok organization,
      { s with
        organizations := s.organizations ++ [organization]
        memberships := s.memberships ++ [{ organization := id, user := owner }] })
  | .get id =>
    match s.organization? id with
    | some organization => (.ok { organization with members := (s.membershipsOf id).map (·.user) }, s)
    | none => (.error .notFound, s)
  | .getAll offset limit => (.ok (page s.organizations offset limit), s)
  | .update id patch =>
    match s.organization? id with
    | some organization =>
      let organization : Organization := { patch.apply organization with updatedAt := some change }
      (.ok organization, { s with organizations := s.organizations.map fun o => if o.id = id then organization else o })
    | none => (.error .notFound, s)
  | .delete id =>
    match s.organization? id with
    | some _ =>
      (.ok (),
        { s with
          organizations := s.organizations.filter fun o => o.id != id
          memberships := s.memberships.filter fun m => m.organization != id })
    | none => (.error .notFound, s)
  | .addMember organization user =>
    match s.organization? organization with
    | none => (.error .notFound, s)
    | some _ =>
      if s.isMember organization user then (.error .alreadyExists, s)
      else (.ok (), { s with memberships := s.memberships ++ [{ organization, user }] })
  | .removeMember organization user =>
    if s.isMember organization user then
      (.ok (), { s with memberships := s.memberships.filter fun m => ¬ (m.organization = organization ∧ m.user = user) })
    else (.error .notFound, s)
  | .getMembers organization =>
    match s.members? organization with
    | some members => (.ok members, s)
    | none => (.error .notFound, s)

/-- Answers a call to the store of permissions. -/
def answerPermissions (s : Store) : (c : PermissionCall) → Reply RepositoryError c.Value
  | .create permission =>
    let (id, s) := s.next .permission
    let permission : Permission := { permission with id, createdAt := some creation }
    (.ok permission, { s with permissions := s.permissions ++ [permission] })
  | .get id =>
    match s.permissions.find? fun p => p.id == id with
    | some permission => (.ok permission, s)
    | none => (.error .notFound, s)
  | .getByTarget target => (.ok (s.permissions.filter fun p => p.target == target), s)
  | .delete id =>
    if s.permissions.any fun p => p.id == id then
      (.ok (), { s with permissions := s.permissions.filter fun p => p.id != id })
    else (.error .notFound, s)

/-- Whether a question about access is answered by yes. -/
def grants (s : Store) : AccessCall → Bool
  | .hasPermission subject target kinds =>
    s.permissions.any fun p => p.subject == subject && p.target == target && kinds.contains p.kind
  | .hasSystemRole subject roles => s.systemRoles.any fun r => r.1 == subject && roles.contains r.2

/-- How many resources count under a cap. -/
def count (s : Store) : Quota → Nat
  | .users => (s.users.filter fun u => u.status == .active).length
  | .organizations => (s.organizations.filter fun o => !o.isDeleted).length
  | _ => 0

/-- Answers a call. Letters are taken and nothing is kept of them; there is no renderer here. -/
def answer (s : Store) : (c : Call) → Reply c.Fault c.Value
  | .users c => s.answerUsers c
  | .organizations c => s.answerOrganizations c
  | .permissions c => s.answerPermissions c
  | .access c => (.ok (s.grants c), s)
  | .count quota => (.ok (s.count quota), s)
  | .send _ _ => (.ok (), s)
  | .render path _ => (.error (.notFound path), s)

end Store

end Tenancy
