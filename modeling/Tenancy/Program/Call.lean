import Tenancy.Letter
import Tenancy.License
import Tenancy.Organization
import Tenancy.Permission

/-!
# Calls to collaborators

What the operations of the platform ask of what lies outside it: the stores of users, organizations and permissions, the
lookup of access, the counters of the license, the sender of mail and a renderer of letters. Each call has a type of answer
and a type of fault of its own.
-/

namespace Tenancy

/-- A call to the store of users. -/
inductive UserCall where
  | create (user : User)
  | get (id : Id)
  | getByEmail (email : String)
  | getAll (offset limit : Nat)
  | update (id : Id) (patch : UserPatch)
  | delete (id : Id)
deriving DecidableEq

/-- What a call to the store of users answers. -/
def UserCall.Value : UserCall → Type
  | create _ => User
  | get _ => User
  | getByEmail _ => User
  | getAll _ _ => List User
  | update _ _ => User
  | delete _ => Unit

/-- A call to the store of organizations and their members. -/
inductive OrganizationCall where
  | create (owner : Id) (organization : Organization)
  | get (id : Id)
  | getAll (offset limit : Nat)
  | update (id : Id) (patch : OrganizationPatch)
  | delete (id : Id)
  | addMember (organization user : Id)
  | removeMember (organization user : Id)
  | getMembers (organization : Id)
deriving DecidableEq

/-- What a call to the store of organizations answers. -/
def OrganizationCall.Value : OrganizationCall → Type
  | create _ _ => Organization
  | get _ => Organization
  | getAll _ _ => List Organization
  | update _ _ => Organization
  | delete _ => Unit
  | addMember _ _ => Unit
  | removeMember _ _ => Unit
  | getMembers _ => List OrganizationMember

/-- A call to the store of permissions. -/
inductive PermissionCall where
  | create (permission : Permission)
  | get (id : Id)
  | getByTarget (target : Id)
  | delete (id : Id)
deriving DecidableEq

/-- What a call to the store of permissions answers. -/
def PermissionCall.Value : PermissionCall → Type
  | create _ => Permission
  | get _ => Permission
  | getByTarget _ => List Permission
  | delete _ => Unit

/-- A question about access, which is answered by yes or no. -/
inductive AccessCall where
  | hasPermission (subject target : Id) (kinds : List PermissionKind)
  | hasSystemRole (subject : Id) (roles : List SystemRole)
deriving DecidableEq

/-- A call to a collaborator. -/
inductive Call where
  | users (c : UserCall)
  | organizations (c : OrganizationCall)
  | permissions (c : PermissionCall)
  | access (c : AccessCall)
  | count (quota : Quota)
  | send (recipient : String) (letter : RenderedLetter)
  | render (path : String) (data : TemplateData)
deriving DecidableEq

namespace Call

/-- What a call answers. -/
def Value : Call → Type
  | users c => c.Value
  | organizations c => c.Value
  | permissions c => c.Value
  | access _ => Bool
  | count _ => Nat
  | send _ _ => Unit
  | render _ _ => RenderedLetter

/-- How a call fails. -/
def Fault : Call → Type
  | users _ => RepositoryError
  | organizations _ => RepositoryError
  | permissions _ => RepositoryError
  | access _ => PermissionError
  | count _ => RepositoryError
  | send _ _ => DeliveryError
  | render _ _ => TemplateError

/-- The fault of a call as a link of a chain. -/
def failure : (c : Call) → c.Fault → Failure
  | users _, e => .repository e
  | organizations _, e => .repository e
  | permissions _, e => .repository e
  | access _, e => .permission e
  | count _, e => .repository e
  | send _ _, e => .delivery e
  | render _ _, e => .template e

/-- Whether a call changes what a store holds. -/
def isWrite : Call → Bool
  | users (.create _) => true
  | users (.update _ _) => true
  | users (.delete _) => true
  | organizations (.create _ _) => true
  | organizations (.update _ _) => true
  | organizations (.delete _) => true
  | organizations (.addMember _ _) => true
  | organizations (.removeMember _ _) => true
  | permissions (.create _) => true
  | permissions (.delete _) => true
  | _ => false

end Call

/-- Why a call under a context has no answer: the context ended it, or the collaborator failed. -/
inductive Refusal (φ : Type) where
  | interrupted (cause : Interruption)
  | failed (fault : φ)

/-- The refusal of a call as a link of a chain. -/
def Call.refused (c : Call) : Refusal c.Fault → Failure
  | .interrupted cause => .interruption cause
  | .failed fault => c.failure fault

end Tenancy
