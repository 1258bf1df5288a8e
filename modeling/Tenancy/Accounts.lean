import Tenancy.Licensing

/-!
# Accounts

The accounts of users. Creating one needs room under the license and the right to create users; changing one needs the
right to write it, unless it is one's own; deleting one needs the right to delete it, and nobody deletes themselves. A
deleted account has no usable password.
-/

namespace Tenancy

/-- The service of users. -/
structure Accounts where
  equipment : Equipment
  licensing : Licensing

namespace Accounts

/-- The user as it is stored: a deleted one has no usable password. -/
def sealed (user : User) : User :=
  if user.status = .deleted then { user with password := User.unusablePassword } else user

/-- The patch as it is applied: one that deletes makes the password unusable. -/
def sealedPatch (patch : UserPatch) : UserPatch :=
  if patch.status = some .deleted then { patch with password := some User.unusablePassword } else patch

/-- Creates a user. -/
def create (s : Accounts) (ctx : Context) (user : User) : Program (Except ServiceError User) :=
  let name := "service.user/create"
  s.equipment.operation ctx name .userCreate do
    Step.demand (!user.email.isEmpty) (.kind .invalidEmail)
    Step.demandValid .invalidUser user.violations
    Step.demand (← s.equipment.permitted ctx name (Id.nil .user) [.create]) (.kind .noPermission)
    s.licensing.demandRoom ctx .users (.kind .quotaExceeded)
    let created : User ← Step.ask ctx (.users (.create (sealed user)))
    s.equipment.log .debug ("user " ++ created.id.text ++ " created")
    return created

/-- The user of an id. -/
def get (s : Accounts) (ctx : Context) (id : Id) : Program (Except ServiceError User) :=
  s.equipment.operation ctx "service.user/get" .userGet do
    Step.demandId id .user
    Step.ask ctx (.users (.get id))

/-- The user of an email address. -/
def getByEmail (s : Accounts) (ctx : Context) (email : String) : Program (Except ServiceError User) :=
  s.equipment.operation ctx "service.user/get_by_email" .userGet do
    Step.demand (!email.isEmpty) (.kind .invalidEmail)
    Step.ask ctx (.users (.getByEmail email))

/-- A page of users. -/
def getAll (s : Accounts) (ctx : Context) (offset limit : Int) : Program (Except ServiceError (List User)) :=
  s.equipment.operation ctx "service.user/get_all" .userGetAll do
    let (offset, limit) ← Step.page offset limit
    Step.ask ctx (.users (.getAll offset limit))

/-- Changes a user. -/
def update (s : Accounts) (ctx : Context) (id : Id) (patch : UserPatch) : Program (Except ServiceError User) :=
  let name := "service.user/update"
  s.equipment.operation ctx name .userUpdate do
    Step.demandId id .user
    let principal ← Step.principal ctx
    if principal ≠ id then
      Step.demand (← s.equipment.permitted ctx name id [.write]) (.kind .noPermission)
    Step.demand (!patch.isEmpty) (.kind .noPatchData)
    Step.demandValid .invalidUser patch.violations
    Step.ask ctx (.users (.update id (sealedPatch patch)))

/-- Deletes a user: for good when forced to, and otherwise by a patch. -/
def delete (s : Accounts) (ctx : Context) (id : Id) (force : Bool) : Program (Except ServiceError Unit) :=
  let name := "service.user/delete"
  s.equipment.operation ctx name .userDelete do
    Step.demandId id .user
    let principal ← Step.principal ctx
    Step.demand (principal != id) (.kind .noPermission)
    Step.demand (← s.equipment.permitted ctx name id [.delete]) (.kind .noPermission)
    if force then
      Step.ask ctx (.users (.delete id))
    else
      let _ ← Step.ask ctx (.users (.update id UserPatch.softDelete))
      return

end Accounts

end Tenancy
