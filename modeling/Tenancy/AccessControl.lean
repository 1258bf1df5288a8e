import Tenancy.Operation.Equipment

/-!
# Access control

Grants and revokes permissions on behalf of principals who hold all rights on the target, and answers questions about
access. A question that cannot be answered is answered by no.
-/

namespace Tenancy

/-- The service of permissions. -/
structure AccessControl where
  equipment : Equipment
deriving DecidableEq, Repr

namespace AccessControl

/-- Grants a permission, on behalf of a principal who holds all rights on its target. -/
def grant (s : AccessControl) (ctx : Context) (permission : Permission) : Program (Except ServiceError Permission) :=
  let name := "service.permission/create"
  s.equipment.operation ctx name .permissionCreate do
    Step.demand permission.isValid (.service .invalidPermission)
    s.equipment.authorize ctx name permission.target [.all]
    Step.ask ctx (.permissions (.create permission))

/-- Revokes a permission, on behalf of a principal who holds all rights on its target. -/
def revoke (s : AccessControl) (ctx : Context) (id : Id) : Program (Except ServiceError Unit) :=
  let name := "service.permission/delete"
  s.equipment.operation ctx name .permissionDelete do
    Step.demandId id .permission
    Step.demand ctx.principal.isSome (.kind .noUser)
    let permission : Permission ← Step.ask ctx (.permissions (.get id))
    Step.demand (← s.equipment.permitted ctx name permission.target [.all]) (.kind .noPermission)
    Step.ask ctx (.permissions (.delete id))

/-- Whether a subject holds one of the kinds on a target. -/
def hasPermission (s : AccessControl) (ctx : Context) (subject target : Id) (kinds : List PermissionKind) : Program Bool :=
  let name := "service.permission/has_permission"
  s.equipment.span ctx name (s.equipment.holds ctx name subject target kinds)

/-- Whether the principal holds one of the kinds on a target. -/
def isPermitted (s : AccessControl) (ctx : Context) (target : Id) (kinds : List PermissionKind) : Program Bool :=
  let name := "service.permission/ctx_user_permitted"
  s.equipment.span ctx name (s.equipment.permitted ctx name target kinds)

/-- Whether the principal has one of the roles. -/
def hasSystemRole (s : AccessControl) (ctx : Context) (roles : List SystemRole) : Program Bool :=
  let name := "service.permission/ctx_user_has_system_role"
  s.equipment.span ctx name
    (match ctx.principal with
    | some principal => s.equipment.check ctx name (.hasSystemRole principal roles)
    | none => return false)

end AccessControl

end Tenancy
