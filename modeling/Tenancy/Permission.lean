import Tenancy.User

/-!
# Permissions

A permission grants a subject a kind of access to a target. The kind `all` implies every other, so each check also asks
for it. System roles are held on the platform as a whole.
-/

namespace Tenancy

open Json Time

/-- A kind of access. -/
inductive PermissionKind where
  | create
  | read
  | write
  | delete
  | all
deriving DecidableEq, Repr, Inhabited

instance : Labelled PermissionKind where
  all := [.create, .read, .write, .delete, .all]
  label
    | .create => "create"
    | .read => "read"
    | .write => "write"
    | .delete => "delete"
    | .all => "all"

namespace PermissionKind

/-- Reads a kind in any case; a star means all of them. -/
def parse (s : String) : Except String PermissionKind :=
  match Labelled.ofLabel? (Text.lower s) with
  | some kind => .ok kind
  | none => if s = "*" then .ok .all else .error ("Unknown permission kind: " ++ s)

/-- The kinds asked for, and `all` after them unless it is among them. -/
def withAll (kinds : List PermissionKind) : List PermissionKind :=
  if kinds.contains .all then kinds else kinds ++ [.all]

end PermissionKind

/-- A role on the platform as a whole. -/
inductive SystemRole where
  | owner
  | admin
  | support
deriving DecidableEq, Repr, Inhabited

instance : Labelled SystemRole where
  all := [.owner, .admin, .support]
  label
    | .owner => "owner"
    | .admin => "admin"
    | .support => "support"

/-- The roles that may read the license. -/
def SystemRole.licenseReaders : List SystemRole := [.owner, .admin, .support]

/-- The title of a role. -/
def SystemRole.title : SystemRole → String
  | owner => "Owner"
  | admin => "Admin"
  | support => "Support"

/-- Access of a kind to a target, granted to a subject. -/
structure Permission where
  id : Id
  subject : Id
  target : Id
  kind : PermissionKind
  createdAt : Option Instant
  updatedAt : Option Instant
deriving DecidableEq, Repr, Inhabited

namespace Permission

/-- A permission that is not stored yet. -/
def fresh (subject target : Id) (kind : PermissionKind) : Permission :=
  ⟨Id.nil .permission, subject, target, kind, none, none⟩

/-- Whether subject and target are single resources and not the same one. -/
def isValid (p : Permission) : Bool := !p.subject.isNil && !p.target.isNil && p.subject != p.target

/-- A permission in JSON. -/
def toJson (p : Permission) : Json :=
  .object [("id", p.id.toJson), ("subject", p.subject.toJson), ("target", p.target.toJson),
    ("kind", .string (Labelled.label p.kind)), ("created_at", User.instantJson p.createdAt),
    ("updated_at", User.instantJson p.updatedAt)]

/-- Reads a permission. -/
def decoder : Decoder Permission :=
  (Permission.mk <$> .required "id" Id.decoder <*> .required "subject" Id.decoder <*> .required "target" Id.decoder <*>
    .required "kind" .choice <*> .optional "created_at" Instant.decoder <*> .optional "updated_at" Instant.decoder :
      Fields Permission).decoder "Permission"

end Permission

end Tenancy
