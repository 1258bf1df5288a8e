import Tenancy.Labels
import Tenancy.User

/-!
# Organizations

An organization, the patches that change one, and its members with the roles they hold there.
-/

namespace Tenancy

open Json Time

/-- The state of an organization. -/
inductive OrganizationStatus where
  | active
  | deleted
deriving DecidableEq, Repr, Inhabited

instance : Labelled OrganizationStatus where
  all := [.active, .deleted]
  label
    | .active => "active"
    | .deleted => "deleted"

/-- Reads a status in any case. -/
def OrganizationStatus.parse (s : String) : Except String OrganizationStatus :=
  match Labelled.ofLabel? (Text.lower s) with
  | some status => .ok status
  | none => .error ("Unknown organization status: " ++ s)

/-- An organization, with its members, namespaces and teams as they were when it was read. -/
structure Organization where
  id : Id
  name : String
  email : String
  logo : Option String
  website : Option String
  status : OrganizationStatus
  members : List Id
  nameSpaces : List Id
  teams : List Id
  createdAt : Option Instant
  updatedAt : Option Instant
deriving DecidableEq, Repr, Inhabited

/-- A change of some fields of an organization. -/
structure OrganizationPatch where
  name : Option String := none
  email : Option String := none
  logo : Option String := none
  website : Option String := none
  status : Option OrganizationStatus := none
deriving DecidableEq, Repr, Inhabited

/-- The rules of the text fields that organizations and their patches share. -/
def organizationRules {α : Type} (name email logo website : α → Option String) : List (RuledField α) :=
  [⟨"name", name, [.length (some 1) (some 120)]⟩, ⟨"email", email, [.email]⟩, ⟨"logo", logo, [.url]⟩,
    ⟨"website", website, [.url]⟩]

namespace Organization

/-- An organization that is not stored yet. -/
def fresh (name email : String) : Organization :=
  ⟨Id.nil .organization, name, email, none, none, .active, [], [], [], none, none⟩

/-- Whether the organization is deleted. -/
def isDeleted (o : Organization) : Bool := o.status == .deleted

/-- Whether the user was a member when the organization was read. -/
def hasMember (o : Organization) (user : Id) : Bool := o.members.contains user

/-- The rules of an organization. -/
def rules : List (RuledField Organization) := organizationRules (some ·.name) (some ·.email) (·.logo) (·.website)

/-- The rules that an organization breaks. -/
def violations (o : Organization) : Violations := Tenancy.violations rules o

/-- An organization in JSON. -/
def toJson (o : Organization) : Json :=
  .object [("id", o.id.toJson), ("name", .string o.name), ("email", .string o.email),
    ("logo", UserPatch.textJson o.logo), ("website", UserPatch.textJson o.website),
    ("status", .string (Labelled.label o.status)), ("members", .array (o.members.map Id.toJson)),
    ("namespaces", .array (o.nameSpaces.map Id.toJson)), ("teams", .array (o.teams.map Id.toJson)),
    ("created_at", User.instantJson o.createdAt), ("updated_at", User.instantJson o.updatedAt)]

/-- Reads an organization; its lists may be absent. -/
def decoder : Decoder Organization :=
  (Organization.mk <$> .required "id" Id.decoder <*> .required "name" .text <*> .required "email" .text <*>
    .optional "logo" .text <*> .optional "website" .text <*> .required "status" .choice <*>
    .defaulted "members" Id.decoder.list [] <*> .defaulted "namespaces" Id.decoder.list [] <*>
    .defaulted "teams" Id.decoder.list [] <*> .optional "created_at" Instant.decoder <*>
    .optional "updated_at" Instant.decoder : Fields Organization).decoder "Organization"

end Organization

namespace OrganizationPatch

/-- The patch that deletes an organization. -/
def softDelete : OrganizationPatch := { status := some .deleted }

/-- Whether the patch sets no field. -/
def isEmpty (p : OrganizationPatch) : Bool :=
  p.name.isNone && p.email.isNone && p.logo.isNone && p.website.isNone && p.status.isNone

/-- The organization with the fields that the patch sets. -/
def apply (p : OrganizationPatch) (o : Organization) : Organization :=
  { o with
    name := p.name.getD o.name
    email := p.email.getD o.email
    logo := p.logo <|> o.logo
    website := p.website <|> o.website
    status := p.status.getD o.status }

/-- The patch that takes each field from `q` where `q` sets it, and from `p` otherwise. -/
def merge (p q : OrganizationPatch) : OrganizationPatch where
  name := q.name <|> p.name
  email := q.email <|> p.email
  logo := q.logo <|> p.logo
  website := q.website <|> p.website
  status := q.status <|> p.status

/-- The rules of a patch. -/
def rules : List (RuledField OrganizationPatch) := organizationRules (·.name) (·.email) (·.logo) (·.website)

/-- The rules that a patch breaks. -/
def violations (p : OrganizationPatch) : Violations := Tenancy.violations rules p

/-- A patch in JSON. -/
def toJson (p : OrganizationPatch) : Json :=
  .object [("name", UserPatch.textJson p.name), ("email", UserPatch.textJson p.email),
    ("logo", UserPatch.textJson p.logo), ("website", UserPatch.textJson p.website),
    ("status", UserPatch.textJson (p.status.map Labelled.label))]

/-- Reads a patch; every field may be absent. -/
def decoder : Decoder OrganizationPatch :=
  (OrganizationPatch.mk <$> .optional "name" .text <*> .optional "email" .text <*> .optional "logo" .text <*>
    .optional "website" .text <*> .optional "status" .choice : Fields OrganizationPatch).decoder "OrganizationPatch"

end OrganizationPatch

/-- A user in an organization, with the roles held there. -/
structure OrganizationMember where
  user : User
  roles : LabelSet
deriving DecidableEq

namespace OrganizationMember

/-- The role that members holding all rights on the organization are given when they are read. -/
def ownerRole : String := "Owner"

/-- Whether the member has the role of an owner. -/
def isOwner (m : OrganizationMember) : Bool := m.roles.contains ownerRole

/-- A member in JSON: the fields of the user and the roles beside them. -/
def toJson (m : OrganizationMember) : Json :=
  .object (m.user.toFields ++ [("roles", .array (m.roles.items.map .string))])

/-- Reads a member, from an object only. -/
def decoder : Decoder OrganizationMember :=
  (Fields.flattened "OrganizationMember" User.fields
    (.required "roles" (Decoder.text.list.map LabelSet.ofList))).map fun (user, roles) => ⟨user, roles⟩

end OrganizationMember

end Tenancy
