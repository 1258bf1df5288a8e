import Tenancy.Json.Decoder
import Tenancy.Time.Instant
import Tenancy.Uuid

/-!
# Resource ids

An id names a resource by its type and a UUID. The nil id of a type stands for the type itself: the right to create a
user is a right on the nil user id.
-/

namespace Tenancy

open Text

/-- The types of resource that an id can name. -/
inductive ResourceType where
  | document
  | license
  | nameSpace
  | organization
  | permission
  | project
  | role
  | team
  | user
deriving DecidableEq, Repr, Inhabited

instance : Labelled ResourceType where
  all := [.document, .license, .nameSpace, .organization, .permission, .project, .role, .team, .user]
  label
    | .document => "document"
    | .license => "license"
    | .nameSpace => "namespace"
    | .organization => "organization"
    | .permission => "permission"
    | .project => "project"
    | .role => "role"
    | .team => "team"
    | .user => "user"

/-- Identifier of a resource, marked with its type. -/
structure Id where
  uuid : Uuid
  kind : ResourceType
deriving DecidableEq, Repr, Inhabited

/-- Why a text is no id. -/
inductive IdTextError where
  | noColon (text : String)
  | unknownKind (label : String)
  | uuid (text : String) (cause : Uuid.TextError)
deriving DecidableEq, Repr

/-- The wording of a complaint about a resource type. -/
def ResourceType.unknownMessage (label : String) : String := "Unknown resource type: " ++ label

/-- The wording of a complaint about an id. -/
def IdTextError.message : IdTextError → String
  | noColon text => "Invalid id: " ++ text
  | unknownKind label => ResourceType.unknownMessage label
  | uuid text cause => "Invalid id " ++ text ++ ": " ++ cause.message

namespace Id

/-- The id that stands for a resource type as a whole. -/
def nil (kind : ResourceType) : Id := ⟨Uuid.zero, kind⟩

/-- The `n`-th id of a type. -/
def nth (kind : ResourceType) (n : Nat) : Id := ⟨Uuid.ofNat n, kind⟩

/-- Whether the id names no single resource. -/
def isNil (id : Id) : Bool := id.uuid == Uuid.zero

/-- Whether the id names a single resource of the expected type. -/
def names (id : Id) (expected : ResourceType) : Bool := !id.isNil && id.kind == expected

/-- The written form: type, colon, UUID. -/
def text (id : Id) : String := Labelled.label id.kind ++ ":" ++ id.uuid.text

/-- Reads an id; the resource type is judged before the UUID. -/
def parse (s : String) : Except IdTextError Id :=
  match splitFirst? ':' s.toList with
  | none => .error (.noColon s)
  | some (before, after) =>
    match Labelled.ofLabel? (String.ofList before) with
    | none => .error (.unknownKind (String.ofList before))
    | some kind =>
      match Uuid.parse (String.ofList after) with
      | .error cause => .error (.uuid s cause)
      | .ok uuid => .ok ⟨uuid, kind⟩

/-- Ids are ordered by UUID, then by type. -/
def lt (a b : Id) : Bool :=
  a.uuid.bits.toNat < b.uuid.bits.toNat ||
    (a.uuid == b.uuid && Labelled.rank a.kind < Labelled.rank b.kind)

/-- Puts an id into an ordered list without repetition. -/
def insertSorted (id : Id) : List Id → List Id
  | [] => [id]
  | other :: rest =>
    if id = other then other :: rest
    else if id.lt other then id :: other :: rest
    else other :: insertSorted id rest

/-- The ids in order, each once. -/
def sorted (ids : List Id) : List Id := ids.foldr insertSorted []

/-- An id in JSON. -/
def toJson (id : Id) : Json :=
  .object [("inner", .string id.uuid.text), ("kind", .string (Labelled.label id.kind))]

/-- Reads the UUID of an id. -/
def uuidDecoder : Json.Decoder Uuid :=
  .ofText "a formatted UUID string" fun s =>
    (Uuid.parse s).mapError fun e => "UUID parsing failed: " ++ e.message

/-- Reads an id. -/
def decoder : Json.Decoder Id :=
  (Id.mk <$> .required "inner" uuidDecoder <*> .required "kind" .choice : Json.Fields Id).decoder "Id"

end Id

/-- Reads an instant in RFC 3339. -/
def Time.Instant.decoder : Json.Decoder Time.Instant :=
  .ofText "an RFC 3339 formatted date and time string" fun s => (Time.Instant.parse s).mapError Time.TextError.message

end Tenancy
