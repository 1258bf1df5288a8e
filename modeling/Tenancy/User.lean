import Tenancy.Failure
import Tenancy.Id
import Tenancy.Json.Decoder
import Tenancy.Time.Instant

/-!
# Users

A user record, the patches that change one, their rules, and their JSON form, which leaves out the password.
-/

namespace Tenancy

open Json Time

/-- The state of an account. -/
inductive UserStatus where
  | active
  | inactive
  | pending
  | deleted
deriving DecidableEq, Repr, Inhabited

instance : Labelled UserStatus where
  all := [.active, .inactive, .pending, .deleted]
  label
    | .active => "active"
    | .inactive => "inactive"
    | .pending => "pending"
    | .deleted => "deleted"

/-- Reads a status in any case. -/
def UserStatus.parse (s : String) : Except String UserStatus :=
  match Labelled.ofLabel? (Text.lower s) with
  | some status => .ok status
  | none => .error ("Unknown user status: " ++ s)

/-- A user of the platform. -/
structure User where
  id : Id
  username : String
  email : String
  firstName : String
  lastName : String
  password : String
  status : UserStatus
  createdAt : Option Instant
  updatedAt : Option Instant
deriving DecidableEq, Repr, Inhabited

/-- A change of some fields of a user. -/
structure UserPatch where
  username : Option String := none
  email : Option String := none
  firstName : Option String := none
  lastName : Option String := none
  password : Option String := none
  status : Option UserStatus := none
deriving DecidableEq, Repr, Inhabited

/-- The rules of the text fields that users and their patches share. -/
def userRules {α : Type} (username email firstName lastName password : α → Option String) : List (RuledField α) :=
  [⟨"username", username, [.length (some 3) (some 50)]⟩,
    ⟨"email", email, [.length none (some 254), .email]⟩,
    ⟨"first_name", firstName, [.length none (some 50)]⟩,
    ⟨"last_name", lastName, [.length none (some 50)]⟩,
    ⟨"password", password, [.length (some 1) none]⟩]

namespace User

/-- The password that no login attempt matches. -/
def unusablePassword : String := "!"

/-- A user that is not stored yet. -/
def fresh (username email password : String) : User :=
  ⟨Id.nil .user, username, email, "", "", password, .active, none, none⟩

/-- Whether the account is deleted. -/
def isDeleted (u : User) : Bool := u.status == .deleted

/-- The rules of a user. -/
def rules : List (RuledField User) :=
  userRules (some ·.username) (some ·.email) (some ·.firstName) (some ·.lastName) (some ·.password)

/-- The rules that a user breaks. -/
def violations (u : User) : Violations := Tenancy.violations rules u

/-- A timestamp, or null. -/
def instantJson : Option Instant → Json
  | some t => .string t.text
  | none => .null

/-- The fields of a user that are shown. -/
def toFields (u : User) : List (String × Json) :=
  [("id", u.id.toJson), ("username", .string u.username), ("email", .string u.email),
    ("first_name", .string u.firstName), ("last_name", .string u.lastName),
    ("status", .string (Labelled.label u.status)), ("created_at", instantJson u.createdAt),
    ("updated_at", instantJson u.updatedAt)]

/-- A user in JSON, without the password. -/
def toJson (u : User) : Json := .object u.toFields

/-- The fields of a user as they are read; the password may be absent. -/
def fields : Fields User :=
  User.mk <$> .required "id" Id.decoder <*> .required "username" .text <*> .required "email" .text <*>
    .required "first_name" .text <*> .required "last_name" .text <*> .defaulted "password" .text "" <*>
    .required "status" .choice <*> .optional "created_at" Instant.decoder <*> .optional "updated_at" Instant.decoder

/-- Reads a user. -/
def decoder : Decoder User := fields.decoder "User"

end User

namespace UserPatch

/-- The patch that deletes an account and makes its password unusable. -/
def softDelete : UserPatch := { status := some .deleted, password := some User.unusablePassword }

/-- Whether the patch sets no field. -/
def isEmpty (p : UserPatch) : Bool :=
  p.username.isNone && p.email.isNone && p.firstName.isNone && p.lastName.isNone && p.password.isNone &&
    p.status.isNone

/-- The user with the fields that the patch sets. -/
def apply (p : UserPatch) (u : User) : User :=
  { u with
    username := p.username.getD u.username
    email := p.email.getD u.email
    firstName := p.firstName.getD u.firstName
    lastName := p.lastName.getD u.lastName
    password := p.password.getD u.password
    status := p.status.getD u.status }

/-- The patch that takes each field from `q` where `q` sets it, and from `p` otherwise. -/
def merge (p q : UserPatch) : UserPatch where
  username := q.username <|> p.username
  email := q.email <|> p.email
  firstName := q.firstName <|> p.firstName
  lastName := q.lastName <|> p.lastName
  password := q.password <|> p.password
  status := q.status <|> p.status

/-- The rules of a patch. -/
def rules : List (RuledField UserPatch) :=
  userRules (·.username) (·.email) (·.firstName) (·.lastName) (·.password)

/-- The rules that a patch breaks. -/
def violations (p : UserPatch) : Violations := Tenancy.violations rules p

/-- A text, or null. -/
def textJson : Option String → Json
  | some s => .string s
  | none => .null

/-- The fields of a patch that are shown. -/
def toFields (p : UserPatch) : List (String × Json) :=
  [("username", textJson p.username), ("email", textJson p.email), ("first_name", textJson p.firstName),
    ("last_name", textJson p.lastName), ("status", textJson (p.status.map Labelled.label))]

/-- A patch in JSON, without the password. -/
def toJson (p : UserPatch) : Json := .object p.toFields

/-- Reads a patch; every field may be absent. -/
def decoder : Decoder UserPatch :=
  (UserPatch.mk <$> .optional "username" .text <*> .optional "email" .text <*> .optional "first_name" .text <*>
    .optional "last_name" .text <*> .optional "password" .text <*> .optional "status" .choice :
      Fields UserPatch).decoder "UserPatch"

end UserPatch

end Tenancy
