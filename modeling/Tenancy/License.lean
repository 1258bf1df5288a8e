import Tenancy.Labels
import Tenancy.User

/-!
# Licenses

The license that the platform runs under: until when it holds, which features it unlocks, and how many resources of
each kind it allows.
-/

namespace Tenancy

open Json Time

/-- A kind of resource that a license can cap. -/
inductive Quota where
  | documents
  | nameSpaces
  | organizations
  | projects
  | roles
  | users
deriving DecidableEq, Repr, Inhabited

instance : Labelled Quota where
  all := [.documents, .nameSpaces, .organizations, .projects, .roles, .users]
  label
    | .documents => "documents"
    | .nameSpaces => "namespaces"
    | .organizations => "organizations"
    | .projects => "projects"
    | .roles => "roles"
    | .users => "users"

/-- Reads a quota from its exact label. -/
def Quota.parse (s : String) : Except ServiceError Quota :=
  match Labelled.ofLabel? s with
  | some quota => .ok quota
  | none => .error ⟨.quotaInvalid, none⟩

/-- The features that licenses are known to unlock. -/
def Feature.known : List String :=
  ["components", "custom_fields", "custom_statuses", "multiple_organizations", "permissions", "releases"]

/-- A license. A quota without a cap is not licensed at all. -/
structure License where
  id : Id
  email : String
  organization : String
  caps : Quota → Option UInt32
  features : LabelSet
  expiresAt : Instant

namespace License

/-- The address to write to for a renewal. -/
def renewEmail : String := "renew@elemo.app"

/-- A license without caps and features. -/
def fresh (id : Id) (email organization : String) (expiresAt : Instant) : License :=
  ⟨id, email, organization, fun _ => none, LabelSet.empty, expiresAt⟩

/-- The license with a cap on a quota. -/
def withQuota (l : License) (quota : Quota) (cap : UInt32) : License :=
  { l with caps := fun q => if q = quota then some cap else l.caps q }

/-- The license with one more feature. -/
def withFeature (l : License) (feature : String) : License := { l with features := l.features.insert feature }

/-- Whether the license has expired at an instant. -/
def isExpiredAt (l : License) (now : Instant) : Bool := now.reached l.expiresAt

/-- The rules of a license. -/
def rules : List (RuledField License) :=
  [⟨"email", (some ·.email), [.email]⟩, ⟨"organization", (some ·.organization), [.length (some 1) (some 120)]⟩]

/-- Whether the license is well formed: its id is the id of a license, and its texts keep their rules. -/
def check (l : License) : Except ServiceError Unit :=
  if ¬ l.id.names .license then .error ⟨.invalidId, none⟩
  else
    match violations rules l with
    | [] => .ok ()
    | broken => .error (.join .licenseInvalid (.invalid broken))

/-- The caps in the order of the quotas. -/
def capList (l : License) : List (Quota × UInt32) :=
  (Labelled.all (α := Quota)).filterMap fun q => (l.caps q).map fun cap => (q, cap)

/-- The caps of a list of entries, the last of which decides. -/
def capsOf (entries : List (Quota × UInt32)) : Quota → Option UInt32 := fun q =>
  (entries.reverse.find? fun entry => entry.1 == q).map Prod.snd

/-- A license in JSON. -/
def toJson (l : License) : Json :=
  .object [("id", l.id.toJson), ("email", .string l.email), ("organization", .string l.organization),
    ("quotas", .object (l.capList.map fun (q, cap) => (Labelled.label q, .integer cap.toNat))),
    ("features", .array (l.features.items.map .string)), ("expires_at", .string l.expiresAt.text)]

/-- Reads a license; its caps and features may be absent. -/
def decoder : Decoder License :=
  (License.mk <$> .required "id" Id.decoder <*> .required "email" .text <*> .required "organization" .text <*>
    .defaulted "quotas" ((Decoder.table Decoder.natural32).map capsOf) (fun _ => none) <*>
    .defaulted "features" (Decoder.text.list.map LabelSet.ofList) LabelSet.empty <*>
    .required "expires_at" Instant.decoder : Fields License).decoder "License"

end License

end Tenancy
