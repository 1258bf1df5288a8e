import Tenancy.Health
import Tenancy.Organization
import Tenancy.Permission
import Tenancy.Proofs.Json.Recovery
import Tenancy.Proofs.Record.Labels
import Tenancy.Proofs.Record.Uuid
import Tenancy.Proofs.Time.Written

/-!
# Records read back

Every record is read back from its JSON with its fields in any order, except that passwords are not written and come
back empty. Of instants this takes that they are read back from their own text, as those of the calendar are.
-/

namespace Tenancy

open Json Decoder Fields Time

/-! ## Leaves -/

instance : LawfulLabelled ResourceType := ⟨fun kind => by cases kind <;> rfl⟩

instance : LawfulLabelled UserStatus := ⟨fun status => by cases status <;> rfl⟩

instance : LawfulLabelled OrganizationStatus := ⟨fun status => by cases status <;> rfl⟩

instance : LawfulLabelled PermissionKind := ⟨fun kind => by cases kind <;> rfl⟩

instance : LawfulLabelled Quota := ⟨fun quota => by cases quota <;> rfl⟩

/-- The instant is read back from its own text. -/
def Time.Instant.Legible (t : Instant) : Prop := Instant.parse t.text = .ok t

/-- An instant of the calendar can be read back from its text. -/
theorem Time.Instant.Proper.legible {t : Instant} (h : t.Proper) : t.Legible := Instant.parse_text h

/-- An instant that can be read back is recovered. -/
theorem Time.Instant.recovers {t : Instant} (h : t.Legible) : Instant.decoder.Recovers (.string t.text) t :=
  recovers_ofText (by rw [h]; rfl)

/-- Every UUID is recovered. -/
theorem Id.recovers_uuid (u : Uuid) : uuidDecoder.Recovers (.string u.text) u :=
  recovers_ofText (by rw [Uuid.parse_text]; rfl)

/-- An instant that may be missing is recovered. -/
theorem recovers_instantJson {t : Option Instant} (h : ∀ i ∈ t, i.Legible) :
    Instant.decoder.nullable.Recovers (User.instantJson t) t := by
  cases t with
  | none => exact recovers_nullable_none
  | some t => exact (Instant.recovers (h t rfl)).nullable nofun

/-- A text that may be missing is recovered. -/
theorem recovers_textJson (s : Option String) : text.nullable.Recovers (UserPatch.textJson s) s := by
  cases s with
  | none => exact recovers_nullable_none
  | some s => exact (recovers_text s).nullable nofun

/-- An alternative that may be missing is recovered. -/
theorem recovers_labelJson {α : Type} [Labelled α] [LawfulLabelled α] (a : Option α) :
    (choice (α := α)).nullable.Recovers (UserPatch.textJson (a.map Labelled.label)) a := by
  cases a with
  | none => exact recovers_nullable_none
  | some a => exact (recovers_choice a).nullable nofun

/-- A set of labels is recovered from its items in order. -/
theorem recovers_labels (set : LabelSet) :
    (text.list.map LabelSet.ofList).Recovers (.array (set.items.map .string)) set := by
  have h := (recovers_list Json.string fun s (_ : s ∈ set.items) => recovers_text s).map LabelSet.ofList
  rwa [LabelSet.ofList_items] at h

/-! ## Records -/

/-- Every identifier is recovered. -/
theorem Id.recovers (id : Id) : Id.decoder.Recovers id.toJson id :=
  recovers_required rfl (recovers_uuid id.uuid) |>.map Id.mk
    |>.seq (recovers_required rfl (recovers_choice id.kind))
    |>.decoder (by decide) (by simp [Json.names]) "Id"

/-- Every list of identifiers is recovered. -/
theorem recovers_ids (ids : List Id) : Id.decoder.list.Recovers (.array (ids.map Id.toJson)) ids :=
  recovers_list Id.toJson fun id _ => Id.recovers id

/-- The timestamps of a record are read back from their own texts. -/
def Legible (createdAt updatedAt : Option Instant) : Prop := (∀ t ∈ createdAt, t.Legible) ∧ ∀ t ∈ updatedAt, t.Legible

/-- Every version is recovered. -/
theorem VersionInfo.recovers (v : VersionInfo) : VersionInfo.decoder.Recovers v.toJson v :=
  recovers_required rfl (recovers_text v.version) |>.map VersionInfo.mk
    |>.seq (recovers_required rfl (recovers_text v.commit))
    |>.seq (recovers_required rfl (recovers_text v.date))
    |>.seq (recovers_required rfl (recovers_text v.toolchain))
    |>.decoder (by decide) (by simp [names]) "VersionInfo"

/-- A permission whose instants can be read back is recovered. -/
theorem Permission.recovers (p : Permission) (h : Legible p.createdAt p.updatedAt) :
    Permission.decoder.Recovers p.toJson p :=
  recovers_required rfl (Id.recovers p.id) |>.map Permission.mk
    |>.seq (recovers_required rfl (Id.recovers p.subject))
    |>.seq (recovers_required rfl (Id.recovers p.target))
    |>.seq (recovers_required rfl (recovers_choice p.kind))
    |>.seq (recovers_optional rfl (recovers_instantJson h.1))
    |>.seq (recovers_optional rfl (recovers_instantJson h.2))
    |>.decoder (by decide) (by simp [names]) "Permission"

/-- An organization whose instants can be read back is recovered. -/
theorem Organization.recovers (o : Organization) (h : Legible o.createdAt o.updatedAt) :
    Organization.decoder.Recovers o.toJson o :=
  recovers_required rfl (Id.recovers o.id) |>.map Organization.mk
    |>.seq (recovers_required rfl (recovers_text o.name))
    |>.seq (recovers_required rfl (recovers_text o.email))
    |>.seq (recovers_optional rfl (recovers_textJson o.logo))
    |>.seq (recovers_optional rfl (recovers_textJson o.website))
    |>.seq (recovers_required rfl (recovers_choice o.status))
    |>.seq (recovers_defaulted rfl (recovers_ids o.members))
    |>.seq (recovers_defaulted rfl (recovers_ids o.nameSpaces))
    |>.seq (recovers_defaulted rfl (recovers_ids o.teams))
    |>.seq (recovers_optional rfl (recovers_instantJson h.1))
    |>.seq (recovers_optional rfl (recovers_instantJson h.2))
    |>.decoder (by decide) (by simp [names]) "Organization"

/-- Every patch of an organization is recovered. -/
theorem OrganizationPatch.recovers (p : OrganizationPatch) : OrganizationPatch.decoder.Recovers p.toJson p :=
  recovers_optional rfl (recovers_textJson p.name) |>.map OrganizationPatch.mk
    |>.seq (recovers_optional rfl (recovers_textJson p.email))
    |>.seq (recovers_optional rfl (recovers_textJson p.logo))
    |>.seq (recovers_optional rfl (recovers_textJson p.website))
    |>.seq (recovers_optional rfl (recovers_labelJson p.status))
    |>.decoder (by decide) (by simp [names]) "OrganizationPatch"

/-! ## Passwords -/

/-- The user with the empty password. -/
def User.withoutPassword (u : User) : User := { u with password := "" }

/-- The patch that does not set the password. -/
def UserPatch.withoutPassword (p : UserPatch) : UserPatch := { p with password := none }

/-- The member with the empty password. -/
def OrganizationMember.withoutPassword (m : OrganizationMember) : OrganizationMember :=
  { m with user := m.user.withoutPassword }

/-- The written user does not tell the password. -/
theorem User.toJson_withoutPassword (u : User) : u.withoutPassword.toJson = u.toJson := rfl

/-- The written patch of a user does not tell the password. -/
theorem UserPatch.toJson_withoutPassword (p : UserPatch) : p.withoutPassword.toJson = p.toJson := rfl

/-- The written member does not tell the password. -/
theorem OrganizationMember.toJson_withoutPassword (m : OrganizationMember) : m.withoutPassword.toJson = m.toJson := rfl

/-- The fields of a user are recovered from every object that has them, whatever else it holds. -/
theorem User.recovers_fields {look : String → Option Json} (u : User) (h : Legible u.createdAt u.updatedAt)
    (same : ∀ name ∈ User.fields.specs.map Field.name, look name = (Json.object u.toFields).get? name) :
    User.fields.Recovers look u.withoutPassword :=
  recovers_required (same "id" (by decide)) (Id.recovers u.id) |>.map User.mk
    |>.seq (recovers_required (same "username" (by decide)) (recovers_text u.username))
    |>.seq (recovers_required (same "email" (by decide)) (recovers_text u.email))
    |>.seq (recovers_required (same "first_name" (by decide)) (recovers_text u.firstName))
    |>.seq (recovers_required (same "last_name" (by decide)) (recovers_text u.lastName))
    |>.seq (recovers_default (same "password" (by decide)))
    |>.seq (recovers_required (same "status" (by decide)) (recovers_choice u.status))
    |>.seq (recovers_optional (same "created_at" (by decide)) (recovers_instantJson h.1))
    |>.seq (recovers_optional (same "updated_at" (by decide)) (recovers_instantJson h.2))

/-- A user whose instants can be read back is recovered, apart from the password. -/
theorem User.recovers (u : User) (h : Legible u.createdAt u.updatedAt) :
    User.decoder.Recovers u.toJson u.withoutPassword :=
  (u.recovers_fields h fun _ _ => rfl).decoder (by decide) (by simp [names, User.toFields]) "User"

/-- Every patch of a user is recovered, apart from the password. -/
theorem UserPatch.recovers (p : UserPatch) : UserPatch.decoder.Recovers p.toJson p.withoutPassword :=
  recovers_optional rfl (recovers_textJson p.username) |>.map UserPatch.mk
    |>.seq (recovers_optional rfl (recovers_textJson p.email))
    |>.seq (recovers_optional rfl (recovers_textJson p.firstName))
    |>.seq (recovers_optional rfl (recovers_textJson p.lastName))
    |>.seq (recovers_absent rfl)
    |>.seq (recovers_optional rfl (recovers_labelJson p.status))
    |>.decoder (by decide) (by simp [names, UserPatch.toFields]) "UserPatch"

/-- A member is recovered from the fields of its user with the roles among them. -/
theorem OrganizationMember.recovers (m : OrganizationMember) (h : Legible m.user.createdAt m.user.updatedAt) :
    OrganizationMember.decoder.Recovers m.toJson m.withoutPassword := by
  have distinct : (names (m.user.toFields ++ [("roles", Json.array (m.roles.items.map .string))])).Nodup := by
    simp [names, User.toFields]
  have same : ∀ name ∈ User.fields.specs.map Field.name,
      m.toJson.get? name = (Json.object m.user.toFields).get? name := by
    intro name hn
    have other : "roles" ≠ name := by rintro rfl; exact absurd hn (by decide)
    rw [OrganizationMember.toJson, get?_append, get?_cons, if_neg other]
    exact Option.or_none
  have user := m.user.recovers_fields h same
  have roles : Fields.Recovers (.required "roles" (text.list.map LabelSet.ofList)) m.toJson.get? m.roles :=
    recovers_required rfl (recovers_labels m.roles)
  exact (user.flattened (by decide) roles (by decide) distinct "OrganizationMember").map _

/-! ## Licenses -/

/-- The caps of a license are recovered, with none for the quotas that are not written. -/
theorem License.recovers_caps (l : License) :
    ((table natural32).map License.capsOf).Recovers
      (.object (l.capList.map fun (q, cap) => (Labelled.label q, .integer cap.toNat))) l.caps := by
  intro arrival j hj
  obtain ⟨entries, read, perm⟩ := table_judge (fun cap : UInt32 => .integer cap.toNat) l.nodup_capList
    (fun e _ => recovers_natural32 e.2) arrival hj
  show ((table natural32).judge arrival j).map License.capsOf = _
  rw [read, ← License.capsOf_perm perm]
  rfl

/-- A license whose expiry can be read back is recovered. -/
theorem License.recovers (l : License) (h : l.expiresAt.Legible) : License.decoder.Recovers l.toJson l :=
  recovers_required rfl (Id.recovers l.id) |>.map License.mk
    |>.seq (recovers_required rfl (recovers_text l.email))
    |>.seq (recovers_required rfl (recovers_text l.organization))
    |>.seq (recovers_defaulted rfl l.recovers_caps)
    |>.seq (recovers_defaulted rfl (recovers_labels l.features))
    |>.seq (recovers_required rfl (Instant.recovers h))
    |>.decoder (by decide) (by simp [names]) "License"

/-! ## All of them -/

/-- What a decoder recovers is read from every order of the written document. -/
theorem Json.Decoder.Recovers.ofJson {α : Type} {d : Decoder α} {written j : Json} {a : α} (h : d.Recovers written a)
    (hj : Reordered written j) : d.ofJson j = .ok a := h .direct j hj

/-- Each record is read back from what is written of it, with the fields of every object in any order, as it was but for
its password, which is not written: records that differ in nothing else are written alike. -/
theorem records_read_back :
    (∀ id : Id, ∀ j, Reordered id.toJson j → Id.decoder.ofJson j = .ok id) ∧
    (∀ u : User, Legible u.createdAt u.updatedAt →
      ∀ j, Reordered u.toJson j → User.decoder.ofJson j = .ok u.withoutPassword) ∧
    (∀ p : UserPatch, ∀ j, Reordered p.toJson j → UserPatch.decoder.ofJson j = .ok p.withoutPassword) ∧
    (∀ o : Organization, Legible o.createdAt o.updatedAt →
      ∀ j, Reordered o.toJson j → Organization.decoder.ofJson j = .ok o) ∧
    (∀ p : OrganizationPatch, ∀ j, Reordered p.toJson j → OrganizationPatch.decoder.ofJson j = .ok p) ∧
    (∀ m : OrganizationMember, Legible m.user.createdAt m.user.updatedAt →
      ∀ j, Reordered m.toJson j → OrganizationMember.decoder.ofJson j = .ok m.withoutPassword) ∧
    (∀ l : License, l.expiresAt.Legible → ∀ j, Reordered l.toJson j → License.decoder.ofJson j = .ok l) ∧
    (∀ p : Permission, Legible p.createdAt p.updatedAt →
      ∀ j, Reordered p.toJson j → Permission.decoder.ofJson j = .ok p) ∧
    (∀ v : VersionInfo, ∀ j, Reordered v.toJson j → VersionInfo.decoder.ofJson j = .ok v) ∧
    (∀ u v : User, u.withoutPassword = v.withoutPassword → u.toJson = v.toJson) ∧
    (∀ p q : UserPatch, p.withoutPassword = q.withoutPassword → p.toJson = q.toJson) ∧
    (∀ m n : OrganizationMember, m.withoutPassword = n.withoutPassword → m.toJson = n.toJson) := by
  refine ⟨?id, ?user, ?userPatch, ?organization, ?organizationPatch, ?member, ?license, ?permission, ?version,
    ?userAlike, ?userPatchAlike, ?memberAlike⟩
  case id => exact fun id _ => id.recovers.ofJson
  case user => exact fun u h _ => (u.recovers h).ofJson
  case userPatch => exact fun p _ => p.recovers.ofJson
  case organization => exact fun o h _ => (o.recovers h).ofJson
  case organizationPatch => exact fun p _ => p.recovers.ofJson
  case member => exact fun m h _ => (m.recovers h).ofJson
  case license => exact fun l h _ => (l.recovers h).ofJson
  case permission => exact fun p h _ => (p.recovers h).ofJson
  case version => exact fun v _ => v.recovers.ofJson
  case userAlike =>
    intro u v h
    rw [← u.toJson_withoutPassword, h, v.toJson_withoutPassword]
  case userPatchAlike =>
    intro p q h
    rw [← p.toJson_withoutPassword, h, q.toJson_withoutPassword]
  case memberAlike =>
    intro m n h
    rw [← m.toJson_withoutPassword, h, n.toJson_withoutPassword]

/-- An account that was created at a quarter of a second past a full minute. -/
def dated (password : String) : User :=
  { User.fresh "ada" "ada@example.com" password with createdAt := some ⟨1700000040, 250000000⟩ }

/-- A license with two caps and a feature. -/
def capped : License :=
  (License.fresh (Id.nth .license 255) "info@example.com" "ACME Inc." ⟨1700000040, 250000000⟩).withQuota .users 10
    |>.withQuota .organizations 5 |>.withFeature "releases"

/-- The account is read back without its password from the canonical order, which is the same for every password, and the
license as it is. -/
theorem records_read_back_account :
    Legible (dated "secret").createdAt (dated "secret").updatedAt ∧ capped.expiresAt.Legible ∧
      User.decoder.ofJson (dated "secret").toJson.canonical = .ok (dated "") ∧
      (dated "secret").toJson = (dated "hidden").toJson ∧
      License.decoder.ofJson capped.toJson.canonical = .ok capped := by
  have minute : Instant.Legible ⟨1700000040, 250000000⟩ :=
    Instant.Proper.legible ⟨by decide, by decide, by decide, by decide⟩
  have timestamps : Legible (dated "secret").createdAt (dated "secret").updatedAt := by
    refine ⟨fun t ht => ?_, nofun⟩
    obtain rfl := Option.some.inj ht
    exact minute
  obtain ⟨-, user, -, -, -, -, license, -, -, alike, -⟩ := records_read_back
  exact ⟨timestamps, minute, user (dated "secret") timestamps _ (.canonical _),
    alike (dated "secret") (dated "hidden") rfl, license capped minute _ (.canonical _)⟩

end Tenancy
