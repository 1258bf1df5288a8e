import Mathlib.Data.Option.Basic
import Mathlib.Logic.Nontrivial.Basic
import Tenancy.Organization

/-!
# Patches

A patch says of some fields of a record what they hold from now on. Which fields patches of a type may set, and what of a record
none of them sets, is a `Patching`; a record is `Patched` when the fields that are set hold what they are set to and all else is as
it was. The laws of patches (`Lawful`) follow from what is to be checked of each type, field by field (`Faithful`), whatever the
fields are: a patch makes one record only of another, two patches in a row are a single one, and the patches that are empty are
those that change no record.
-/

namespace Tenancy

/-- The fields of records that patches of a type may set, and what of a record no patch sets. -/
structure Patching (ρ π : Type) where
  Field : Type
  Value : Field → Type
  /-- What a record holds in a field. -/
  held : (f : Field) → ρ → Value f
  /-- What a patch sets a field to, if it does. -/
  set? : (f : Field) → π → Option (Value f)
  Rest : Type
  /-- The part of a record that no patch sets. -/
  rest : ρ → Rest

namespace Patching

variable {ρ π : Type} {P : Patching ρ π} {apply : π → ρ → ρ} {merge : π → π → π} {isEmpty : π → Bool}

/-- A record has been patched: each field that the patch sets holds what it is set to, and all else is as it was. -/
structure Patched (P : Patching ρ π) (p : π) (before after : ρ) : Prop where
  set : ∀ f v, P.set? f p = some v → P.held f after = v
  kept : ∀ f, P.set? f p = none → P.held f after = P.held f before
  rest : P.rest after = P.rest before

/-- Each field is taken from the later of two patches where that one sets it, and from the earlier one otherwise. -/
def Joint (P : Patching ρ π) (earlier later joint : π) : Prop :=
  ∀ f, (∀ v, P.set? f later = some v → P.set? f joint = some v) ∧
    (P.set? f later = none → P.set? f joint = P.set? f earlier)

/-- The laws of patches. -/
structure Lawful (P : Patching ρ π) (apply : π → ρ → ρ) (merge : π → π → π) (isEmpty : π → Bool) : Prop where
  /-- A patch makes of a record the one that has been patched, and no other. -/
  patched_iff : ∀ p r r', P.Patched p r r' ↔ r' = apply p r
  /-- Two patches have one joint patch. -/
  joint_iff : ∀ p q joint, P.Joint p q joint ↔ joint = merge p q
  /-- One patch after another is their joint patch. -/
  apply_apply : ∀ p q r, apply q (apply p r) = apply (merge p q) r
  /-- A patch does no more when it is applied again. -/
  apply_twice : ∀ p r, apply p (apply p r) = apply p r
  /-- The patches that are empty are those that change no record. -/
  isEmpty_iff : ∀ p, isEmpty p = true ↔ ∀ r, apply p r = r

/-- What is to be checked of a type of patches, one field after the other. -/
structure Faithful (P : Patching ρ π) (apply : π → ρ → ρ) (merge : π → π → π) (isEmpty : π → Bool) : Prop where
  record_ext : ∀ r r', (∀ f, P.held f r = P.held f r') → P.rest r = P.rest r' → r = r'
  patch_ext : ∀ p q, (∀ f, P.set? f p = P.set? f q) → p = q
  held_apply : ∀ p r f, P.held f (apply p r) = (P.set? f p).getD (P.held f r)
  rest_apply : ∀ p r, P.rest (apply p r) = P.rest r
  set?_merge : ∀ p q f, P.set? f (merge p q) = (P.set? f q).or (P.set? f p)
  isEmpty_iff_unset : ∀ p, isEmpty p = true ↔ ∀ f, P.set? f p = none
  exists_held : ∀ f v, ∃ r, P.held f r = v
  nontrivial_value : ∀ f, Nontrivial (P.Value f)

/-- A patch is the joint of two exactly when it sets what the second one sets, and what the first one sets otherwise. -/
theorem joint_iff_or {p q joint : π} : P.Joint p q joint ↔ ∀ f, P.set? f joint = (P.set? f q).or (P.set? f p) := by
  refine forall_congr' fun f => ?_
  cases P.set? f q with
  | none => simp
  | some v => simp

namespace Faithful

variable (h : P.Faithful apply merge isEmpty)
include h

/-- Fields and the rest make a record, so no two records have been patched in the same way. -/
theorem patched_iff (p : π) (r r' : ρ) : P.Patched p r r' ↔ r' = apply p r := by
  constructor
  · intro patched
    refine h.record_ext r' (apply p r) (fun f => ?_) (patched.rest.trans (h.rest_apply p r).symm)
    rw [h.held_apply]
    cases hset : P.set? f p with
    | none => exact patched.kept f hset
    | some v => exact patched.set f v hset
  · rintro rfl
    refine ⟨fun f v hset => ?_, fun f hset => ?_, h.rest_apply p r⟩
    · rw [h.held_apply, hset, Option.getD_some]
    · rw [h.held_apply, hset, Option.getD_none]

/-- The one joint of two patches is their merge. -/
theorem joint_iff (p q joint : π) : P.Joint p q joint ↔ joint = merge p q := by
  rw [joint_iff_or]
  constructor
  · exact fun hjoint => h.patch_ext joint (merge p q) fun f => (hjoint f).trans (h.set?_merge p q f).symm
  · rintro rfl
    exact h.set?_merge p q

/-- To apply a patch after another is to apply their merge. -/
theorem apply_apply (p q : π) (r : ρ) : apply q (apply p r) = apply (merge p q) r := by
  refine h.record_ext _ _ (fun f => ?_) ?_
  · rw [h.held_apply, h.held_apply, h.held_apply, h.set?_merge]
    cases P.set? f q <;> rfl
  · rw [h.rest_apply, h.rest_apply, h.rest_apply]

/-- A patch together with itself is the patch. -/
theorem merge_self (p : π) : merge p p = p := by
  refine h.patch_ext _ _ fun f => ?_
  rw [h.set?_merge, Option.or_self]

/-- Of a record that holds something else in a field that is set, another one is made. -/
theorem isEmpty_iff (p : π) : isEmpty p = true ↔ ∀ r, apply p r = r := by
  rw [h.isEmpty_iff_unset]
  constructor
  · intro unset r
    refine h.record_ext _ _ (fun f => ?_) (h.rest_apply p r)
    rw [h.held_apply, unset f, Option.getD_none]
  · intro same f
    refine Option.eq_none_iff_forall_ne_some.mpr fun v hset => ?_
    have := h.nontrivial_value f
    obtain ⟨other, hother⟩ := exists_ne v
    obtain ⟨r, hr⟩ := h.exists_held f other
    have hv : P.held f (apply p r) = v := by rw [h.held_apply, hset, Option.getD_some]
    rw [same r, hr] at hv
    exact hother hv

/-- Faithful operations on patches are lawful. -/
theorem lawful : P.Lawful apply merge isEmpty where
  patched_iff := h.patched_iff
  joint_iff := h.joint_iff
  apply_apply := h.apply_apply
  apply_twice p r := by rw [h.apply_apply, h.merge_self]
  isEmpty_iff := h.isEmpty_iff

end Faithful

end Patching

/-- There is more than one text. -/
theorem nontrivial_text : Nontrivial String := ⟨"", "!", by decide⟩

/-! ## Users -/

namespace UserPatch

/-- The fields of users that a patch may set. -/
inductive Field where
  | username
  | email
  | firstName
  | lastName
  | password
  | status

/-- How users are patched. The id and the times stay. -/
def patching : Patching User UserPatch where
  Field := Field
  Value
    | .status => UserStatus
    | _ => String
  held
    | .username => User.username
    | .email => User.email
    | .firstName => User.firstName
    | .lastName => User.lastName
    | .password => User.password
    | .status => User.status
  set?
    | .username => username
    | .email => email
    | .firstName => firstName
    | .lastName => lastName
    | .password => password
    | .status => status
  Rest := Id × Option Time.Instant × Option Time.Instant
  rest u := (u.id, u.createdAt, u.updatedAt)

/-- The patches of users are faithful. -/
theorem faithful : patching.Faithful apply merge isEmpty where
  record_ext u u' held rest := by
    cases u
    cases u'
    cases rest
    cases held .username
    cases held .email
    cases held .firstName
    cases held .lastName
    cases held .password
    cases held .status
    rfl
  patch_ext p q set := by
    cases p
    cases q
    cases set .username
    cases set .email
    cases set .firstName
    cases set .lastName
    cases set .password
    cases set .status
    rfl
  held_apply p u f := by cases f <;> rfl
  rest_apply p u := rfl
  set?_merge p q f := by cases f <;> exact Option.orElse_eq_or ..
  isEmpty_iff_unset p := by
    simp only [isEmpty, Bool.and_eq_true, Option.isNone_iff_eq_none]
    constructor
    · rintro ⟨⟨⟨⟨⟨h₁, h₂⟩, h₃⟩, h₄⟩, h₅⟩, h₆⟩ f
      cases f <;> assumption
    · intro unset
      exact ⟨⟨⟨⟨⟨unset .username, unset .email⟩, unset .firstName⟩, unset .lastName⟩, unset .password⟩, unset .status⟩
  exists_held f v := by
    cases f with
    | username => exact ⟨{ (default : User) with username := v }, rfl⟩
    | email => exact ⟨{ (default : User) with email := v }, rfl⟩
    | firstName => exact ⟨{ (default : User) with firstName := v }, rfl⟩
    | lastName => exact ⟨{ (default : User) with lastName := v }, rfl⟩
    | password => exact ⟨{ (default : User) with password := v }, rfl⟩
    | status => exact ⟨{ (default : User) with status := v }, rfl⟩
  nontrivial_value f := by
    cases f with
    | status => exact ⟨.active, .deleted, nofun⟩
    | _ => exact nontrivial_text

end UserPatch

/-! ## Organizations -/

namespace OrganizationPatch

/-- The fields of organizations that a patch may set. -/
inductive Field where
  | name
  | email
  | logo
  | website
  | status

/-- How organizations are patched. The id, the times and the lists of members, namespaces and teams stay; a logo or a website is
set, but never taken away. -/
def patching : Patching Organization OrganizationPatch where
  Field := Field
  Value
    | .name => String
    | .email => String
    | .logo => Option String
    | .website => Option String
    | .status => OrganizationStatus
  held
    | .name => Organization.name
    | .email => Organization.email
    | .logo => Organization.logo
    | .website => Organization.website
    | .status => Organization.status
  set?
    | .name => name
    | .email => email
    | .logo => fun p => p.logo.map some
    | .website => fun p => p.website.map some
    | .status => status
  Rest := Id × List Id × List Id × List Id × Option Time.Instant × Option Time.Instant
  rest o := (o.id, o.members, o.nameSpaces, o.teams, o.createdAt, o.updatedAt)

/-- The patches of organizations are faithful. -/
theorem faithful : patching.Faithful apply merge isEmpty where
  record_ext o o' held rest := by
    cases o
    cases o'
    cases rest
    cases held .name
    cases held .email
    cases held .logo
    cases held .website
    cases held .status
    rfl
  patch_ext p q set := by
    have hlogo : p.logo = q.logo := Option.map_injective (Option.some_injective _) (set .logo)
    have hwebsite : p.website = q.website := Option.map_injective (Option.some_injective _) (set .website)
    cases p
    cases q
    cases set .name
    cases set .email
    cases hlogo
    cases hwebsite
    cases set .status
    rfl
  held_apply p o f := by
    cases f with
    | name => rfl
    | email => rfl
    | logo => cases h : p.logo <;> simp [patching, apply, h]
    | website => cases h : p.website <;> simp [patching, apply, h]
    | status => rfl
  rest_apply p o := rfl
  set?_merge p q f := by
    cases f with
    | name => exact Option.orElse_eq_or ..
    | email => exact Option.orElse_eq_or ..
    | logo => cases h : q.logo <;> simp [patching, merge, h]
    | website => cases h : q.website <;> simp [patching, merge, h]
    | status => exact Option.orElse_eq_or ..
  isEmpty_iff_unset p := by
    simp only [isEmpty, Bool.and_eq_true, Option.isNone_iff_eq_none]
    constructor
    · rintro ⟨⟨⟨⟨h₁, h₂⟩, h₃⟩, h₄⟩, h₅⟩ f
      cases f with
      | logo => exact Option.map_eq_none_iff.mpr h₃
      | website => exact Option.map_eq_none_iff.mpr h₄
      | _ => assumption
    · intro unset
      exact ⟨⟨⟨⟨unset .name, unset .email⟩, Option.map_eq_none_iff.mp (unset .logo)⟩,
        Option.map_eq_none_iff.mp (unset .website)⟩, unset .status⟩
  exists_held f v := by
    cases f with
    | name => exact ⟨{ (default : Organization) with name := v }, rfl⟩
    | email => exact ⟨{ (default : Organization) with email := v }, rfl⟩
    | logo => exact ⟨{ (default : Organization) with logo := v }, rfl⟩
    | website => exact ⟨{ (default : Organization) with website := v }, rfl⟩
    | status => exact ⟨{ (default : Organization) with status := v }, rfl⟩
  nontrivial_value f := by
    cases f with
    | name => exact nontrivial_text
    | email => exact nontrivial_text
    | logo => exact ⟨none, some "", nofun⟩
    | website => exact ⟨none, some "", nofun⟩
    | status => exact ⟨.active, .deleted, nofun⟩

end OrganizationPatch

end Tenancy
