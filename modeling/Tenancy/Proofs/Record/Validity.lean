import Mathlib.Data.List.Basic
import Tenancy.Accounts

/-!
# Valid records

A record is valid when it breaks none of the rules of its fields. Records and their patches list the same fields with the same
rules, and a patched record has each text from the patch or from the record that is patched (`RuledField.Inherits`): a valid patch
makes a valid record of a valid one (`violations_apply`), whatever the rules are. A user whose password is replaced by the
unusable one is patched as well, and so is a record that is deleted but kept.
-/

namespace Tenancy

/-! ## Rules -/

section

variable {α π : Type}

/-- A field breaks no rule when its text, if it is set, keeps them all. -/
theorem RuledField.broken_eq_nil_iff {f : RuledField α} {a : α} :
    f.broken a = [] ↔ ∀ text, f.value a = some text → ∀ rule ∈ f.rules, rule.holds text = true := by
  unfold RuledField.broken
  cases f.value a with
  | none => simp
  | some text => simp

/-- A record breaks no rule when none of its fields does. -/
theorem violations_eq_nil_iff {fields : List (RuledField α)} {a : α} :
    violations fields a = [] ↔ ∀ f ∈ fields, f.broken a = [] := by
  unfold violations
  simp [List.filter_eq_nil_iff]

/-- A field of a patched record has its text from the patch, where it is a field under the same rules, or as it was before. -/
def RuledField.Inherits (apply : π → α → α) (f : RuledField α) (g : RuledField π) : Prop :=
  f.rules = g.rules ∧ ∀ patch a, f.value (apply patch a) = g.value patch ∨ f.value (apply patch a) = f.value a

/-- A valid patch makes a valid record of a valid one. -/
theorem violations_apply (apply : π → α → α) {fields : List (RuledField α)} {patchFields : List (RuledField π)}
    (h : List.Forall₂ (RuledField.Inherits apply) fields patchFields) {patch : π} {a : α}
    (hpatch : violations patchFields patch = []) (ha : violations fields a = []) : violations fields (apply patch a) = [] := by
  rw [violations_eq_nil_iff] at hpatch ha ⊢
  induction h with
  | nil => exact fun f hf => by cases hf
  | @cons f g fields patchFields hinherits hrest ih =>
    intro f' hf'
    rcases List.mem_cons.mp hf' with rfl | hf'
    · rw [RuledField.broken_eq_nil_iff]
      intro text htext
      rcases hinherits.2 patch a with hfrom | hfrom
      · rw [hinherits.1]
        exact RuledField.broken_eq_nil_iff.mp (hpatch g List.mem_cons_self) text (hfrom ▸ htext)
      · exact RuledField.broken_eq_nil_iff.mp (ha f' List.mem_cons_self) text (hfrom ▸ htext)
    · exact ih (fun g hg => hpatch g (List.mem_cons_of_mem _ hg)) (fun f hf => ha f (List.mem_cons_of_mem _ hf)) f' hf'

/-- A text that a patch may set is that of the patch, or as it was before. -/
theorem some_getD_cases (set : Option String) (text : String) :
    some (set.getD text) = set ∨ some (set.getD text) = some text := by
  cases set with
  | none => exact .inr rfl
  | some text' => exact .inl rfl

/-- A text that may be missing is the one that is set first, or the other. -/
theorem or_cases (first second : Option String) : (first <|> second) = first ∨ (first <|> second) = second := by
  cases first with
  | none => exact .inr rfl
  | some text => exact .inl rfl

end

/-! ## Users -/

/-- A user breaks no rule. -/
def User.Valid (u : User) : Prop := u.violations = []

/-- A patch of a user breaks no rule. -/
def UserPatch.Valid (p : UserPatch) : Prop := p.violations = []

instance (u : User) : Decidable u.Valid := inferInstanceAs (Decidable (_ = _))

instance (p : UserPatch) : Decidable p.Valid := inferInstanceAs (Decidable (_ = _))

namespace UserPatch

/-- The patch that only makes a password unusable. -/
def locking : UserPatch := { password := some User.unusablePassword }

theorem valid_locking : locking.Valid := by decide

theorem valid_softDelete : softDelete.Valid := by decide

/-- A valid patch makes a valid user of a valid one. -/
theorem Valid.apply {p : UserPatch} {u : User} (hp : p.Valid) (hu : u.Valid) : (p.apply u).Valid := by
  refine violations_apply UserPatch.apply ?_ hp hu
  exact .cons ⟨rfl, fun p u => some_getD_cases p.username u.username⟩ <|
    .cons ⟨rfl, fun p u => some_getD_cases p.email u.email⟩ <|
    .cons ⟨rfl, fun p u => some_getD_cases p.firstName u.firstName⟩ <|
    .cons ⟨rfl, fun p u => some_getD_cases p.lastName u.lastName⟩ <|
    .cons ⟨rfl, fun p u => some_getD_cases p.password u.password⟩ .nil

/-- Two valid patches make a valid one. -/
theorem Valid.merge {p q : UserPatch} (hp : p.Valid) (hq : q.Valid) : (p.merge q).Valid := by
  refine violations_apply (fun q p => p.merge q) ?_ hq hp
  exact .cons ⟨rfl, fun q p => or_cases q.username p.username⟩ <|
    .cons ⟨rfl, fun q p => or_cases q.email p.email⟩ <|
    .cons ⟨rfl, fun q p => or_cases q.firstName p.firstName⟩ <|
    .cons ⟨rfl, fun q p => or_cases q.lastName p.lastName⟩ <|
    .cons ⟨rfl, fun q p => or_cases q.password p.password⟩ .nil

end UserPatch

/-- The unusable password is a valid one. -/
theorem User.Valid.unusable {u : User} (h : u.Valid) : ({ u with password := User.unusablePassword } : User).Valid :=
  UserPatch.valid_locking.apply h

namespace Accounts

/-- A valid user is stored as a valid one. -/
theorem valid_sealed {u : User} (h : u.Valid) : (Accounts.sealed u).Valid := by
  unfold Accounts.sealed
  split
  · exact h.unusable
  · exact h

/-- A valid patch is applied as a valid one. -/
theorem valid_sealedPatch {p : UserPatch} (h : p.Valid) : (sealedPatch p).Valid := by
  unfold sealedPatch
  split
  · exact h.merge UserPatch.valid_locking
  · exact h

end Accounts

/-! ## Organizations -/

/-- An organization breaks no rule. -/
def Organization.Valid (o : Organization) : Prop := o.violations = []

/-- A patch of an organization breaks no rule. -/
def OrganizationPatch.Valid (p : OrganizationPatch) : Prop := p.violations = []

instance (o : Organization) : Decidable o.Valid := inferInstanceAs (Decidable (_ = _))

instance (p : OrganizationPatch) : Decidable p.Valid := inferInstanceAs (Decidable (_ = _))

namespace OrganizationPatch

theorem valid_softDelete : softDelete.Valid := by decide

/-- A valid patch makes a valid organization of a valid one. -/
theorem Valid.apply {p : OrganizationPatch} {o : Organization} (hp : p.Valid) (ho : o.Valid) : (p.apply o).Valid := by
  refine violations_apply OrganizationPatch.apply ?_ hp ho
  exact .cons ⟨rfl, fun p o => some_getD_cases p.name o.name⟩ <|
    .cons ⟨rfl, fun p o => some_getD_cases p.email o.email⟩ <|
    .cons ⟨rfl, fun p o => or_cases p.logo o.logo⟩ <|
    .cons ⟨rfl, fun p o => or_cases p.website o.website⟩ .nil

end OrganizationPatch

end Tenancy
