/-!
# Labels

Statuses, kinds, roles and quotas are small closed sets of alternatives, each written as one label. A label is read
back by looking it up among all alternatives. Roles of members and features are open: they are finite sets of labels, kept as
lists in increasing order without repetition.
-/

namespace Tenancy

/-! ## Labelled alternatives -/

/-- A type of finitely many alternatives, listed in their order, each with a label. -/
class Labelled (α : Type) where
  /-- Every alternative once, in order. -/
  all : List α
  /-- The written form of an alternative. -/
  label : α → String

namespace Labelled

variable {α : Type} [Labelled α]

/-- The alternative with exactly this label. -/
def ofLabel? (s : String) : Option α :=
  (all (α := α)).find? fun a => label a == s

/-- The place of an alternative in the order of all of them. -/
def rank [BEq α] (a : α) : Nat :=
  (all (α := α)).findIdx (· == a)

end Labelled

/-! ## Sets of labels -/

/-- A finite set of strings, in increasing order. -/
structure LabelSet where
  items : List String
  increasing : items.Pairwise (· < ·) := by decide
deriving DecidableEq

namespace LabelSet

/-- Puts a label into an increasing list. -/
def insertItem (s : String) : List String → List String
  | [] => [s]
  | t :: ts => if s < t then s :: t :: ts else if s = t then t :: ts else t :: insertItem s ts

theorem mem_insertItem {a s : String} {ts : List String} : a ∈ insertItem s ts ↔ a = s ∨ a ∈ ts := by
  induction ts with
  | nil => simp [insertItem]
  | cons t ts ih =>
    unfold insertItem
    split
    · simp
    · split
      · next h => subst h; simp
      · simp only [List.mem_cons, ih]
        constructor
        · rintro (h | h | h) <;> simp [h]
        · rintro (h | h | h) <;> simp [h]

theorem pairwise_insertItem {s : String} {ts : List String} (h : ts.Pairwise (· < ·)) :
    (insertItem s ts).Pairwise (· < ·) := by
  induction ts with
  | nil => simp [insertItem]
  | cons t ts ih =>
    rw [List.pairwise_cons] at h
    unfold insertItem
    split
    · next hst =>
      rw [List.pairwise_cons, List.pairwise_cons]
      refine ⟨fun a ha => ?_, h⟩
      rcases List.mem_cons.mp ha with ha | ha
      · exact ha ▸ hst
      · exact String.lt_trans hst (h.1 a ha)
    · next hst =>
      split
      · exact List.pairwise_cons.mpr h
      · next hne =>
        refine List.pairwise_cons.mpr ⟨fun a ha => ?_, ih h.2⟩
        rcases mem_insertItem.mp ha with ha | ha
        · exact ha ▸ Std.lt_of_le_of_ne (String.not_lt.mp hst) (Ne.symm hne)
        · exact h.1 a ha

/-- The set without labels. -/
def empty : LabelSet := ⟨[], by simp⟩

/-- The set with one more label. -/
def insert (s : String) (set : LabelSet) : LabelSet := ⟨insertItem s set.items, pairwise_insertItem set.increasing⟩

/-- The set of the labels of a list. -/
def ofList (labels : List String) : LabelSet := labels.foldl (fun set s => set.insert s) empty

/-- Whether a label is in the set. -/
def contains (set : LabelSet) (s : String) : Bool := set.items.contains s

instance : Inhabited LabelSet := ⟨empty⟩

end LabelSet

end Tenancy
