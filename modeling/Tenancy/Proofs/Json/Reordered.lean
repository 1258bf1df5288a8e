import Mathlib.Data.List.Perm.Basic
import Mathlib.Data.List.Forall2
import Tenancy.Json.Basic

/-!
# The order of fields

A value that was written need not be read with its fields in the order in which they were written: a tree of values
keeps them in the order of their names, and another writer in any order. `Reordered` relates a value to each of its
orders. As long as no name stands twice in an object, a field is found under its name in every order of it.
-/

namespace Tenancy.Json

open List

/-- The names of the fields of an object. -/
def names (fields : List (String × Json)) : List String := fields.map Prod.fst

/-- The second value is the first with the fields of every object put in some order. Of an object in which a name
stands twice, no field need be left. -/
inductive Reordered : Json → Json → Prop
  | null : Reordered .null .null
  | bool (b : Bool) : Reordered (.bool b) (.bool b)
  | integer (n : Int) : Reordered (.integer n) (.integer n)
  | float (x : Float) : Reordered (.float x) (.float x)
  | string (s : String) : Reordered (.string s) (.string s)
  | array {items items' : List Json} (each : Forall₂ Reordered items items') :
      Reordered (.array items) (.array items')
  | object {fields fields' : List (String × Json)} {values : List Json}
      (each : Forall₂ Reordered (fields.map Prod.snd) values)
      (order : (names fields).Nodup → fields' ~ (names fields).zip values) : Reordered (.object fields) (.object fields')

/-- Two fields of one name, the value of the second a reordering of that of the first. -/
def SameField (f g : String × Json) : Prop := f.1 = g.1 ∧ Reordered f.2 g.2

theorem names_cons (name : String) (value : Json) (fields : List (String × Json)) :
    names ((name, value) :: fields) = name :: names fields := rfl

theorem zip_names_values (fields : List (String × Json)) : (names fields).zip (fields.map Prod.snd) = fields := by
  simp [names, List.zip_map', List.map_id']

mutual

/-- Leaving every field where it is is one order. -/
theorem Reordered.refl : (j : Json) → Reordered j j
  | .null => .null
  | .bool b => .bool b
  | .integer n => .integer n
  | .float x => .float x
  | .string s => .string s
  | .array items => .array (Reordered.refl_items items)
  | .object fields => .object (Reordered.refl_values fields) fun _ => by rw [zip_names_values]

/-- The items of a list are reorderings of themselves. -/
theorem Reordered.refl_items : (items : List Json) → Forall₂ Reordered items items
  | [] => .nil
  | item :: items => .cons (Reordered.refl item) (Reordered.refl_items items)

/-- The values of an object are reorderings of themselves. -/
theorem Reordered.refl_values :
    (fields : List (String × Json)) → Forall₂ Reordered (fields.map Prod.snd) (fields.map Prod.snd)
  | [] => .nil
  | (_, value) :: fields => .cons (Reordered.refl value) (Reordered.refl_values fields)

end

/-! ## The canonical order -/

/-- A field of a new name is put somewhere among the others. -/
theorem perm_insertField {name : String} (value : Json) {fields : List (String × Json)} (h : name ∉ names fields) :
    insertField name value fields ~ (name, value) :: fields := by
  induction fields with
  | nil => exact .refl _
  | cons f fields ih =>
    obtain ⟨n, v⟩ := f
    rw [names_cons, List.mem_cons, not_or] at h
    rw [insertField, if_neg h.1]
    split
    · exact .refl _
    · exact ((ih h.2).cons _).trans (.swap _ _ _)

/-- Fields of different names are all kept when they are put in order. -/
theorem perm_canonicalFields (fields acc : List (String × Json)) (h : (names fields ++ names acc).Nodup) :
    canonicalFields fields acc ~ fields.map (Prod.map id canonical) ++ acc := by
  induction fields generalizing acc with
  | nil => rw [canonicalFields]; exact .refl _
  | cons f fields ih =>
    obtain ⟨name, value⟩ := f
    rw [names_cons, List.cons_append, List.nodup_cons, List.mem_append, not_or] at h
    have inserted := perm_insertField (canonical value) h.1.2
    have fresh : (names fields ++ names (insertField name (canonical value) acc)).Nodup := by
      have swapped : names fields ++ names (insertField name (canonical value) acc) ~
          name :: (names fields ++ names acc) :=
        ((inserted.map Prod.fst).append_left _).trans perm_middle
      exact swapped.nodup_iff.mpr (List.nodup_cons.mpr ⟨by simp [h.1], h.2⟩)
    rw [canonicalFields]
    exact (ih _ fresh).trans ((inserted.append_left _).trans perm_middle)

mutual

/-- The canonical form of a value is one order of it. -/
theorem Reordered.canonical : (j : Json) → Reordered j j.canonical
  | .null => .null
  | .bool b => .bool b
  | .integer n => .integer n
  | .float x => .float x
  | .string s => .string s
  | .array items => .array (Reordered.canonical_items items)
  | .object fields =>
    .object (Reordered.canonical_values fields) fun h => by
      have kept := perm_canonicalFields fields [] (by simpa [names] using h)
      rw [List.append_nil] at kept
      have : (names fields).zip (fields.map fun f => Json.canonical f.2) = fields.map (Prod.map id Json.canonical) := by
        rw [names, List.zip_map']; rfl
      rw [this]
      exact kept

/-- The items of a list are reordered by their canonical forms. -/
theorem Reordered.canonical_items : (items : List Json) → Forall₂ Reordered items (canonicalItems items)
  | [] => .nil
  | item :: items => .cons (Reordered.canonical item) (Reordered.canonical_items items)

/-- The values of an object are reordered by their canonical forms. -/
theorem Reordered.canonical_values : (fields : List (String × Json)) →
    Forall₂ Reordered (fields.map Prod.snd) (fields.map fun f => Json.canonical f.2)
  | [] => .nil
  | (_, value) :: fields => .cons (Reordered.canonical value) (Reordered.canonical_values fields)

end

/-! ## Finding fields -/

/-- To look up a name is to compare it with the first field's, and to go on with the rest. -/
theorem get?_cons (n : String) (v : Json) (fields : List (String × Json)) (name : String) :
    (object ((n, v) :: fields)).get? name = if n = name then some v else (object fields).get? name := by
  by_cases hn : n = name <;> simp [get?, hn]

/-- In two objects put together the first one is looked up first. -/
theorem get?_append (fields fields' : List (String × Json)) (name : String) :
    (object (fields ++ fields')).get? name = ((object fields).get? name).or ((object fields').get? name) := by
  simp [get?, Option.map_or]

/-- Nothing is found for a name exactly when no field has it. -/
theorem get?_eq_none_iff {fields : List (String × Json)} {name : String} :
    (object fields).get? name = none ↔ name ∉ names fields := by
  induction fields with
  | nil => simp [get?, names]
  | cons f fields ih =>
    obtain ⟨n, v⟩ := f
    rw [get?_cons, names_cons, List.mem_cons, not_or, ← ih]
    split
    · next hn => simp [hn]
    · next hn => simp [Ne.symm hn]

/-- Where no name is used twice, what is found for a name is the value of its field. -/
theorem get?_eq_some_iff {fields : List (String × Json)} (h : (names fields).Nodup) {name : String} {value : Json} :
    (object fields).get? name = some value ↔ (name, value) ∈ fields := by
  induction fields with
  | nil => simp [get?]
  | cons f fields ih =>
    obtain ⟨n, v⟩ := f
    rw [names_cons, List.nodup_cons] at h
    rw [get?_cons, List.mem_cons]
    split
    · next hn =>
      subst hn
      have absent : (n, value) ∉ fields := fun hm => h.1 (List.mem_map_of_mem hm)
      simp [absent, eq_comm]
    · next hn => simp [Ne.symm hn, ih h.2]

/-- A name finds the same field in every order of fields without repetition. -/
theorem get?_perm {fields fields' : List (String × Json)} (hp : fields' ~ fields) (h : (names fields).Nodup)
    (name : String) : (object fields').get? name = (object fields).get? name := by
  have h' : (names fields').Nodup := (hp.map Prod.fst).nodup_iff.mpr h
  ext value
  rw [get?_eq_some_iff h, get?_eq_some_iff h', hp.mem_iff]

/-- Fields that are the same one by one have the same names. -/
theorem names_of_sameFields {fields fields' : List (String × Json)} (h : Forall₂ SameField fields fields') :
    names fields' = names fields := by
  induction h with
  | nil => rfl
  | @cons f g _ _ hfg _ ih => rw [names, List.map_cons, ← names, ih, ← hfg.1]; rfl

/-- Fields that are the same one by one give the same to every look-up, up to order. -/
theorem get?_of_sameFields {fields fields' : List (String × Json)} (h : Forall₂ SameField fields fields')
    (name : String) : Option.Rel Reordered ((object fields).get? name) ((object fields').get? name) := by
  induction h with
  | nil => exact .none
  | @cons f g _ _ hfg _ ih =>
    obtain ⟨n, v⟩ := f
    obtain ⟨n', v'⟩ := g
    obtain ⟨rfl, hv⟩ : n = n' ∧ Reordered v v' := hfg
    rw [get?_cons, get?_cons]
    split
    · exact .some hv
    · exact ih

/-- An order of an object without repeated names: reorderings of its fields in their places, then permuted. -/
theorem Reordered.fields {fields : List (String × Json)} {j : Json} (h : Reordered (.object fields) j)
    (hn : (names fields).Nodup) :
    ∃ same fields', j = .object fields' ∧ Forall₂ SameField fields same ∧ fields' ~ same := by
  cases h with
  | @object _ fields' values each order =>
    refine ⟨(names fields).zip values, fields', rfl, ?_, order hn⟩
    clear order hn
    induction fields generalizing values with
    | nil => cases each; exact .nil
    | cons f fields ih =>
      cases each with
      | cons hv each => exact .cons ⟨rfl, hv⟩ (ih each)

/-- An order of an object without repeated names is such an object, and each name finds the same value up to order. -/
theorem Reordered.get? {fields : List (String × Json)} {j : Json} (h : Reordered (.object fields) j)
    (hn : (names fields).Nodup) :
    ∃ fields', j = .object fields' ∧ (names fields').Nodup ∧
      ∀ name, Option.Rel Reordered ((Json.object fields).get? name) (j.get? name) := by
  obtain ⟨same, fields', rfl, hs, hp⟩ := h.fields hn
  have hn' : (names same).Nodup := names_of_sameFields hs ▸ hn
  refine ⟨fields', rfl, (hp.map Prod.fst).nodup_iff.mpr hn', fun name => ?_⟩
  rw [get?_perm hp hn']
  exact get?_of_sameFields hs name

end Tenancy.Json
