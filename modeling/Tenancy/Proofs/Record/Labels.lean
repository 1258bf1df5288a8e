import Mathlib.Data.List.Nodup
import Tenancy.Labels
import Tenancy.License

/-!
# Sets and caps from lists

A set of labels is made again of its own list, and the caps of a license of its list of caps in any order.
-/

namespace Tenancy

namespace LabelSet

/-- A label that comes after all others is put at their end. -/
theorem insertItem_of_lt {s : String} {labels : List String} (h : ∀ t ∈ labels, t < s) :
    insertItem s labels = labels ++ [s] := by
  induction labels with
  | nil => rfl
  | cons t labels ih =>
    have ht : t < s := h t List.mem_cons_self
    rw [insertItem, if_neg (String.lt_asymm ht), if_neg (by rintro rfl; exact String.lt_irrefl _ ht),
      ih fun a ha => h a (List.mem_cons_of_mem t ha), List.cons_append]

/-- Labels that come after those of a set, in order, are put at their end. -/
theorem items_foldl_insert (set : LabelSet) (labels : List String) (h : (set.items ++ labels).Pairwise (· < ·)) :
    (labels.foldl (fun set s => set.insert s) set).items = set.items ++ labels := by
  induction labels generalizing set with
  | nil => simp
  | cons s labels ih =>
    have last : ∀ t ∈ set.items, t < s := fun t ht => (List.pairwise_append.mp h).2.2 t ht s List.mem_cons_self
    have inserted : (set.insert s).items = set.items ++ [s] := insertItem_of_lt last
    rw [List.foldl_cons, ih _ (by simpa [inserted] using h), inserted, List.append_assoc, List.singleton_append]

/-- Sets with the same labels in order are the same. -/
theorem eq_of_items {set set' : LabelSet} (h : set.items = set'.items) : set = set' := by
  obtain ⟨items, increasing⟩ := set
  obtain ⟨items', increasing'⟩ := set'
  obtain rfl : items = items' := h
  rfl

/-- A set is made again of its labels. -/
theorem ofList_items (set : LabelSet) : ofList set.items = set :=
  eq_of_items (items_foldl_insert empty set.items set.increasing)

end LabelSet

namespace License

/-- Among entries of different quotas, the cap of a quota is the one entered. -/
theorem capsOf_eq_some_iff {entries : List (Quota × UInt32)} (h : (entries.map Prod.fst).Nodup) {q : Quota}
    {cap : UInt32} : capsOf entries q = some cap ↔ (q, cap) ∈ entries := by
  rw [capsOf, Option.map_eq_some_iff]
  constructor
  · rintro ⟨e, he, rfl⟩
    have key : e.1 = q := by simpa using List.find?_some he
    exact key ▸ List.mem_reverse.mp (List.mem_of_find?_eq_some he)
  · intro hm
    have found : (entries.reverse.find? fun e => e.1 == q).isSome := by
      rw [List.find?_isSome]
      exact ⟨(q, cap), List.mem_reverse.mpr hm, by simp⟩
    obtain ⟨e, he⟩ := Option.isSome_iff_exists.mp found
    have key : e.1 = q := by simpa using List.find?_some he
    have same : e = (q, cap) :=
      List.inj_on_of_nodup_map h (List.mem_reverse.mp (List.mem_of_find?_eq_some he)) hm key
    exact ⟨e, he, congrArg Prod.snd same⟩

/-- The caps of a license are written with their quotas. -/
theorem mem_capList {l : License} {q : Quota} {cap : UInt32} : (q, cap) ∈ l.capList ↔ l.caps q = some cap := by
  have listed : q ∈ Labelled.all (α := Quota) := by cases q <;> decide
  simp only [capList, List.mem_filterMap, Option.map_eq_some_iff, Prod.mk.injEq]
  constructor
  · rintro ⟨_, -, _, h, rfl, rfl⟩
    exact h
  · exact fun h => ⟨q, listed, cap, h, rfl, rfl⟩

/-- No quota is written twice. -/
theorem nodup_capList (l : License) : (l.capList.map Prod.fst).Nodup := by
  have listed : (Labelled.all (α := Quota)).Nodup := by decide
  rw [capList, List.map_filterMap]
  refine List.Nodup.filterMap (fun q q' k hq hq' => ?_) listed
  simp only [Option.mem_def, Option.map_map, Option.map_eq_some_iff] at hq hq'
  obtain ⟨_, -, rfl⟩ := hq
  obtain ⟨_, -, h⟩ := hq'
  exact h.symm

/-- The caps of a license are those of its list of caps in any order. -/
theorem capsOf_perm {l : License} {entries : List (Quota × UInt32)} (h : entries.Perm l.capList) :
    capsOf entries = l.caps := by
  have keys : (entries.map Prod.fst).Nodup := (h.map Prod.fst).nodup_iff.mpr l.nodup_capList
  funext q
  ext cap
  rw [capsOf_eq_some_iff keys, h.mem_iff, mem_capList]

end License

end Tenancy
