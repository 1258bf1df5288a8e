import Mathlib.Data.List.Nodup
import Tenancy.Json.Decoder
import Tenancy.Proofs.Json.Reordered

/-!
# What decoders recover

A decoder recovers a value from its written form when it reads the value from every order of that form, at once and
set aside. There is one rule for each way of putting a decoder together, so that a record is recovered field by field.
Underneath stands `fill_eq`: filling the places of a record from an object comes to looking up each name.
-/

namespace Tenancy

/-- Alternatives that are told apart by their labels. -/
class LawfulLabelled (α : Type) [Labelled α] : Prop where
  ofLabel?_label (a : α) : Labelled.ofLabel? (Labelled.label a) = some a

/-- Alternatives that are told apart have labels of their own. -/
theorem Labelled.label_injective {α : Type} [Labelled α] [LawfulLabelled α] :
    Function.Injective (Labelled.label (α := α)) := by
  intro a b h
  have found := LawfulLabelled.ofLabel?_label a
  rw [h, LawfulLabelled.ofLabel?_label] at found
  exact (Option.some.inj found).symm

namespace Json

open List

variable {α β : Type}

/-! ## Lists of readings -/

/-- A list of readings succeeds exactly when each reading does. -/
theorem mapM_eq_ok_iff {ε : Type} {f : α → Except ε β} {as : List α} {bs : List β} :
    as.mapM f = .ok bs ↔ Forall₂ (fun a b => f a = .ok b) as bs := by
  induction as generalizing bs with
  | nil => cases bs <;> simp [pure, Except.pure]
  | cons a as ih =>
    rw [List.mapM_cons, List.forall₂_cons_left_iff]
    cases f a with
    | error e => simp [bind, Except.bind]
    | ok b =>
      cases hm : as.mapM f with
      | error e =>
        have : ∀ bs, ¬ Forall₂ (fun a b => f a = .ok b) as bs := fun bs h => by simp [ih.mpr h] at hm
        simp [bind, Except.bind, this]
      | ok rest =>
        constructor
        · rintro ⟨⟩
          exact ⟨b, rest, rfl, ih.mp hm, rfl⟩
        · rintro ⟨b', rest', hb, h, rfl⟩
          cases hb
          cases hm.symm.trans (ih.mpr h)
          rfl

/-! ## Decoders -/

/-- The decoder reads `a` from every order of `j`. -/
def Decoder.Recovers (d : Decoder α) (j : Json) (a : α) : Prop :=
  ∀ arrival j', Reordered j j' → d.judge arrival j' = .ok a

namespace Decoder

variable {d : Decoder α} {j : Json} {a : α}

/-- What a decoder recovers can be turned into something else. -/
theorem Recovers.map (h : d.Recovers j a) (f : α → β) : (d.map f).Recovers j (f a) := by
  intro arrival j' hj
  show (d.judge arrival j').map f = _
  rw [h arrival j' hj]
  rfl

/-- A reader of texts recovers what it reads from a text. -/
theorem recovers_ofText {expected s : String} {parse : String → Except String α} (h : parse s = .ok a) :
    (ofText expected parse).Recovers (.string s) a := by
  rintro arrival _ ⟨⟩
  exact h

/-- Every text is recovered. -/
theorem recovers_text (s : String) : text.Recovers (.string s) s := recovers_ofText rfl

/-- A number that fits into 32 bits is read as itself. -/
theorem natural32OfJson_toNat (n : UInt32) : natural32OfJson (.integer n.toNat) = .ok n := by
  have bound : (n.toNat : Int) < 4294967296 := by have := n.toNat_lt; omega
  rw [natural32OfJson, if_pos ⟨by omega, bound⟩]
  simp

/-- Every number of 32 bits is recovered. -/
theorem recovers_natural32 (n : UInt32) : natural32.Recovers (.integer n.toNat) n := by
  generalize hk : (n.toNat : Int) = k
  rintro arrival _ ⟨⟩
  show natural32OfJson (.integer k) = .ok n
  rw [← hk, natural32OfJson_toNat]

/-- `null` is recovered as nothing. -/
theorem recovers_nullable_none : d.nullable.Recovers .null none := by
  rintro arrival _ ⟨⟩
  rfl

/-- Whatever is not written as `null` is recovered as something. -/
theorem Recovers.nullable (h : d.Recovers j a) (hn : j ≠ .null) : d.nullable.Recovers j (some a) := by
  intro arrival j' hj
  have judged : (d.judge arrival j').map some = .ok (some a) := by rw [h arrival j' hj]; rfl
  cases hj with
  | null => exact absurd rfl hn
  | _ => exact judged

/-- A list is recovered when each of its items is. -/
theorem recovers_list (write : α → Json) {as : List α} (h : ∀ a ∈ as, d.Recovers (write a) a) :
    d.list.Recovers (.array (as.map write)) as := by
  intro arrival j' hj
  cases hj with
  | @array _ items each =>
    show items.mapM (d.judge arrival) = .ok as
    rw [mapM_eq_ok_iff]
    rw [List.forall₂_map_left_iff] at each
    induction each with
    | nil => exact .nil
    | @cons a item as _ hj _ ih =>
      exact .cons (h a (by simp) arrival item hj) (ih fun b hb => h b (by simp [hb]))

section

variable [Labelled α] [LawfulLabelled α]

/-- A label stands for its alternative. -/
theorem ofLabel_label (a : α) : ofLabel (Labelled.label a) = .ok a := by
  rw [ofLabel, LawfulLabelled.ofLabel?_label]

/-- Every alternative is recovered from its label. -/
theorem recovers_choice (a : α) : (choice (α := α)).Recovers (.string (Labelled.label a)) a := by
  rintro arrival _ ⟨⟩
  exact ofLabel_label a

/-- A table of different alternatives is read from every order of it as its entries, in some order. -/
theorem table_judge {d : Decoder β} (write : β → Json) {entries : List (α × β)} (hk : (entries.map Prod.fst).Nodup)
    (h : ∀ e ∈ entries, d.Recovers (write e.2) e.2) (arrival : Arrival) {j : Json}
    (hj : Reordered (.object (entries.map fun e => (Labelled.label e.1, write e.2))) j) :
    ∃ entries', (table (α := α) d).judge arrival j = .ok entries' ∧ entries' ~ entries := by
  have hn : (names (entries.map fun e => (Labelled.label e.1, write e.2))).Nodup := by
    have := hk.map Labelled.label_injective
    simpa [names, Function.comp_def] using this
  obtain ⟨same, fields', rfl, hs, hp⟩ := hj.fields hn
  rw [List.forall₂_map_left_iff] at hs
  have read : Forall₂ (fun (f : String × Json) (e : α × β) =>
      (do return (← ofLabel f.1, ← d.judge arrival f.2) : Except String (α × β)) = .ok e) same entries := by
    clear hj hk hn hp
    induction hs with
    | nil => exact .nil
    | @cons e f entries same hf _ ih =>
      refine .cons ?_ (ih fun e he => h e (by simp [he]))
      rw [← hf.1, ofLabel_label, h e (by simp) arrival f.2 hf.2]
      rfl
  obtain ⟨entries', hf, hp'⟩ := List.perm_comp_forall₂ hp read
  exact ⟨entries', mapM_eq_ok_iff.mpr hf, hp'⟩

end

end Decoder

/-! ## Records -/

namespace Fields

open Decoder

/-- Taking the place of one field is taking its name. -/
theorem set_place {specs : List Field} (hs : (specs.map Field.name).Nodup) {i : Nat} (hi : i < specs.length)
    (taken : String → Option Json) (value : Json) :
    (specs.map fun f => taken f.name).set i (some value) =
      specs.map fun f => Function.update taken specs[i].name (some value) f.name := by
  refine List.ext_getElem (by simp) fun k hk _ => ?_
  rw [List.length_set, List.length_map] at hk
  rw [List.getElem_set, List.getElem_map, List.getElem_map]
  split
  · next hik => subst hik; rw [Function.update_self]
  · next hik =>
    rw [Function.update_of_ne]
    intro he
    have same : (⟨i, by simpa⟩ : Fin (specs.map Field.name).length) = ⟨k, by simpa⟩ :=
      List.nodup_iff_injective_get.mp hs (by simp [he])
    exact hik (Fin.mk.inj same)

/-- Filling the places of a record from an object without repeated names looks up the name of each place that is still
free. -/
theorem fill_eq {arrival : Arrival} {specs : List Field} (hs : (specs.map Field.name).Nodup)
    {fields : List (String × Json)} (hn : (names fields).Nodup) (taken : String → Option Json)
    (free : ∀ name ∈ names fields, taken name = none)
    (check : ∀ f ∈ specs, ∀ j, (object fields).get? f.name = some j → f.check arrival j = .ok ()) :
    fill arrival specs (specs.map fun f => taken f.name) fields =
      .ok (specs.map fun f => ((object fields).get? f.name).or (taken f.name)) := by
  induction fields generalizing taken with
  | nil => exact congrArg Except.ok (List.map_congr_left fun f _ => rfl)
  | cons field fields ih =>
    obtain ⟨name, value⟩ := field
    rw [names_cons, List.nodup_cons] at hn
    have absent : (object fields).get? name = none := get?_eq_none_iff.mpr hn.1
    have later : ∀ f ∈ specs, ∀ j, (object fields).get? f.name = some j → f.check arrival j = .ok () := by
      intro f hf j hj
      refine check f hf j ?_
      rw [get?_cons, if_neg, hj]
      rintro rfl
      simp [absent] at hj
    rw [fill]
    split
    · next hi =>
      -- No field of the record has this name: the places stay as they are.
      rw [List.findIdx?_eq_none_iff] at hi
      rw [ih hn.2 _ (fun n h => free n (by simp [names_cons, h])) later]
      congr 1
      refine List.map_congr_left fun f hf => ?_
      have other : name ≠ f.name := fun he => by simpa [he] using hi f hf
      rw [get?_cons, if_neg other]
    · next i hi =>
      obtain ⟨hlt, hname, -⟩ := List.findIdx?_eq_some_iff_getElem.mp hi
      rw [beq_iff_eq] at hname
      have place : (specs.map fun f => taken f.name)[i]? = some none := by
        rw [List.getElem?_map, List.getElem?_eq_getElem hlt]
        simp [hname, free name (by simp [names_cons])]
      have passes : specs[i].check arrival value = .ok () :=
        check _ (List.getElem_mem hlt) value (by rw [get?_cons, if_pos hname.symm])
      rw [List.getElem?_eq_getElem hlt, place]
      simp only [passes]
      rw [set_place hs hlt, hname, ih hn.2 _ ?_ later]
      · congr 1
        refine List.map_congr_left fun f _ => ?_
        rw [get?_cons]
        by_cases hf : name = f.name
        · rw [if_pos hf, ← hf, absent, Function.update_self]
          simp
        · rw [if_neg hf, Function.update_of_ne (Ne.symm hf)]
      · intro n h
        rw [Function.update_of_ne, free n (by simp [names_cons, h])]
        rintro rfl
        exact hn.1 h

/-- From fields as `look` finds them, in every order of each, the record is made to be `a`, and each field found is what
it must be. -/
structure Recovers (fs : Fields α) (look : String → Option Json) (a : α) : Prop where
  check (arrival : Arrival) {f : Field} {j j' : Json} (hf : f ∈ fs.specs) (hl : look f.name = some j)
    (hj : Reordered j j') : f.check arrival j' = .ok ()
  build (arrival : Arrival) {look' : String → Option Json}
    (found : ∀ name, Option.Rel Reordered (look name) (look' name)) :
    fs.build arrival (fs.specs.map fun f => look' f.name) = .ok a

variable {look : String → Option Json} {name : String} {d : Decoder α} {j : Json} {a : α}

/-- A value that needs no field is recovered from any object. -/
theorem recovers_pure : (Fields.pure a).Recovers look a := ⟨nofun, fun _ _ _ => rfl⟩

/-- Two parts of a record are recovered together. -/
theorem Recovers.seq {f : Fields (α → β)} {x : Fields α} {g : α → β} (hf : f.Recovers look g)
    (hx : x.Recovers look a) : (f <*> x).Recovers look (g a) where
  check arrival {spec _ _} h hl hj := by
    rcases List.mem_append.mp h with h | h
    · exact hf.check arrival h hl hj
    · exact hx.check arrival h hl hj
  build arrival look' found := by
    have left := hf.build arrival found
    have right := hx.build arrival found
    show (do
      let g ← f.build arrival (((f.specs ++ x.specs).map fun s : Field => look' s.name).take f.specs.length)
      let a ← x.build arrival (((f.specs ++ x.specs).map fun s : Field => look' s.name).drop f.specs.length)
      return g a) = _
    rw [List.map_append, List.take_left' (by simp), List.drop_left' (by simp), left, right]
    rfl

/-- What fields recover can be turned into something else. -/
theorem Recovers.map {x : Fields α} (hx : x.Recovers look a) (g : α → β) : (g <$> x).Recovers look (g a) :=
  recovers_pure.seq hx

/-- A record of one field that is there. -/
theorem recovers_single {fs : Fields α} {f : Field} (hs : fs.specs = [f]) (hl : look f.name = some j)
    (check : ∀ arrival j', Reordered j j' → f.check arrival j' = .ok ())
    (build : ∀ arrival j', Reordered j j' → fs.build arrival [some j'] = .ok a) : fs.Recovers look a where
  check arrival {g i j'} hg hi hj := by
    obtain rfl := List.mem_singleton.mp (hs ▸ hg)
    obtain rfl : j = i := Option.some.inj (hl.symm.trans hi)
    exact check arrival j' hj
  build arrival look' found := by
    rw [hs, List.map_singleton]
    have hf := found f.name
    rw [hl] at hf
    generalize look' f.name = value at hf
    cases hf with
    | some hj => exact build arrival _ hj

/-- A record of one field that is not there. -/
theorem recovers_missing {fs : Fields α} {f : Field} (hs : fs.specs = [f]) (hl : look f.name = none)
    (build : ∀ arrival, fs.build arrival [none] = .ok a) : fs.Recovers look a where
  check arrival {g _ _} hg hi := by
    obtain rfl := List.mem_singleton.mp (hs ▸ hg)
    cases hl.symm.trans hi
  build arrival look' found := by
    rw [hs, List.map_singleton]
    have hf := found f.name
    rw [hl] at hf
    generalize look' f.name = value at hf
    cases hf with
    | none => exact build arrival

/-- A required field is recovered from its value. -/
theorem recovers_required (hl : look name = some j) (h : d.Recovers j a) : (required name d).Recovers look a :=
  recovers_single rfl hl (h.map fun _ => ()) h

/-- An optional field that is there is recovered from its value. -/
theorem recovers_optional {o : Option α} (hl : look name = some j) (h : d.nullable.Recovers j o) :
    (optional name d).Recovers look o :=
  recovers_single rfl hl (h.map fun _ => ()) h

/-- An optional field that is not there is recovered as nothing. -/
theorem recovers_absent (hl : look name = none) : (optional name d).Recovers look none :=
  recovers_missing rfl hl fun _ => rfl

/-- A field with a default is recovered from its value, when it is there. -/
theorem recovers_defaulted {default : α} (hl : look name = some j) (h : d.Recovers j a) :
    (defaulted name d default).Recovers look a :=
  recovers_single rfl hl (h.map fun _ => ()) h

/-- A field with a default is recovered as the default, when it is not there. -/
theorem recovers_default {default : α} (hl : look name = none) : (defaulted name d default).Recovers look default :=
  recovers_missing rfl hl fun _ => rfl

variable {fields : List (String × Json)} {fs : Fields α}

/-- The places of a record are filled from every order of an object with what the names find there. -/
theorem Recovers.fill (h : fs.Recovers (object fields).get? a) (hs : (fs.specs.map Field.name).Nodup)
    (arrival : Arrival) {fields' : List (String × Json)} (hn : (names fields').Nodup)
    (found : ∀ name, Option.Rel Reordered ((object fields).get? name) ((object fields').get? name)) :
    Fields.fill arrival fs.specs fs.blank fields' = .ok (fs.specs.map fun f => (object fields').get? f.name) := by
  have check : ∀ f ∈ fs.specs, ∀ j, (object fields').get? f.name = some j → f.check arrival j = .ok () := by
    intro f hf j hj
    have hr := found f.name
    rw [hj] at hr
    cases hl : (object fields).get? f.name with
    | none => rw [hl] at hr; cases hr
    | some i => rw [hl] at hr; cases hr with | some hij => exact h.check arrival hf hl hij
  have filled := fill_eq hs hn (fun _ => none) (fun _ _ => rfl) check
  rw [blank, ← List.map_const']
  simpa using filled

/-- A record that is recovered by name is read from every order of its fields. -/
theorem Recovers.ofFields (h : fs.Recovers (object fields).get? a) (hs : (fs.specs.map Field.name).Nodup)
    (arrival : Arrival) {fields' : List (String × Json)} (hn : (names fields').Nodup)
    (found : ∀ name, Option.Rel Reordered ((object fields).get? name) ((object fields').get? name)) :
    fs.ofFields arrival fields' = .ok a := by
  rw [Fields.ofFields, h.fill hs arrival hn found]
  exact h.build arrival found

/-- The decoder of a record recovers it when it is recovered by name, and no name is used twice. -/
theorem Recovers.decoder (h : fs.Recovers (object fields).get? a) (hs : (fs.specs.map Field.name).Nodup)
    (hn : (names fields).Nodup) (title : String) : (fs.decoder title).Recovers (.object fields) a := by
  intro arrival j' hj
  obtain ⟨fields', rfl, hn', found⟩ := hj.get? hn
  exact h.ofFields hs arrival hn' found

/-- A record that lies in the object of another one is recovered along with it. -/
theorem Recovers.flattened {own : Fields β} {b : β} (h : fs.Recovers (object fields).get? a)
    (hs : (fs.specs.map Field.name).Nodup) (ho : own.Recovers (object fields).get? b)
    (hos : (own.specs.map Field.name).Nodup) (hn : (names fields).Nodup) (title : String) :
    (Fields.flattened title fs own).Recovers (.object fields) (a, b) := by
  intro arrival j' hj
  obtain ⟨fields', rfl, hn', found⟩ := hj.get? hn
  have filled := ho.fill hos arrival hn' found
  have built := ho.build arrival found
  have inner := h.ofFields hs .setAside hn' found
  simp only [Fields.flattened, filled, built, inner]
  rfl

end Fields

end Json

end Tenancy
