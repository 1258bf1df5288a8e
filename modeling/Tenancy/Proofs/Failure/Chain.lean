import Mathlib.Data.List.Chain
import Mathlib.Logic.Relation
import Tenancy.Failure.Report

/-!
# Links of a chain

A failure is followed by what it was joined with, and so on inwards. `Link` and `Below` say which failures stand in the
chain of another, without reference to a list or to a search, and everything that looks into a chain is measured by
them: the search for a kind, the search for a type, and the wording.
-/

namespace Tenancy

namespace Failure

/-- The second failure is what the first was joined with. -/
def Joins (f g : Failure) : Prop := f.cause? = some g

/-- The second failure is a link of the chain of the first, which itself is one. -/
def Link : Failure → Failure → Prop := Relation.ReflTransGen Joins

/-- The second failure is a link strictly below the first. -/
def Below : Failure → Failure → Prop := Relation.TransGen Joins

/-- A link that is of the kind: a failure of a service, or the kind by itself. -/
def Names (k : ErrorKind) (f : Failure) : Prop := f = .kind k ∨ f = .service k ∨ ∃ cause, f = .joined k cause

/-- The links from the outside in: each joined with the next, and the last with nothing. -/
structure Path (f : Failure) (links : List Failure) : Prop where
  first : links.head? = some f
  joins : links.IsChain Joins
  ends : ∀ last ∈ links.getLast?, last.cause? = none

/-! ## Inwards -/

/-- Only a failure of a service is joined with anything. -/
theorem joins_iff {f g : Failure} : f.Joins g ↔ ∃ k, f = .joined k g := by
  cases f <;> simp [Joins, cause?]

/-- What holds where nothing was joined, and of a failure of a service if of its cause, holds of every failure. -/
@[elab_as_elim]
theorem inwards {P : Failure → Prop} (single : ∀ f, f.cause? = none → P f)
    (joined : ∀ k cause, P cause → P (.joined k cause)) (f : Failure) : P f := by
  induction f with
  | joined k cause ih => exact joined k cause ih
  | _ => exact single _ rfl

section
variable {f : Failure} (h : f.cause? = none)
include h

/-- A single failure names the kind that it has itself. -/
theorem names_of_single (k : ErrorKind) : f.names k = (f.kind? == some k) := by
  cases f with
  | joined k cause => cases h
  | _ => rfl

/-- In a single failure only the failure itself can be found. -/
theorem find?_of_single (sought : Family) : f.find? sought = if f.family = sought then some f else none := by
  cases f with
  | joined k cause => cases h
  | _ => rfl

/-- A single failure is its own chain. -/
theorem chain_of_single : f.chain = [f] := by
  cases f with
  | joined k cause => cases h
  | _ => rfl

/-- A single failure shows its own text. -/
theorem text_of_single (w : Wording) : f.text w = f.ownText w := by
  cases f with
  | joined k cause => cases h
  | _ => rfl

end

/-- A wrapper has no cause, as the error it stands for has none. It speaks as that error does, but is of another type. -/
theorem of_wrapped {f g : Failure} (h : f.wrapped? = some g) :
    f.cause? = none ∧ g.cause? = none ∧ (∀ w, f.ownText w = g.ownText w) ∧ f.family ≠ g.family := by
  unfold wrapped? at h
  split at h
  · obtain rfl := Option.some.inj h
    exact ⟨rfl, rfl, fun _ => rfl, nofun⟩
  · obtain rfl := Option.some.inj h
    exact ⟨rfl, rfl, fun _ => rfl, nofun⟩
  · cases h

/-! ## Links -/

/-- What lies below a failure are the links of its cause. -/
theorem below_iff {f g : Failure} : f.Below g ↔ ∃ cause, f.cause? = some cause ∧ cause.Link g :=
  Relation.TransGen.head'_iff

/-- The links of a failure are the failure and what lies below it. -/
theorem link_iff {f g : Failure} : f.Link g ↔ g = f ∨ f.Below g :=
  Relation.reflTransGen_iff_eq_or_transGen

theorem Link.refl (f : Failure) : f.Link f := Relation.ReflTransGen.refl

/-- Nothing lies below a single failure. -/
theorem not_below_of_single {f g : Failure} (h : f.cause? = none) : ¬f.Below g := by
  intro below
  obtain ⟨cause, joined, -⟩ := below_iff.mp below
  rw [h] at joined
  cases joined

/-- Where nothing was joined, the failure is its only link. -/
theorem link_iff_of_single {f g : Failure} (h : f.cause? = none) : f.Link g ↔ g = f := by
  rw [link_iff]
  exact or_iff_left (not_below_of_single h)

/-- What lies below a joined failure are the links of the cause joined to it. -/
theorem below_joined_iff {k : ErrorKind} {cause g : Failure} : (joined k cause).Below g ↔ cause.Link g := by
  simp [below_iff, cause?]

/-- The links of a joined failure are the failure and the links of the cause joined to it. -/
theorem link_joined_iff {k : ErrorKind} {cause g : Failure} :
    (joined k cause).Link g ↔ g = joined k cause ∨ cause.Link g := by
  rw [link_iff, below_joined_iff]

/-- No link of a failure is larger than the failure. -/
theorem Link.sizeOf_le {f g : Failure} (h : f.Link g) : sizeOf g ≤ sizeOf f := by
  induction h with
  | refl => exact Nat.le_refl _
  | tail _ joins ih =>
    obtain ⟨k, rfl⟩ := joins_iff.mp joins
    simp only [Failure.joined.sizeOf_spec] at ih
    omega

/-- Links are smaller than what they are links of, so two failures that are links of each other are the same. -/
theorem Link.antisymm {f g : Failure} (h : f.Link g) (back : g.Link f) : f = g := by
  rcases link_iff.mp h with rfl | below
  · rfl
  · obtain ⟨cause, joins, link⟩ := below_iff.mp below
    obtain ⟨k, rfl⟩ := joins_iff.mp joins
    have inner := link.sizeOf_le
    have outer := back.sizeOf_le
    simp only [Failure.joined.sizeOf_spec] at outer
    omega

/-! ## Searching a chain for a kind -/

/-- The kind of a failure is the one kind that it names at its head. -/
theorem kind?_eq_some_iff {f : Failure} {k : ErrorKind} : f.kind? = some k ↔ f.Names k := by
  cases f <;> simp [kind?, Names]

/-- The search for a kind looks at every link. -/
theorem names_iff {k : ErrorKind} {f : Failure} : f.names k = true ↔ ∃ g, f.Link g ∧ g.Names k := by
  induction f using inwards with
  | single f h => simp [names_of_single h, kind?_eq_some_iff, link_iff_of_single h]
  | joined k' cause ih =>
    have own : (joined k' cause).Names k ↔ k' = k := by simp [Names]
    simp [names, ih, link_joined_iff, or_and_right, exists_or, own]

/-! ## Searching a chain for a type -/

/-- The search for a type finds nothing only where no link is of the type. -/
theorem find?_eq_none_iff {sought : Family} {f : Failure} :
    f.find? sought = none ↔ ∀ g, f.Link g → g.family ≠ sought := by
  induction f using inwards with
  | single f h => simp [find?_of_single h, link_iff_of_single h]
  | joined k cause ih =>
    by_cases service : sought = .service
    · have found : ∃ g, (joined k cause).Link g ∧ g.family = sought := ⟨_, Link.refl _, service.symm⟩
      simpa [find?, service] using found
    · have other : (joined k cause).family ≠ sought := fun same => service same.symm
      simp [find?, service, ih, link_joined_iff, other]

/-- What the search for a type finds is a link of that type, and every link of that type is a link of it. -/
theorem find?_sound {sought : Family} {f g : Failure} (h : f.find? sought = some g) :
    f.Link g ∧ g.family = sought ∧ ∀ other, f.Link other → other.family = sought → g.Link other := by
  induction f using inwards with
  | single f single =>
    rw [find?_of_single single] at h
    split at h
    · rename_i same
      obtain rfl := Option.some.inj h
      exact ⟨Link.refl _, same, fun _ link _ => link⟩
    · cases h
  | joined k cause ih =>
    unfold find? at h
    split at h
    · rename_i service
      obtain rfl := Option.some.inj h
      exact ⟨Link.refl _, service.symm, fun _ link _ => link⟩
    · rename_i service
      obtain ⟨link, found, outermost⟩ := ih h
      refine ⟨link_joined_iff.mpr (.inr link), found, ?_⟩
      intro other below same
      rcases link_joined_iff.mp below with rfl | below
      · exact absurd same.symm service
      · exact outermost other below same

/-- The search for a type finds the outermost link of that type. -/
theorem find?_eq_some_iff {sought : Family} {f g : Failure} :
    f.find? sought = some g ↔
      f.Link g ∧ g.family = sought ∧ ∀ other, f.Link other → other.family = sought → g.Link other := by
  constructor
  · exact find?_sound
  · rintro ⟨link, same, outermost⟩
    cases found : f.find? sought with
    | none => exact absurd same (find?_eq_none_iff.mp found g link)
    | some first =>
      obtain ⟨link', same', outermost'⟩ := find?_sound found
      rw [(outermost' g link same).antisymm (outermost first link' same')]

/-! ## The wording of a chain -/

/-- The only path of a single failure is the failure itself. -/
theorem path_single_iff {f : Failure} {links : List Failure} (h : f.cause? = none) : Path f links ↔ links = [f] := by
  constructor
  · rintro ⟨first, joins, -⟩
    match links, first with
    | [_], rfl => rfl
    | _ :: next :: _, rfl =>
      have inner : _ = some next := (List.isChain_cons_cons.mp joins).1
      rw [h] at inner
      cases inner
  · rintro rfl
    exact ⟨rfl, .singleton f, by simpa using h⟩

/-- A path of a joined failure goes on with a path of the cause joined to it. -/
theorem path_joined_iff {k : ErrorKind} {cause : Failure} {links : List Failure} :
    Path (joined k cause) links ↔ ∃ rest, links = joined k cause :: rest ∧ Path cause rest := by
  constructor
  · rintro ⟨first, joins, ends⟩
    match links, first with
    | [_], rfl => exact absurd (ends _ rfl) nofun
    | _ :: next :: rest, rfl =>
      obtain ⟨inner, joins⟩ := List.isChain_cons_cons.mp joins
      obtain rfl : cause = next := Option.some.inj inner
      exact ⟨cause :: rest, rfl, rfl, joins, by simpa only [List.getLast?_cons_cons] using ends⟩
  · rintro ⟨rest, rfl, first, joins, ends⟩
    match rest, first with
    | next :: rest, rfl =>
      exact ⟨rfl, List.isChain_cons_cons.mpr ⟨rfl, joins⟩, by simpa only [List.getLast?_cons_cons] using ends⟩

/-- There is one way inwards, and `chain` lists it. -/
theorem path_iff {f : Failure} {links : List Failure} : Path f links ↔ links = f.chain := by
  induction f using inwards generalizing links with
  | single f h => rw [path_single_iff h, chain_of_single h]
  | joined k cause ih => simp only [path_joined_iff, ih, exists_eq_right, chain]

/-- The chain lists the links. -/
theorem mem_chain_iff {f g : Failure} : g ∈ f.chain ↔ f.Link g := by
  induction f using inwards with
  | single f h => rw [chain_of_single h, List.mem_singleton, link_iff_of_single h]
  | joined k cause ih => rw [chain, List.mem_cons, ih, link_joined_iff]

/-- A chain begins with its failure. -/
theorem chain_ne_nil (f : Failure) : f.chain ≠ [] := List.ne_nil_of_mem (mem_chain_iff.mpr (Link.refl f))

/-- The text of a failure is the texts of its links from the outside in. -/
theorem text_eq (w : Wording) (f : Failure) : f.text w = String.intercalate ": " (f.chain.map (ownText w)) := by
  induction f using inwards with
  | single f h => rw [text_of_single h, chain_of_single h, List.map_singleton, String.intercalate_singleton]
  | joined k cause ih =>
    rw [text, ih, chain, List.map_cons, String.intercalate_cons_of_ne_nil (by simpa using cause.chain_ne_nil)]
    rfl

/-- Only broken rules and crashed workers have no text in a report. -/
theorem reportedText?_eq_none_iff {f : Failure} : f.reportedText? = none ↔ (∃ v, f = .invalid v) ∨ f = .crashed := by
  cases f <;> simp [reportedText?]

/-- In a report, a link has the text that it has in any words. -/
theorem ownText_of_reported {f : Failure} {text : String} (h : f.reportedText? = some text) (w : Wording) :
    f.ownText w = text := by
  cases f with
  | invalid v => cases h
  | crashed => cases h
  | _ => exact Option.some.inj h

/-- Where all links have a text in a report, the text of the failure is the reported one. -/
theorem text_eq_reportedText {f : Failure} (h : ∀ g, f.Link g → g.reportedText? ≠ none) (w : Wording) :
    f.text w = f.reportedText := by
  have hreported : ∀ g ∈ f.chain, g.reportedText? = some (g.ownText w) := by
    intro g hg
    obtain ⟨text, htext⟩ := Option.ne_none_iff_exists'.mp (h g (mem_chain_iff.mp hg))
    rw [htext, ownText_of_reported htext w]
  rw [text_eq, reportedText, List.filterMap_congr hreported, List.filterMap_eq_map']

/-- A wrapper is one link: the error it stands for is none of its links, and gives it its text. -/
theorem wrapped_link {f g : Failure} (h : f.wrapped? = some g) :
    ¬f.Link g ∧ (∀ other, f.Link other ↔ other = f) ∧ ∀ w, f.text w = g.text w := by
  obtain ⟨single, single', own, apart⟩ := of_wrapped h
  refine ⟨?_, fun other => link_iff_of_single single, fun w => ?_⟩
  · intro link
    rw [link_iff_of_single single] at link
    exact apart (congrArg family link.symm)
  · rw [text_of_single single, text_of_single single', own w]

end Failure

namespace ServiceError

variable (e : ServiceError)

/-- What is asked of a failure of a service about its chain, and what is true of its links. -/
structure ReadsChain : Prop where
  /-- It is of a kind if a link is of the kind. -/
  is_iff : ∀ k, e.is k = true ↔ ∃ f, (e : Failure).Link f ∧ f.Names k
  /-- Where it was joined with a cause, that is its own kind or one named by the cause or below it. -/
  is_joined : ∀ cause, e.cause = some cause → ∀ k, e.is k = true ↔ e.kind = k ∨ ∃ f, cause.Link f ∧ f.Names k
  /-- A cause that is found is of the type sought, and all others of the type are below it. -/
  found_iff : ∀ sought f, e.findCause? sought = some f ↔
    (e : Failure).Below f ∧ f.family = sought ∧
      ∀ other, (e : Failure).Below other → other.family = sought → f.Link other
  missed_iff : ∀ sought, e.findCause? sought = none ↔ ∀ f, (e : Failure).Below f → f.family ≠ sought
  causeIs_iff : ∀ sought, e.causeIs sought = true ↔ ∃ f, (e : Failure).Below f ∧ f.family = sought
  /-- An error that wraps another is the last link. -/
  wrapped : ∀ f g, (e : Failure).Link f → f.wrapped? = some g →
    ¬f.Link g ∧ (∀ other, f.Link other ↔ other = f) ∧ ∀ w, f.text w = g.text w
  /-- The text is the texts of the links from the outside in, in whatever words broken rules and crashed workers have. In a report
  these are left out. -/
  text_path : ∃ links, (∀ other, (e : Failure).Path other ↔ other = links) ∧
    (∀ f, f ∈ links ↔ (e : Failure).Link f) ∧
    (∀ w, e.text w = String.intercalate ": " (links.map (Failure.ownText w))) ∧
    (∀ f ∈ links, f.reportedText? = none ↔ (∃ v, f = .invalid v) ∨ f = .crashed) ∧
    (∀ f ∈ links, ∀ text, f.reportedText? = some text → ∀ w, f.ownText w = text) ∧
    e.reportedText = String.intercalate ": " (links.filterMap Failure.reportedText?)
  /-- Where no link is left out, the text in a report is the text in any words. -/
  reported_whole : (∀ f, (e : Failure).Link f → f.reportedText? ≠ none) → ∀ w, e.text w = e.reportedText
  isBare_iff : ∀ k, e.isBare k = true ↔ e.kind = k ∧ e.cause = none
  is_of_isBare : ∀ k, e.isBare k = true → e.is k = true

/-- A service's error has the same cause when it is taken as a failure. -/
theorem cause?_toFailure : e.toFailure.cause? = e.cause := by
  obtain ⟨k, _ | cause⟩ := e <;> rfl

/-- What is below a failure of a service are the links of its cause. -/
theorem below_iff {f : Failure} : (e : Failure).Below f ↔ ∃ cause, e.cause = some cause ∧ cause.Link f := by
  rw [Failure.below_iff, cause?_toFailure]

/-- Being of a kind is naming it on the way inwards. -/
theorem is_eq (k : ErrorKind) : e.is k = e.toFailure.names k := by
  obtain ⟨kind, _ | cause⟩ := e
  · simp [is, toFailure, Failure.names, Failure.kind?]
  · rfl

/-- No cause of a family is found exactly when none lies below the error. -/
theorem findCause?_eq_none_iff {sought : Failure.Family} :
    e.findCause? sought = none ↔ ∀ f, (e : Failure).Below f → f.family ≠ sought := by
  cases joined : e.cause with
  | none => simp [findCause?, below_iff, joined]
  | some cause => simp [findCause?, below_iff, joined, Failure.find?_eq_none_iff]

/-- The cause that is found lies below the error, and above all others of its family. -/
theorem findCause?_eq_some_iff {sought : Failure.Family} {f : Failure} :
    e.findCause? sought = some f ↔ (e : Failure).Below f ∧ f.family = sought ∧
      ∀ other, (e : Failure).Below other → other.family = sought → f.Link other := by
  cases joined : e.cause with
  | none => simp [findCause?, below_iff, joined]
  | some cause => simp [findCause?, below_iff, joined, Failure.find?_eq_some_iff]

/-- An error has a cause of a family exactly when one lies below it. -/
theorem causeIs_iff {sought : Failure.Family} :
    e.causeIs sought = true ↔ ∃ f, (e : Failure).Below f ∧ f.family = sought := by
  rw [causeIs, Option.isSome_iff_ne_none, ne_eq, e.findCause?_eq_none_iff]
  push Not
  rfl

/-- A bare error has the kind and no cause. -/
theorem isBare_iff {k : ErrorKind} : e.isBare k = true ↔ e.kind = k ∧ e.cause = none := by
  simp [isBare, and_comm]

/-- Every failure of a service, however it was put together, answers for its chain. -/
theorem reads_chain : e.ReadsChain where
  is_iff k := by rw [is_eq, Failure.names_iff]
  is_joined cause joined k := by simp [is, joined, Failure.names_iff]
  found_iff sought f := e.findCause?_eq_some_iff
  missed_iff sought := e.findCause?_eq_none_iff
  causeIs_iff sought := e.causeIs_iff
  wrapped f g _ wraps := Failure.wrapped_link wraps
  text_path := ⟨e.toFailure.chain, fun _ => Failure.path_iff, fun _ => Failure.mem_chain_iff, fun w => Failure.text_eq w e,
    fun _ _ => Failure.reportedText?_eq_none_iff, fun _ _ _ reported => Failure.ownText_of_reported reported, rfl⟩
  reported_whole worded w := Failure.text_eq_reportedText worded w
  isBare_iff k := e.isBare_iff
  is_of_isBare k bare := by
    have same := (e.isBare_iff.mp bare).1
    simp [is, same]

/-- A lookup error that stands for an error of a store is found as a lookup error only. -/
example : (join .userGet (.joined .noPermission (.permission (.repository .notFound)))).findCause? .repository = none :=
  rfl

end ServiceError

end Tenancy
