import Tenancy.Context.Desk
import Tenancy.Proofs.Context.Derivation

/-!
# Every derivation is sound

Whatever is done on a desk could have been done in a grove, where every context that was ever made can still be asked for:
the contexts that a desk keeps under its names are contexts of the grove. `derivation_sound` says what holds of them all.
-/

namespace Tenancy

namespace Desk

/-- Whether a step only makes contexts, cancels one, or lets time pass. -/
def Step.derives : Step → Bool
  | .run .. => false
  | _ => true

/-- The desk after some steps, one after the other. -/
def run (d : Desk) (steps : List Step) : Desk := steps.foldl (fun d s => (d.step s).1) d

/-- A desk keeps contexts of a grove, on its timeline. -/
structure Keeps (d : Desk) (g : Grove) : Prop where
  timeline : d.timeline = g.timeline
  contexts : ∀ c ∈ d.contexts, ∃ i, g.context? i = some c.2

variable {d : Desk} {g : Grove}

theorem Keeps.put (h : d.Keeps g) (name : String) {i : Nat} {ctx : Context} (made : g.context? i = some ctx) :
    (d.put name ctx).Keeps g := by
  refine ⟨h.timeline, fun c kept => ?_⟩
  rcases List.mem_append.mp kept with before | new
  · exact h.contexts c (List.mem_of_mem_filter before)
  · exact ⟨i, by rw [List.mem_singleton.mp new, made]⟩

/-- What comes about in the grove can be kept on the desk. -/
theorem Keeps.make (h : d.Keeps g) {origin : Origin} {ctx : Context} {timeline : Timeline}
    (made : g.make? origin = some (ctx, timeline)) :
    Keeps { d with timeline } (g.step (.make origin)) ∧ ∃ i, (g.step (.make origin)).context? i = some ctx := by
  obtain ⟨timeline', last⟩ := Grove.context?_make made
  refine ⟨⟨timeline'.symm, fun c kept => ?_⟩, _, last⟩
  obtain ⟨i, before⟩ := h.contexts c kept
  exact ⟨i, Grove.context?_step before _⟩

/-- The context under a name is one of the grove, or a new one, which comes about first. -/
theorem Keeps.named (h : d.Keeps g) (name : String) : ∃ history, (d.named name).2.Keeps (g.run history) ∧
    ∃ i, (g.run history).context? i = some (d.named name).1 := by
  unfold Desk.named
  split
  · next ctx known =>
    obtain ⟨c, found, rfl⟩ := Option.map_eq_some_iff.mp known
    exact ⟨[], h, h.contexts c (List.mem_of_find?_eq_some found)⟩
  · have made : g.make? .fresh = some d.timeline.fresh := by rw [Grove.make?, ← h.timeline]
    exact ⟨[.make .fresh], h.make made⟩

/-- What is made from the context under a name comes about in the grove, too. -/
theorem Keeps.derive (h : d.Keeps g) (name target : String) {f : Context → Timeline → Context × Timeline} (origin : Nat → Origin)
    (made : ∀ (g : Grove) (i : Nat) (ctx : Context), g.context? i = some ctx → g.make? (origin i) = some (f ctx g.timeline)) :
    ∃ history, Keeps (({ (d.named name).2 with timeline := (f (d.named name).1 (d.named name).2.timeline).2 } : Desk).put target
      (f (d.named name).1 (d.named name).2.timeline).1) (g.run history) := by
  obtain ⟨history, keeps, i, found⟩ := h.named name
  have made := made _ i _ found
  rw [← keeps.timeline] at made
  obtain ⟨keeps', j, last⟩ := keeps.make made
  exact ⟨history ++ [.make (origin i)], by rw [Grove.run_append]; exact keeps'.put target last⟩

/-- The timeline stays what it is apart from the number of tokens when a context is new. -/
theorem now_named (d : Desk) (name : String) : (d.named name).2.timeline.now = d.timeline.now := by
  unfold Desk.named
  split <;> rfl

/-- A step leaves a desk in keeping with the grove that it grows into. -/
theorem Keeps.step (h : d.Keeps g) {s : Step} (derives : s.derives) : ∃ history, (d.step s).1.Keeps (g.run history) := by
  cases s with
  | fresh name =>
    have made : g.make? .fresh = some d.timeline.fresh := by rw [Grove.make?, ← h.timeline]
    obtain ⟨keeps, i, last⟩ := h.make made
    exact ⟨[.make .fresh], keeps.put name last⟩
  | withUser name user =>
    exact h.derive name name (f := fun ctx t => (ctx.withUser user, t)) (.withUser · user)
      fun g i ctx found => by rw [Grove.make?, found, Option.map_some]
  | withDeadline name deadline =>
    exact h.derive name name (f := fun ctx t => (ctx.withDeadline deadline, t)) (.withDeadline · deadline)
      fun g i ctx found => by rw [Grove.make?, found, Option.map_some]
  | withTimeout name timeout =>
    obtain ⟨history, keeps⟩ := h.derive name name (f := fun ctx t => (ctx.withTimeout t.now timeout, t)) (.withTimeout · timeout)
      fun g i ctx found => by rw [Grove.make?, found, Option.map_some]
    rw [now_named] at keeps
    exact ⟨history, keeps⟩
  | child name parent =>
    exact h.derive parent name (f := fun ctx t => t.child ctx) .child
      fun g i ctx found => by rw [Grove.make?, found, Option.map_some]
  | clone name source =>
    exact h.derive source name (f := fun ctx t => (ctx, t)) .clone
      fun g i ctx found => by rw [Grove.make?, found, Option.map_some]
  | cancel name =>
    obtain ⟨history, keeps, i, found⟩ := h.named name
    obtain ⟨m, found, context⟩ := Grove.context?_eq_some.mp found
    refine ⟨history ++ [.cancel i], ?_⟩
    rw [Grove.run_append]
    refine ⟨?_, fun c kept => ?_⟩
    · change _ = ((g.run history).step (.cancel i)).timeline
      rw [Grove.step_cancel found, ← keeps.timeline, context]
      rfl
    · obtain ⟨j, before⟩ := keeps.contexts c kept
      exact ⟨j, Grove.context?_step before (.cancel i)⟩
  | advance wait =>
    refine ⟨[.wait wait], ?_, fun c kept => ?_⟩
    · change d.timeline.advance wait = g.timeline.advance wait
      rw [h.timeline]
    · obtain ⟨j, before⟩ := h.contexts c kept
      exact ⟨j, Grove.context?_step before (.wait wait)⟩
  | run name wait cancelAfter => cases derives

/-- The contexts that a desk keeps are contexts of a grove. -/
theorem Keeps.run (h : d.Keeps g) {steps : List Step} (derives : ∀ s ∈ steps, s.derives) :
    ∃ history, (d.run steps).Keeps (g.run history) := by
  induction steps generalizing d g with
  | nil => exact ⟨[], h⟩
  | cons s steps ih =>
    obtain ⟨history, keeps⟩ := h.step (derives s List.mem_cons_self)
    obtain ⟨more, keeps⟩ := ih keeps fun s listed => derives s (List.mem_cons_of_mem _ listed)
    exact ⟨history ++ more, by rw [Grove.run_append]; exact keeps⟩

/-- An empty desk keeps an empty grove. -/
theorem keeps_empty : Keeps {} {} := ⟨rfl, fun c kept => by cases kept⟩

end Desk

/-- **What a context owes to the contexts it derives from.** Contexts are made from each other, cancelled, and waited on, in any
order and at any times. Of every one of them, at every time, the deadline is the earliest of those that were applied on the path
back to a new context, and never after that of its source; it is cancelled exactly by those that share its token or that its
token descends from; once it is done it stays done, and it is done when its source is; and it acts on behalf of the user that
was attached last on the path. The contexts that are kept under names are such contexts, whatever was done with the names. -/
theorem derivation_sound :
    (∀ steps, (Grove.run {} steps).Sound) ∧
    ∀ steps : List Desk.Step, (∀ s ∈ steps, s.derives) → ∃ history, (Desk.run {} steps).Keeps (Grove.run {} history) :=
  ⟨fun steps => (Grove.rooted_empty.run steps).sound, fun _ derives => Desk.keeps_empty.run derives⟩

/-! ## A scene -/

/-- A request is cancelled of which a part was given less time. -/
def Desk.request : List Desk.Step :=
  [.withDeadline "request" 30, .child "part" "request", .withTimeout "part" 10, .advance 5, .cancel "request"]

/-- The part of the request is cancelled with it, before its deadline. -/
theorem derivation_sound_request :
    (∀ s ∈ Desk.request, s.derives) ∧
    (∃ history, (Desk.run {} Desk.request).Keeps (Grove.run {} history)) ∧
    ((Desk.run {} Desk.request).context? "part").map (fun ctx =>
      (ctx.deadline, (Desk.run {} Desk.request).timeline.interruption? ctx)) = some (some 10, some .canceled) :=
  ⟨by decide, derivation_sound.2 Desk.request (by decide), by decide⟩

end Tenancy
