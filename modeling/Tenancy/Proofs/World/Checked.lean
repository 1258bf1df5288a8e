import Mathlib.Data.Finset.Card
import Tenancy.Proofs.World.Table

/-!
# Worlds that check their answers

A world can be made to keep what is relied on of it: an answer that is not sound is withheld, and the call fails instead,
without effect (`World.checked`). The scene is made to count active records exactly, and to create organizations under ids
that occur nowhere (`Scene.strict`).
-/

namespace Tenancy

/-- The fault of a call whose collaborator is out of order. -/
def Call.outage : (c : Call) → c.Fault
  | users _ => RepositoryError.storage "unsound answer"
  | organizations _ => RepositoryError.storage "unsound answer"
  | permissions _ => RepositoryError.storage "unsound answer"
  | access _ => PermissionError.read
  | count _ => RepositoryError.storage "unsound answer"
  | send _ _ => DeliveryError.connection "unsound answer"
  | render path _ => TemplateError.notFound path

namespace World

variable {σ τ : Type} {w : World σ} {sound : σ → (c : Call) → c.Value → Bool} {s s' : σ} {e : Event}

/-- The world in which calls fail, without effect, when their answers are not sound. -/
def checked (w : World σ) (sound : σ → (c : Call) → c.Value → Bool) : World σ :=
  { w with
    answer := fun s ctx c =>
      match w.answer s ctx c with
      | (.ok v, s') => if sound s c v then (.ok v, s') else (.error (.failed c.outage), s)
      | (.error refusal, s') => (.error refusal, s')
    insist := fun s c =>
      match w.insist s c with
      | (.ok v, s') => if sound s c v then (.ok v, s') else (.error c.outage, s)
      | (.error fault, s') => (.error fault, s') }

/-- What comes to pass when answers are checked comes to pass without the check, unless nothing is done; and what is done is
sound. -/
theorem moves_checked (h : (w.checked sound).Moves s e s') :
    (w.Moves s e s' ∧ ∀ c v, e.done? = some ⟨c, v⟩ → sound s c v = true) ∨ s' = s ∧ e.done? = none := by
  cases e with
  | noted note => exact .inl ⟨h, fun _ _ hdone => nomatch hdone⟩
  | refused ctx c cause => exact .inl ⟨h, fun _ _ hdone => nomatch hdone⟩
  | surveyed ctx components reports notes => exact .inl ⟨h, fun _ _ hdone => nomatch hdone⟩
  | answered ctx c reply =>
    obtain ⟨hlive, hanswer⟩ := h
    simp only [checked] at hanswer
    split at hanswer
    · next v s₁ hreply =>
      split at hanswer
      · next hsound =>
        cases hanswer
        refine .inl ⟨⟨hlive, hreply⟩, fun c' v' hdone => ?_⟩
        cases hdone
        exact hsound
      · cases hanswer
        exact .inr ⟨rfl, rfl⟩
    · next refusal s₁ hreply =>
      cases hanswer
      exact .inl ⟨⟨hlive, hreply⟩, fun _ _ hdone => nomatch hdone⟩
  | insisted c reply =>
    have hanswer : (w.checked sound).insist s c = (reply, s') := h
    simp only [checked] at hanswer
    split at hanswer
    · next v s₁ hreply =>
      split at hanswer
      · next hsound =>
        cases hanswer
        refine .inl ⟨hreply, fun c' v' hdone => ?_⟩
        cases hdone
        exact hsound
      · cases hanswer
        exact .inr ⟨rfl, rfl⟩
    · next fault s₁ hreply =>
      cases hanswer
      exact .inl ⟨hreply, fun _ _ hdone => nomatch hdone⟩

/-- With its answers checked, a world follows a relation that holds of whatever is sound, and whenever nothing is done. -/
theorem follows_checked {view : σ → τ} {R : τ → Event → τ → Prop} (hidle : ∀ x e, e.done? = none → R x e x)
    (h : ∀ s e s', w.Moves s e s' → (∀ c v, e.done? = some ⟨c, v⟩ → sound s c v = true) → R (view s) e (view s')) :
    (w.checked sound).Follows view R := by
  intro s e s' hmoves
  rcases moves_checked hmoves with ⟨hmoves, hsound⟩ | ⟨rfl, hdone⟩
  · exact h s e s' hmoves hsound
  · exact hidle _ e hdone

end World

namespace Scene

/-- Whether an id names nothing that is stored about organizations. -/
def isUnused (s : Scene) (id : Id) : Bool :=
  s.store.organizations.all (fun o => o.id != id) && s.store.memberships.all (fun m => m.organization != id) &&
    s.store.permissions.all fun g => g.target != id

/-- Whether an answer is true of a scene: counts are those of the records that are active, and organizations are created under
unused ids. -/
def isSound (s : Scene) : (c : Call) → c.Value → Bool
  | .count .users, (n : Nat) => n == {u ∈ s.userTable | u.isActive}.card
  | .count .organizations, (n : Nat) => n == {o ∈ s.organizationTable | o.isActive}.card
  | .organizations (.create _ _), (created : Organization) => s.isUnused created.id
  | _, _ => true

/-- The scene as a world whose answers are checked. -/
def strict : World Scene := world.checked isSound

/-- A scene in which nothing is stored. -/
def blank : Scene where
  today := Store.creation

end Scene

end Tenancy
