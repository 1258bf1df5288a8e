import Tenancy.Context.Timeline

/-!
# When a context is done

A context is done when its token is cancelled, or when its deadline has come. Cancellations are not taken back and time does
not go back, so that a context that is done stays done.
-/

namespace Tenancy

namespace Timeline

variable {t t' : Timeline} {ctx : Context}

theorem isCancelled_iff {token : Token} : t.isCancelled token = true ↔ ∃ number ∈ token.lineage, number ∈ t.cancelled := by
  simp only [isCancelled, List.any_eq_true, List.contains_iff_mem]

/-- A context is cancelled by a cancellation when its lineage holds the first number of the cancelled one. -/
theorem isCancelled_cancel_iff {token : Token} : (t.cancel ctx).isCancelled token = true ↔
    (∃ number ∈ token.lineage, ctx.token.lineage.head? = some number) ∨ t.isCancelled token = true := by
  have first (number : Nat) : number ∈ ctx.token.lineage.take 1 ↔ ctx.token.lineage.head? = some number := by
    cases ctx.token.lineage <;> simp [eq_comm]
  simp only [isCancelled_iff, cancel, List.mem_append, first, and_or_left, exists_or]

/-- Cancellation wins over the deadline. -/
theorem interruption?_eq_canceled_iff : t.interruption? ctx = some .canceled ↔ t.isCancelled ctx.token = true := by
  unfold interruption?
  split
  · next hcancelled => simp [hcancelled]
  · next hcancelled => split <;> simp [hcancelled]

theorem interruption?_ne_none : t.interruption? ctx ≠ none ↔ t.isCancelled ctx.token = true ∨ ctx.isDue t.now = true := by
  unfold interruption?
  split
  · next hcancelled => simp [hcancelled]
  · next hcancelled =>
    split
    · next hdue => simp [hdue]
    · next hdue => simp [hcancelled, hdue]

/-- A context with a lineage that holds all numbers of another one, and with no later deadline, is done with it, also at a later
time after more cancellations. -/
theorem interruption?_ne_none_mono {later : Context} (h : t.interruption? ctx ≠ none)
    (hlineage : ctx.token.lineage ⊆ later.token.lineage)
    (hdeadline : ∀ late, ctx.deadline = some late → ∃ early, later.deadline = some early ∧ early ≤ late)
    (hcancelled : t.cancelled ⊆ t'.cancelled) (hnow : t.now ≤ t'.now) : t'.interruption? later ≠ none := by
  rw [interruption?_ne_none] at h ⊢
  rcases h with h | hdue
  · obtain ⟨number, hnumber, hlisted⟩ := isCancelled_iff.mp h
    exact .inl (isCancelled_iff.mpr ⟨number, hlineage hnumber, hcancelled hlisted⟩)
  · obtain ⟨late, hlate, hdue⟩ := (Option.any_eq_true _ _).mp hdue
    obtain ⟨early, hearly, hle⟩ := hdeadline late hlate
    have hpast : late ≤ t.now := of_decide_eq_true hdue
    exact .inr ((Option.any_eq_true _ _).mpr ⟨early, hearly, decide_eq_true (by omega)⟩)

/-- Time does not bring a context back. -/
theorem interruption?_moveTo (h : t.interruption? ctx ≠ none) (time : Nat) : (t.moveTo time).interruption? ctx ≠ none :=
  interruption?_ne_none_mono h (fun _ => id) (fun late hlate => ⟨late, hlate, Nat.le_refl late⟩)
    (List.subset_append_right _ _) (Nat.le_max_left _ _)

/-- A race takes time, or none. -/
theorem interruption?_race (h : t.interruption? ctx ≠ none) (ctx' : Context) (wait : Nat) :
    (t.race ctx' wait).2.interruption? ctx ≠ none := by
  unfold race
  dsimp only
  split
  · exact h
  · exact interruption?_moveTo h _

end Timeline

end Tenancy
