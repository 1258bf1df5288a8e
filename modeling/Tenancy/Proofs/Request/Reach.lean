import Tenancy.Proofs.Program.Trace
import Tenancy.Request

/-!
# Reachable states

The states that a platform comes to when it serves requests one after the other, each under a context of its own. The states
in the midst of a request count as well, and requests may be abandoned there. Between requests, whatever is not seen of a
state may change: time passes, and contexts are cancelled. What one event preserves holds of all of them
(`Reaches.induction`).

When the requests are given, and nothing else comes to pass, they lead to one state after the other (`serveAll`), and a run
passes through these and the states in the midst of its requests (`Visits`). What each request preserves unless it is a bad
one, a run preserves unless it has a bad one (`visits_iff`).
-/

namespace Tenancy

namespace Platform

variable {σ τ : Type}

/-- The states that a platform comes to from `s₀` in a world when it serves requests that are allowed. -/
inductive Reaches (p : Platform) (w : World σ) (view : σ → τ) (allowed : Context → Request → Prop) (s₀ : σ) : σ → Prop where
  | start : Reaches p w view allowed s₀ s₀
  /-- Nothing is served, and nothing that is seen changes. -/
  | idled {s s' : σ} (earlier : Reaches p w view allowed s₀ s) (same : view s' = view s) : Reaches p w view allowed s₀ s'
  /-- A request has been served, or has come as far as its first events. -/
  | served {s s' : σ} {ctx : Context} {r : Request} {es : List Event} (earlier : Reaches p w view allowed s₀ s)
    (hallowed : allowed ctx r) (hes : es <+: (p.serve ctx r).trace w s) (hleads : w.Leads s es s') :
    Reaches p w view allowed s₀ s'

namespace Reaches

variable {p : Platform} {w : World σ} {view : σ → τ} {allowed : Context → Request → Prop} {s₀ s : σ}

/-- The state after a request. -/
theorem after (h : p.Reaches w view allowed s₀ s) {ctx : Context} {r : Request} (hallowed : allowed ctx r) :
    p.Reaches w view allowed s₀ ((p.serve ctx r).run w s).state :=
  h.served hallowed (List.prefix_refl _) (w.leads_trace (p.serve ctx r) s)

/-- What holds at first, whatever is not seen, and after each event of a request before which it has held all along, holds in
every state that is reached. -/
theorem induction {P : σ → Prop} (h₀ : P s₀) (idle : ∀ s s', view s' = view s → P s → P s')
    (step : ∀ ctx r s before e after s₁ s₂, allowed ctx r → (p.serve ctx r).trace w s = before ++ e :: after →
      w.Leads s before s₁ → (∀ earlier s', earlier <+: before → w.Leads s earlier s' → P s') → w.Moves s₁ e s₂ → P s₂)
    (h : p.Reaches w view allowed s₀ s) : P s := by
  induction h with
  | start => exact h₀
  | idled earlier same ih => exact idle _ _ same ih
  | served earlier hallowed hes hleads ih =>
    exact World.Leads.induction ih (fun before e after s₁ s₂ => step _ _ _ before e after s₁ s₂ hallowed) _ _ hes hleads

end Reaches

/-! ## Runs of given requests -/

section

variable {p : Platform} {w : World σ}

/-- The state after some requests, each under a context of its own. -/
def serveAll (p : Platform) (w : World σ) : σ → List (Context × Request) → σ
  | s, [] => s
  | s, (ctx, r) :: rest => p.serveAll w ((p.serve ctx r).run w s).state rest

/-- What passes between a platform and its world while it serves some requests. -/
def traceAll (p : Platform) (w : World σ) : σ → List (Context × Request) → List Event
  | _, [] => []
  | s, (ctx, r) :: rest => (p.serve ctx r).trace w s ++ p.traceAll w ((p.serve ctx r).run w s).state rest

/-- Of several requests the last one is served after the others. -/
theorem serveAll_append (s : σ) (requests : List (Context × Request)) (ctx : Context) (r : Request) :
    p.serveAll w s (requests ++ [(ctx, r)]) = ((p.serve ctx r).run w (p.serveAll w s requests)).state := by
  induction requests generalizing s with
  | nil => rfl
  | cons first rest ih => exact ih _

/-- A state that a request comes to when it is served from `s`: the one after some of its first events, or after all. -/
def Amid (p : Platform) (w : World σ) (s : σ) (ctx : Context) (r : Request) (s' : σ) : Prop :=
  ∃ es, es <+: (p.serve ctx r).trace w s ∧ w.Leads s es s'

/-- A state that a platform comes to when it serves some requests from `s`: that state, or one amid a request. -/
def Visits (p : Platform) (w : World σ) (s : σ) (requests : List (Context × Request)) (s' : σ) : Prop :=
  s' = s ∨ ∃ served ctx r, served ++ [(ctx, r)] <+: requests ∧ p.Amid w (p.serveAll w s served) ctx r s'

/-- The state after a request is one that it comes to. -/
theorem amid_state (s : σ) (ctx : Context) (r : Request) : p.Amid w s ctx r ((p.serve ctx r).run w s).state :=
  ⟨_, List.prefix_refl _, w.leads_trace _ s⟩

/-- The states between requests are visited. -/
theorem visits_serveAll {s : σ} {served requests : List (Context × Request)} (h : served <+: requests) :
    p.Visits w s requests (p.serveAll w s served) := by
  rcases List.eq_nil_or_concat served with rfl | ⟨earlier, ⟨ctx, r⟩, rfl⟩
  · exact .inl rfl
  · rw [List.concat_eq_append] at h ⊢
    rw [serveAll_append]
    exact .inr ⟨earlier, ctx, r, h, amid_state _ ctx r⟩

/-- When a request keeps what holds before it in all states that it comes to if and only if it is not a bad one, a run keeps
it if and only if it has no bad request. -/
theorem visits_iff {P : σ → Prop} (bad : σ → Context → Request → Prop) {s : σ} {requests : List (Context × Request)}
    (h₀ : P s)
    (step : ∀ s ctx r, (ctx, r) ∈ requests → P s → ((∀ s', p.Amid w s ctx r s' → P s') ↔ ¬ bad s ctx r)) :
    (∀ s', p.Visits w s requests s' → P s') ↔
      ∀ served ctx r, served ++ [(ctx, r)] <+: requests → ¬ bad (p.serveAll w s served) ctx r := by
  constructor
  · intro h served ctx r hserved
    have hbefore : P (p.serveAll w s served) := h _ (visits_serveAll ((List.prefix_append _ _).trans hserved))
    refine (step _ ctx r (hserved.subset (by simp)) hbefore).mp fun s' hamid => h s' ?_
    exact .inr ⟨served, ctx, r, hserved, hamid⟩
  · intro h
    -- the run is extended at its end: the states between requests first, from which the others follow
    have between : ∀ served, served <+: requests → P (p.serveAll w s served) := by
      intro served
      induction served using List.reverseRecOn with
      | nil => exact fun _ => h₀
      | append_singleton served request ih =>
        intro hserved
        obtain ⟨ctx, r⟩ := request
        rw [serveAll_append]
        refine (step _ ctx r (hserved.subset (by simp)) (ih ((List.prefix_append _ _).trans hserved))).mpr ?_ _
          (amid_state _ ctx r)
        exact h served ctx r hserved
    rintro s' (rfl | ⟨served, ctx, r, hserved, hamid⟩)
    · exact h₀
    · have hbefore := between served ((List.prefix_append _ _).trans hserved)
      exact (step _ ctx r (hserved.subset (by simp)) hbefore).mpr (h served ctx r hserved) s' hamid

end

end Platform

end Tenancy
