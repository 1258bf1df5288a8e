import Tenancy.Proofs.Program.Advance
import Tenancy.Proofs.World.Checked

/-!
# Requests side by side

A platform serves many requests at once. Each is a session: the events that have passed so far, and what is left of its
program. The sessions take their turns in any order, one step at a time (`Moment.turn`), and each may be left at any point; the
moments that this leads to from a state in which nothing is under way are those of `Platform.Interleaves`. Whatever the others
do in between, a session stays on the way to conduct its request (`Platform.Interleaves.onCourse`), because what a program
ensures does not depend on how it is answered.
-/

namespace Tenancy

/-- A request under way: what has passed so far, and what is left of its program. -/
structure Session where
  ctx : Context
  request : Request
  past : List Event
  rest : Program (Except ServiceError Response)

/-- A state of the world, with the requests under way in it. -/
structure Moment (σ : Type) where
  sessions : List Session
  state : σ

/-- What may come next for the requests under way. -/
inductive Turn where
  /-- Another request is taken up. -/
  | accept (ctx : Context) (r : Request)
  /-- A request takes a step. -/
  | advance (i : Nat)
  /-- A request has been answered, or is abandoned. -/
  | leave (i : Nat)

namespace Session

variable {σ : Type}

/-- A request that has been taken up. -/
def start (p : Platform) (ctx : Context) (r : Request) : Session := ⟨ctx, r, [], p.serve ctx r⟩

/-- A request after its next step. -/
def advance (w : World σ) (s : σ) (x : Session) : Session :=
  ⟨x.ctx, x.request, x.past ++ (x.rest.advance w s).events, (x.rest.advance w s).rest⟩

/-- However it is answered from now on, a request will have been conducted in the end. -/
def OnCourse (p : Platform) (x : Session) : Prop :=
  x.rest.Ensures x.past fun es value => x.request.Conducted (p.licenseOf x.request) x.ctx es value.toOption

variable {p : Platform} {x : Session}

/-- A session that starts is on its course. -/
theorem onCourse_start {ctx : Context} {r : Request} (hr : r.isLetter = false) : (start p ctx r).OnCourse p :=
  Platform.ensures_serve hr

/-- A step keeps a session on its course. -/
theorem OnCourse.advance {w : World σ} (h : x.OnCourse p) (s : σ) : (x.advance w s).OnCourse p := Program.Ensures.advance h s

end Session

/-- A program that is taken up after some events can come to an end: its context can refuse every call that is made under it. -/
theorem Program.Ensures.exists_end {α : Type} {p : Program α} {past : List Event} {Q : List Event → α → Prop}
    (h : p.Ensures past Q) : ∃ later a, Q (past ++ later) a := by
  induction p generalizing past with
  | done a => exact ⟨[], a, by simpa [Ensures] using h⟩
  | noted n next ih =>
    obtain ⟨later, a, hend⟩ := ih h
    exact ⟨_ :: later, a, by simpa using hend⟩
  | asked ctx c next ih =>
    obtain ⟨later, a, hend⟩ := ih _ (h.1 .canceled)
    exact ⟨_ :: later, a, by simpa using hend⟩
  | insisted c next ih =>
    obtain ⟨later, a, hend⟩ := ih _ (h (.error c.outage))
    exact ⟨_ :: later, a, by simpa using hend⟩
  | timed next ih => exact ih default (h default)
  | surveyed ctx cs next ih => exact ih _ (h.1 .canceled)

/-- A request on its way comes to an end at which it has been conducted. -/
theorem Session.OnCourse.exists_end {p : Platform} {x : Session} (h : x.OnCourse p) :
    ∃ later response, x.request.Conducted (p.licenseOf x.request) x.ctx (x.past ++ later) response := by
  obtain ⟨later, value, hvalue⟩ := Program.Ensures.exists_end h
  exact ⟨later, _, hvalue⟩

namespace Moment

variable {σ : Type}

/-- What passes in a turn, and the moment after it; the turn of a request that is not under way changes nothing. -/
def turn (p : Platform) (w : World σ) (m : Moment σ) : Turn → List Event × Moment σ
  | .accept ctx r => ([], ⟨.start p ctx r :: m.sessions, m.state⟩)
  | .advance i =>
    match m.sessions[i]? with
    | some x => ((x.rest.advance w m.state).events, ⟨m.sessions.set i (x.advance w m.state), (x.rest.advance w m.state).state⟩)
    | none => ([], m)
  | .leave i => ([], ⟨m.sessions.eraseIdx i, m.state⟩)

/-- What a turn can lead to. -/
inductive Turned (p : Platform) (w : World σ) : Moment σ → List Event → Moment σ → Prop where
  | accepted {xs s} (ctx r) : Turned p w ⟨xs, s⟩ [] ⟨.start p ctx r :: xs, s⟩
  | advanced {before x after s} :
    Turned p w ⟨before ++ x :: after, s⟩ (x.rest.advance w s).events
      ⟨before ++ x.advance w s :: after, (x.rest.advance w s).state⟩
  | left {xs ys s} (h : ys.Sublist xs) : Turned p w ⟨xs, s⟩ [] ⟨ys, s⟩

/-- Every turn is one of the kinds that a moment can be turned by. -/
theorem turned (p : Platform) (w : World σ) (m : Moment σ) (t : Turn) : m.Turned p w (m.turn p w t).1 (m.turn p w t).2 := by
  obtain ⟨xs, s⟩ := m
  cases t with
  | accept ctx r => exact .accepted ctx r
  | advance i =>
    cases hx : xs[i]? with
    | none =>
      simp only [turn, hx]
      exact .left (List.Sublist.refl _)
    | some x =>
      obtain ⟨hi, hget⟩ := List.getElem?_eq_some_iff.mp hx
      obtain ⟨before, after, hxs, -, hset⟩ : ∃ before after, xs = before ++ xs[i] :: after ∧ before.length = i ∧
          xs.set i (x.advance w s) = before ++ x.advance w s :: after := List.exists_of_set hi
      simp only [turn, hx, hset]
      rw [hget] at hxs
      subst hxs
      exact .advanced
  | leave i => exact .left (List.eraseIdx_sublist _ i)

/-- The moment after some turns, one after the other. -/
def turns (p : Platform) (w : World σ) (m : Moment σ) (ts : List Turn) : Moment σ := ts.foldl (fun m t => (m.turn p w t).2) m

/-- Each of some turns is allowed when it comes. -/
def Permits (p : Platform) (w : World σ) (allowed : Moment σ → List Event → Moment σ → Prop) : Moment σ → List Turn → Prop
  | _, [] => True
  | m, t :: ts => allowed m (m.turn p w t).1 (m.turn p w t).2 ∧ (m.turn p w t).2.Permits p w allowed ts

instance decidablePermits (p : Platform) (w : World σ) (allowed : Moment σ → List Event → Moment σ → Prop)
    [∀ m es m', Decidable (allowed m es m')] : (m : Moment σ) → (ts : List Turn) → Decidable (m.Permits p w allowed ts)
  | _, [] => inferInstanceAs (Decidable True)
  | m, t :: ts =>
    have := decidablePermits p w allowed (m.turn p w t).2 ts
    inferInstanceAs (Decidable (_ ∧ _))

end Moment

namespace Platform

variable {σ τ : Type}

/-- The moments that a platform comes to from a state in which nothing is under way, by turns that are allowed. Between them,
whatever is not seen of the state may change. -/
inductive Interleaves (p : Platform) (w : World σ) (view : σ → τ) (allowed : Moment σ → List Event → Moment σ → Prop) (s₀ : σ) :
    Moment σ → Prop where
  | start : Interleaves p w view allowed s₀ ⟨[], s₀⟩
  | idled {m : Moment σ} {s : σ} (earlier : Interleaves p w view allowed s₀ m) (same : view s = view m.state) :
    Interleaves p w view allowed s₀ ⟨m.sessions, s⟩
  | turned {m : Moment σ} (t : Turn) (earlier : Interleaves p w view allowed s₀ m)
    (hallowed : allowed m (m.turn p w t).1 (m.turn p w t).2) : Interleaves p w view allowed s₀ (m.turn p w t).2

namespace Interleaves

variable {p : Platform} {w : World σ} {view : σ → τ} {allowed : Moment σ → List Event → Moment σ → Prop} {s₀ : σ} {m : Moment σ}

/-- What holds when nothing is under way yet, whatever is not seen, and after each turn that is allowed, holds at every moment. -/
theorem induction {P : Moment σ → Prop} (h₀ : P ⟨[], s₀⟩)
    (idle : ∀ xs s s', view s' = view s → P ⟨xs, s⟩ → P ⟨xs, s'⟩)
    (step : ∀ m es m', m.Turned p w es m' → allowed m es m' → p.Interleaves w view allowed s₀ m → P m → P m')
    (h : p.Interleaves w view allowed s₀ m) : P m := by
  induction h with
  | start => exact h₀
  | idled earlier same ih => exact idle _ _ _ same ih
  | turned t earlier hallowed ih => exact step _ _ _ (Moment.turned p w _ t) hallowed earlier ih

/-- Turns that are allowed lead on. -/
theorem turns {ts : List Turn} (h : p.Interleaves w view allowed s₀ m) (hts : m.Permits p w allowed ts) :
    p.Interleaves w view allowed s₀ (m.turns p w ts) := by
  induction ts generalizing m with
  | nil => exact h
  | cons t ts ih => exact ih (h.turned t hts.1) hts.2

/-- When no letters are asked for, every request under way is on course. -/
theorem onCourse (hallowed : ∀ m es m', allowed m es m' → ∀ x ∈ m'.sessions, x.request.isLetter = false)
    (h : p.Interleaves w view allowed s₀ m) : ∀ x ∈ m.sessions, x.OnCourse p := by
  refine induction (P := fun m => ∀ x ∈ m.sessions, x.OnCourse p) (fun x hx => nomatch hx) (fun xs s s' same hxs => hxs)
    (fun m es m' hturned hm' earlier hm => ?_) h
  have hletters := hallowed m es m' hm'
  cases hturned with
  | accepted ctx r => exact List.forall_mem_cons.mpr ⟨Session.onCourse_start (hletters _ List.mem_cons_self), hm⟩
  | advanced =>
    rw [List.forall_mem_append, List.forall_mem_cons] at hm ⊢
    exact ⟨hm.1, hm.2.1.advance _, hm.2.2⟩
  | left hsub => exact fun x hx => hm x (hsub.subset hx)

end Interleaves

end Platform

end Tenancy
