import Tenancy.Proofs.Context.Interruption
import Tenancy.Scene

/-!
# Futures under a context

A future works on a state: it takes steps that are done at once, it waits for the next millisecond, and at some point it has
a result. A timeline drives it under a context by polling: first the cancellation of the context, then its deadline, then the
future. Between two polls of the future others have their turn, first at the same moment and then at the next one, so that
this is when cancellations to come are made.

The race of a timeline (`Timeline.race`) knows of a future only how long it takes. It ends as the polling does, at the same
moment, and a call of a scene is driven in this way too.
-/

namespace Tenancy

variable {σ ε α : Type}

/-- What is left to do for a result. -/
inductive Future (σ ε α : Type) where
  | done (result : Except ε α)
  /-- A change of the state. What comes next may depend on the state before it. -/
  | act (change : σ → σ) (next : σ → Future σ ε α)
  /-- Waits for the next millisecond. -/
  | wait (next : Future σ ε α)

/-- With what result, when, and in which state something ends. -/
structure Ending (ρ σ : Type) where
  result : ρ
  time : Nat
  state : σ

namespace Future

/-- How a future ends that is started at a moment, when nothing stops it. -/
def alone : Future σ ε α → Nat → σ → Ending (Except ε α) σ
  | .done result, now, s => ⟨result, now, s⟩
  | .act change next, now, s => (next s).alone now (change s)
  | .wait next, now, s => next.alone (now + 1) s

/-- What a future has made of a state after some polls. -/
def polled : Future σ ε α → Nat → σ → σ
  | _, 0, s => s
  | .done _, _ + 1, s => s
  | .act change next, n + 1, s => (next s).polled (n + 1) (change s)
  | .wait next, n + 1, s => next.polled n s

/-- A future that only waits, for some milliseconds, before it goes on. -/
def after (next : Future σ ε α) : Nat → Future σ ε α
  | 0 => next
  | n + 1 => .wait (next.after n)

/-- A future that nothing stops does not end before it starts. -/
theorem le_time_alone (f : Future σ ε α) (now : Nat) (s : σ) : now ≤ (f.alone now s).time := by
  induction f generalizing now s with
  | done result => exact Nat.le_refl now
  | act change next ih => exact ih s now (change s)
  | wait next ih => exact Nat.le_of_succ_le (ih (now + 1) s)

/-- To wait first is to start later. -/
theorem alone_after (next : Future σ ε α) (n now : Nat) (s : σ) : (next.after n).alone now s = next.alone (now + n) s := by
  induction n generalizing now with
  | zero => rfl
  | succ n ih =>
    have h := ih (now + 1)
    rw [show now + 1 + n = now + (n + 1) by omega] at h
    exact h

/-- A future that waits has changed nothing until it goes on. -/
theorem polled_after (next : Future σ ε α) {n polls : Nat} (h : polls ≤ n) (s : σ) : (next.after n).polled polls s = s := by
  induction n generalizing polls with
  | zero =>
    obtain rfl : polls = 0 := by omega
    simp only [polled]
  | succ n ih =>
    cases polls with
    | zero => simp only [polled]
    | succ polls => exact ih (by omega)

end Future

namespace Timeline

variable {t : Timeline} {ctx : Context}

/-- Polls a future that is under way. -/
def poll (t : Timeline) (ctx : Context) : Future σ ε α → σ → Ending (Except (Refusal ε) α) σ
  | .done result, s => ⟨result.mapError .failed, t.now, s⟩
  | .act change next, s => t.poll ctx (next s) (change s)
  | .wait next, s =>
    match (t.moveTo t.now).interruption? ctx with
    | some cause => ⟨.error (.interrupted cause), t.now, s⟩
    | none =>
      let later := t.moveTo (t.now + 1)
      match later.interruption? ctx with
      | some cause => ⟨.error (.interrupted cause), t.now + 1, s⟩
      | none => later.poll ctx next s

/-- Drives a future under a context. -/
def drive (t : Timeline) (ctx : Context) (f : Future σ ε α) (s : σ) : Ending (Except (Refusal ε) α) σ :=
  match t.interruption? ctx with
  | some cause => ⟨.error (.interrupted cause), t.now, s⟩
  | none => t.poll ctx f s

/-! ## Moments to come -/

/-- A timeline does not go back. -/
theorem now_moveTo (time : Nat) : (t.moveTo time).now = max t.now time := rfl

/-- A token is cancelled at a moment when it was before, or when a pending cancellation has reached it by then. -/
theorem isCancelled_moveTo_iff {time : Nat} {token : Token} : (t.moveTo time).isCancelled token = true ↔
    t.isCancelled token = true ∨ ∃ p ∈ t.pending, p.1 ≤ time ∧ p.2 ∈ token.lineage := by
  simp only [isCancelled_iff, moveTo, List.mem_append, List.mem_map, List.mem_filter, decide_eq_true_eq]
  constructor
  · rintro ⟨number, hnumber, ⟨p, ⟨hp, hle⟩, rfl⟩ | hlisted⟩
    · exact .inr ⟨p, hp, hle, hnumber⟩
    · exact .inl ⟨number, hnumber, hlisted⟩
  · rintro (⟨number, hnumber, hlisted⟩ | ⟨p, hp, hle, hnumber⟩)
    · exact ⟨number, hnumber, .inr hlisted⟩
    · exact ⟨p.2, hnumber, .inl ⟨p, ⟨hp, hle⟩, rfl⟩⟩

/-- On the way to a moment one may stop at an earlier one. -/
theorem interruption?_moveTo_moveTo {early late : Nat} (h : early ≤ late) :
    ((t.moveTo early).moveTo late).interruption? ctx = (t.moveTo late).interruption? ctx := by
  have hcancelled : ((t.moveTo early).moveTo late).isCancelled ctx.token = (t.moveTo late).isCancelled ctx.token := by
    rw [Bool.eq_iff_iff, isCancelled_moveTo_iff, isCancelled_moveTo_iff, isCancelled_moveTo_iff]
    constructor
    · rintro ((hpast | ⟨p, hp, hle, hnumber⟩) | ⟨p, hp, hle, hnumber⟩)
      · exact .inl hpast
      · exact .inr ⟨p, hp, Nat.le_trans hle h, hnumber⟩
      · exact .inr ⟨p, (List.mem_filter.mp hp).1, hle, hnumber⟩
    · rintro (hpast | ⟨p, hp, hle, hnumber⟩)
      · exact .inl (.inl hpast)
      · by_cases hearly : p.1 ≤ early
        · exact .inl (.inr ⟨p, hp, hearly, hnumber⟩)
        · exact .inr ⟨p, List.mem_filter.mpr ⟨hp, by simpa using hearly⟩, hle, hnumber⟩
  have hnow : ((t.moveTo early).moveTo late).now = (t.moveTo late).now := by
    simp only [now_moveTo]
    omega
  simp only [interruption?, hcancelled, hnow]

/-- A context that is live at a moment is live before. -/
theorem interruption?_moveTo_anti {early late : Nat} (h : early ≤ late) (hlive : (t.moveTo late).interruption? ctx = none) :
    (t.moveTo early).interruption? ctx = none := by
  apply Classical.byContradiction
  intro hdone
  apply interruption?_moveTo hdone late
  rw [interruption?_moveTo_moveTo h, hlive]

/-- The first moment at which a context is done, and why. -/
structure Stops (t : Timeline) (ctx : Context) (time : Nat) (cause : Interruption) : Prop where
  le : t.now ≤ time
  done : (t.moveTo time).interruption? ctx = some cause
  live : ∀ earlier, t.now ≤ earlier → earlier < time → (t.moveTo earlier).interruption? ctx = none

/-- A context stops once, and for one reason. -/
theorem Stops.unique {time time' : Nat} {cause cause' : Interruption} (h : t.Stops ctx time cause)
    (h' : t.Stops ctx time' cause') : time = time' ∧ cause = cause' := by
  have hge : ¬ time < time' := by
    intro hlt
    have hlive := h'.live time h.le hlt
    rw [h.done] at hlive
    cases hlive
  have hle : ¬ time' < time := by
    intro hlt
    have hlive := h.live time' h'.le hlt
    rw [h'.done] at hlive
    cases hlive
  obtain rfl : time = time' := by omega
  exact ⟨rfl, Option.some.inj (h.done.symm.trans h'.done)⟩

/-- A context that is not done by a moment stops later. -/
theorem Stops.lt_iff {time : Nat} {cause : Interruption} (h : t.Stops ctx time cause) {moment : Nat} (hle : t.now ≤ moment) :
    moment < time ↔ (t.moveTo moment).interruption? ctx = none := by
  constructor
  · exact h.live moment hle
  · intro hlive
    apply Classical.byContradiction
    intro hnot
    have hearlier := interruption?_moveTo_anti (Nat.le_of_not_lt hnot) hlive
    rw [h.done] at hearlier
    cases hearlier

/-- The first moment at which a context is done, seen from a later one at which it is still live. -/
theorem Stops.of_moveTo {moment time : Nat} {cause : Interruption} (hle : t.now ≤ moment)
    (hlive : (t.moveTo moment).interruption? ctx = none) (h : (t.moveTo moment).Stops ctx time cause) :
    t.Stops ctx time cause ∧ moment < time := by
  have hmoment : moment ≤ time := by
    have := h.le
    rw [now_moveTo] at this
    omega
  have hdone : (t.moveTo time).interruption? ctx = some cause := by
    rw [← interruption?_moveTo_moveTo hmoment]
    exact h.done
  refine ⟨⟨Nat.le_trans hle hmoment, hdone, ?_⟩, ?_⟩
  · intro earlier _ hlt
    by_cases hearlier : earlier ≤ moment
    · exact interruption?_moveTo_anti hearlier hlive
    · have hlater : moment ≤ earlier := by omega
      rw [← interruption?_moveTo_moveTo hlater]
      exact h.live earlier (by rw [now_moveTo]; omega) hlt
  · apply Nat.lt_of_le_of_ne hmoment
    rintro rfl
    rw [hlive] at hdone
    cases hdone

/-! ## Polling -/

/-- A future that ends at once, or before its context is done, ends as it does alone. -/
theorem poll_eq_alone (f : Future σ ε α) (s : σ)
    (h : (f.alone t.now s).time = t.now ∨ (t.moveTo (f.alone t.now s).time).interruption? ctx = none) :
    t.poll ctx f s = ⟨(f.alone t.now s).result.mapError .failed, (f.alone t.now s).time, (f.alone t.now s).state⟩ := by
  induction f generalizing t s with
  | done result => rfl
  | act change next ih => exact ih s (change s) h
  | wait next ih =>
    have hafter := next.le_time_alone (t.now + 1) s
    have hlive : (t.moveTo (next.alone (t.now + 1) s).time).interruption? ctx = none := by
      rcases h with h | h
      · simp only [Future.alone] at h
        omega
      · exact h
    have hpresent : (t.moveTo t.now).interruption? ctx = none := interruption?_moveTo_anti (by omega) hlive
    have hnext : (t.moveTo (t.now + 1)).interruption? ctx = none := interruption?_moveTo_anti hafter hlive
    have hnow : (t.moveTo (t.now + 1)).now = t.now + 1 := Nat.max_eq_right (by omega)
    have hrest := ih (t := t.moveTo (t.now + 1)) s (.inr (by rw [hnow, interruption?_moveTo_moveTo hafter, hlive]))
    rw [hnow] at hrest
    simp only [poll, hpresent, hnext]
    exact hrest

/-- A future that takes time, and whose context is done by its end, is not polled from the first such moment on. -/
theorem poll_stopped (f : Future σ ε α) (s : σ) (hlater : t.now < (f.alone t.now s).time)
    (h : (t.moveTo (f.alone t.now s).time).interruption? ctx ≠ none) :
    ∃ time cause, t.Stops ctx time cause ∧ time ≤ (f.alone t.now s).time ∧
      t.poll ctx f s = ⟨.error (.interrupted cause), time, f.polled (max 1 (time - t.now)) s⟩ := by
  induction f generalizing t s with
  | done result => exact absurd hlater (Nat.lt_irrefl _)
  | act change next ih =>
    obtain ⟨time, cause, hstops, hle, hpoll⟩ := ih s (change s) hlater h
    refine ⟨time, cause, hstops, hle, ?_⟩
    obtain ⟨n, hn⟩ : ∃ n, max 1 (time - t.now) = n + 1 := ⟨max 1 (time - t.now) - 1, by omega⟩
    rw [hn] at hpoll ⊢
    exact hpoll
  | wait next ih =>
    have hnow : (t.moveTo (t.now + 1)).now = t.now + 1 := Nat.max_eq_right (by omega)
    have hafter := next.le_time_alone (t.now + 1) s
    cases hpresent : (t.moveTo t.now).interruption? ctx with
    | some cause =>
      refine ⟨t.now, cause, ⟨Nat.le_refl _, hpresent, fun _ hge hlt => by omega⟩, Nat.le_of_lt hlater, ?_⟩
      simp only [poll, hpresent, Nat.sub_self, Nat.max_zero, Future.polled]
    | none =>
      cases hnext : (t.moveTo (t.now + 1)).interruption? ctx with
      | some cause =>
        refine ⟨t.now + 1, cause, ⟨by omega, hnext, ?_⟩, hafter, ?_⟩
        · intro earlier hge hlt
          obtain rfl : earlier = t.now := by omega
          exact hpresent
        · simp only [poll, hpresent, hnext, Nat.add_sub_cancel_left, Nat.max_self, Future.polled]
      | none =>
        -- The context is live at the next poll, so that the future ends later and the first moment is still to come.
        have hdone : (t.moveTo (next.alone (t.now + 1) s).time).interruption? ctx ≠ none := h
        have hend : t.now + 1 < (next.alone (t.now + 1) s).time := by
          apply Nat.lt_of_le_of_ne hafter
          intro heq
          rw [← heq, hnext] at hdone
          exact hdone rfl
        obtain ⟨time, cause, hstops, hle, hpoll⟩ := ih (t := t.moveTo (t.now + 1)) s (by rwa [hnow])
          (by rwa [hnow, interruption?_moveTo_moveTo hafter])
        rw [hnow] at hle hpoll
        obtain ⟨hstops, hlt⟩ := Stops.of_moveTo (Nat.le_succ _) hnext hstops
        refine ⟨time, cause, hstops, hle, ?_⟩
        obtain ⟨n, hn⟩ : ∃ n, time = t.now + 1 + (n + 1) := ⟨time - t.now - 2, by omega⟩
        have hpolls : max 1 (time - t.now) = max 1 (time - (t.now + 1)) + 1 := by omega
        simp only [poll, hpresent, hnext, hpolls, Future.polled]
        exact hpoll

/-! ## The race -/

/-- The moment of cancellation is that of the first pending one that the token hears. -/
theorem cancelTime?_eq_some {token : Token} {time : Nat} (h : t.cancelTime? token = some time) :
    (∃ p ∈ t.pending, p.2 ∈ token.lineage ∧ p.1 = time) ∧ ∀ p ∈ t.pending, p.2 ∈ token.lineage → time ≤ p.1 := by
  obtain ⟨hmem, hleast⟩ := List.min?_eq_some_iff.mp h
  obtain ⟨p, hp, rfl⟩ := List.mem_map.mp hmem
  obtain ⟨hpending, hnumber⟩ := List.mem_filter.mp hp
  refine ⟨⟨p, hpending, List.contains_iff_mem.mp hnumber, rfl⟩, ?_⟩
  intro q hq hlineage
  exact hleast q.1 (List.mem_map.mpr ⟨q, List.mem_filter.mpr ⟨hq, List.contains_iff_mem.mpr hlineage⟩, rfl⟩)

/-- Without a moment of cancellation there is no pending one that the token hears. -/
theorem cancelTime?_eq_none {token : Token} (h : t.cancelTime? token = none) : ∀ p ∈ t.pending, p.2 ∉ token.lineage := by
  intro p hp hnumber
  have hmem : p ∈ t.pending.filter fun p => token.lineage.contains p.2 :=
    List.mem_filter.mpr ⟨hp, List.contains_iff_mem.mpr hnumber⟩
  rw [cancelTime?, List.min?_eq_none_iff, List.map_eq_nil_iff] at h
  rw [h] at hmem
  cases hmem

/-- A live context is cancelled by a moment when the first cancellation to come reaches it by then. -/
theorem isCancelled_moveTo_eq (h : t.isCancelled ctx.token = false) (time : Nat) :
    (t.moveTo time).isCancelled ctx.token = (t.cancelTime? ctx.token).any fun first => first ≤ time := by
  rw [Bool.eq_iff_iff, isCancelled_moveTo_iff, h, Option.any_eq_true]
  constructor
  · rintro (hpast | ⟨p, hp, hle, hnumber⟩)
    · cases hpast
    · cases hfirst : t.cancelTime? ctx.token with
      | none => exact absurd hnumber (cancelTime?_eq_none hfirst p hp)
      | some first =>
        exact ⟨first, rfl, decide_eq_true (Nat.le_trans ((cancelTime?_eq_some hfirst).2 p hp hnumber) hle)⟩
  · rintro ⟨first, hfirst, hle⟩
    obtain ⟨⟨p, hp, hnumber, rfl⟩, -⟩ := cancelTime?_eq_some hfirst
    exact .inr ⟨p, hp, of_decide_eq_true hle, hnumber⟩

/-- What becomes of a context that is not cancelled, by its first cancellation to come and its deadline. -/
theorem interruption?_moveTo_eq (h : t.isCancelled ctx.token = false) {time : Nat} (hle : t.now ≤ time) :
    (t.moveTo time).interruption? ctx =
      if (t.cancelTime? ctx.token).any fun first => first ≤ time then some .canceled
      else if ctx.deadline.any fun deadline => deadline ≤ time then some .deadlineExceeded
      else none := by
  have hnow : (t.moveTo time).now = time := Nat.max_eq_right hle
  rw [interruption?, isCancelled_moveTo_eq h, hnow]
  rfl

/-- A context that is not done has not been cancelled. -/
theorem not_isCancelled (h : t.interruption? ctx = none) : t.isCancelled ctx.token = false := by
  cases hcancelled : t.isCancelled ctx.token with
  | false => rfl
  | true => exact absurd h (interruption?_ne_none.mpr (.inl hcancelled))

/-- A context that is not done has not come to its deadline. -/
theorem not_isDue (h : t.interruption? ctx = none) : ctx.isDue t.now = false := by
  cases hdue : ctx.isDue t.now with
  | false => rfl
  | true => exact absurd h (interruption?_ne_none.mpr (.inr hdue))

/-- A live context that nothing is to stop stays live. -/
theorem live_of_stop?_eq_none (hlive : t.interruption? ctx = none) (h : t.stop? ctx = none) {time : Nat} (hle : t.now ≤ time) :
    (t.moveTo time).interruption? ctx = none := by
  rw [interruption?_moveTo_eq (not_isCancelled hlive) hle]
  unfold stop? at h
  split at h
  · split at h <;> cases h
  · cases h
  · cases h
  · next hfirst hdeadline => simp only [hfirst, hdeadline, Option.any_none, Bool.false_eq_true, if_false]

/-- A live context that something is to stop stops at the earlier of its first cancellation and its deadline; the
cancellation wins when they come at the same time. -/
theorem stops_of_stop? (hlive : t.interruption? ctx = none) {time : Nat} {cause : Interruption}
    (h : t.stop? ctx = some (time, cause)) : t.Stops ctx (max t.now time) cause := by
  have hpoint {moment : Nat} (hle : t.now ≤ moment) := interruption?_moveTo_eq (not_isCancelled hlive) hle
  unfold stop? at h
  split at h
  · next first deadline hfirst hdeadline =>
    have hdue : t.now < deadline := by
      have := not_isDue hlive
      simp only [Context.isDue, hdeadline, Option.any_some, decide_eq_false_iff_not] at this
      omega
    simp only [hfirst, hdeadline, Option.any_some, decide_eq_true_eq] at hpoint
    split at h
    · next hearlier =>
      obtain ⟨rfl, rfl⟩ := h
      refine ⟨Nat.le_max_left _ _, ?_, ?_⟩
      · rw [hpoint (Nat.le_max_left _ _), if_pos (Nat.le_max_right _ _)]
      · intro earlier hge hlt
        rw [hpoint hge, if_neg (by omega), if_neg (by omega)]
    · next hlater =>
      obtain ⟨rfl, rfl⟩ := h
      refine ⟨Nat.le_max_left _ _, ?_, ?_⟩
      · rw [hpoint (Nat.le_max_left _ _), if_neg (by omega), if_pos (Nat.le_max_right _ _)]
      · intro earlier hge hlt
        rw [hpoint hge, if_neg (by omega), if_neg (by omega)]
  · next first hfirst hdeadline =>
    obtain ⟨rfl, rfl⟩ := h
    simp only [hfirst, hdeadline, Option.any_some, Option.any_none, decide_eq_true_eq, Bool.false_eq_true, if_false] at hpoint
    refine ⟨Nat.le_max_left _ _, ?_, ?_⟩
    · rw [hpoint (Nat.le_max_left _ _), if_pos (Nat.le_max_right _ _)]
    · intro earlier hge hlt
      rw [hpoint hge, if_neg (by omega)]
  · next deadline hfirst hdeadline =>
    obtain ⟨rfl, rfl⟩ := h
    simp only [hfirst, hdeadline, Option.any_some, Option.any_none, decide_eq_true_eq, Bool.false_eq_true, if_false] at hpoint
    refine ⟨Nat.le_max_left _ _, ?_, ?_⟩
    · rw [hpoint (Nat.le_max_left _ _), if_pos (Nat.le_max_right _ _)]
    · intro earlier hge hlt
      rw [hpoint hge, if_neg (by omega)]
  · cases h

/-- The timeline as a future sees it when it is polled at a moment: nothing else comes to pass before its first poll. -/
def seenAt (t : Timeline) (time : Nat) : Timeline := if time = t.now then t else t.moveTo time

/-- When a future is polled, a live context is done only by what comes to pass after its first poll. -/
theorem interruption?_seenAt {time : Nat} (hlive : t.interruption? ctx = none) :
    (t.seenAt time).interruption? ctx = none ↔ time = t.now ∨ (t.moveTo time).interruption? ctx = none := by
  unfold seenAt
  split
  · next hstart => simp only [hlive, hstart, true_or]
  · next hlater => simp only [hlater, false_or]

/-- When a future is polled, its context is live exactly when it is neither due nor cancelled. -/
theorem interruption?_seenAt_eq_none_iff {time : Nat} (h : t.now ≤ time) : (t.seenAt time).interruption? ctx = none ↔
    ctx.isDue time = false ∧ (t.seenAt time).isCancelled ctx.token = false := by
  have hnow : (t.seenAt time).now = time := by
    unfold seenAt
    split
    · next hstart => exact hstart.symm
    · exact Nat.max_eq_right h
  constructor
  · intro hlive
    exact ⟨hnow ▸ not_isDue hlive, not_isCancelled hlive⟩
  · rintro ⟨hdue, hcancelled⟩
    simp only [interruption?, hnow, hdue, hcancelled, Bool.false_eq_true, if_false]

/-- Work that its context outlives finishes. -/
theorem race_finished (hlive : t.interruption? ctx = none) {wait : Nat}
    (h : (t.seenAt (t.now + wait)).interruption? ctx = none) :
    (t.race ctx wait).1 = .finished ∧ (t.race ctx wait).2.now = t.now + wait := by
  have hend : t.raceEnd ctx wait = (.finished, t.now + wait) := by
    unfold raceEnd
    rw [hlive]
    cases hstop : t.stop? ctx with
    | none => rfl
    | some stop =>
      obtain ⟨time, cause⟩ := stop
      apply if_pos
      rcases (interruption?_seenAt hlive).mp h with hzero | hlater
      · left
        omega
      · right
        have hlt := ((stops_of_stop? hlive hstop).lt_iff (Nat.le_add_right _ wait)).mpr hlater
        omega
  unfold race
  rw [hend]
  refine ⟨rfl, ?_⟩
  by_cases hzero : wait = 0
  · simp only [hzero, if_true, Nat.add_zero]
  · simp only [hzero, if_false, now_moveTo]
    omega

/-- Work that takes time, and does not end before its context is done, is stopped at the first such moment. -/
theorem race_stopped (hlive : t.interruption? ctx = none) {wait time : Nat} {cause : Interruption} (hwait : 0 < wait)
    (hstops : t.Stops ctx time cause) (hle : time ≤ t.now + wait) :
    (t.race ctx wait).1 = .stopped cause ∧ (t.race ctx wait).2.now = time := by
  cases hstop : t.stop? ctx with
  | none =>
    have hstill := live_of_stop?_eq_none hlive hstop hstops.le
    rw [hstops.done] at hstill
    cases hstill
  | some stop =>
    obtain ⟨first, why⟩ := stop
    obtain ⟨rfl, rfl⟩ := hstops.unique (stops_of_stop? hlive hstop)
    have hend : t.raceEnd ctx wait = (.stopped cause, first) := by
      unfold raceEnd
      rw [hlive, hstop]
      exact if_neg (by omega)
    unfold race
    rw [hend]
    have hzero : wait ≠ 0 := by omega
    refine ⟨rfl, ?_⟩
    simp only [hzero, if_false, now_moveTo]

/-- Under a context that is done, a race is refused. -/
theorem race_refused {cause : Interruption} (h : t.interruption? ctx = some cause) (wait : Nat) :
    (t.race ctx wait).1 = .refused cause ∧ (t.race ctx wait).2.now = t.now := by
  unfold race raceEnd
  rw [h]
  refine ⟨rfl, ?_⟩
  dsimp only
  split
  · rfl
  · exact Nat.max_self t.now

/-- Under a context that is done, a future is not started. -/
theorem drive_refused {cause : Interruption} (h : t.interruption? ctx = some cause) (f : Future σ ε α) (s : σ) :
    t.drive ctx f s = ⟨.error (.interrupted cause), t.now, s⟩ := by
  simp only [drive, h]

/-- A future that its context outlives ends as it does alone. -/
theorem drive_finished (hlive : t.interruption? ctx = none) (f : Future σ ε α) (s : σ)
    (h : (t.seenAt (f.alone t.now s).time).interruption? ctx = none) :
    t.drive ctx f s = ⟨(f.alone t.now s).result.mapError .failed, (f.alone t.now s).time, (f.alone t.now s).state⟩ := by
  have hdrive : t.drive ctx f s = t.poll ctx f s := by
    simp only [drive, hlive]
  rw [hdrive]
  exact poll_eq_alone f s ((interruption?_seenAt hlive).mp h)

/-- A future that its context does not outlive takes time, and is stopped at the first moment at which the context is done. -/
theorem drive_stopped (hlive : t.interruption? ctx = none) (f : Future σ ε α) (s : σ)
    (h : (t.seenAt (f.alone t.now s).time).interruption? ctx ≠ none) :
    t.now < (f.alone t.now s).time ∧ ∃ time cause, t.Stops ctx time cause ∧ time ≤ (f.alone t.now s).time ∧
      t.drive ctx f s = ⟨.error (.interrupted cause), time, f.polled (max 1 (time - t.now)) s⟩ := by
  have hdrive : t.drive ctx f s = t.poll ctx f s := by
    simp only [drive, hlive]
  rw [ne_eq, interruption?_seenAt hlive, not_or] at h
  obtain ⟨hlater, hdone⟩ := h
  have hlt : t.now < (f.alone t.now s).time := Nat.lt_of_le_of_ne (f.le_time_alone t.now s) (Ne.symm hlater)
  rw [hdrive]
  exact ⟨hlt, poll_stopped f s hlt hdone⟩

/-- **A context decides its race with a future exactly.** Let a future be driven that would, alone, end with a result at a
moment. Under a context that is cancelled, or else due, it is never started. Otherwise it gives its result, with the error only
converted, exactly when at its end the deadline is still to come and no cancellation is visible. If not, it ends at the first
moment at which the context is cancelled or due, as cancelled if it is cancelled by then, and has made of the state what its
polls before that moment have. The race of the timeline ends in the same way at the same moment. -/
theorem drive_decides (t : Timeline) (ctx : Context) (f : Future σ ε α) (s : σ) :
    let alone := f.alone t.now s
    let race := t.race ctx (alone.time - t.now)
    let inTime := ctx.isDue alone.time = false ∧ (t.seenAt alone.time).isCancelled ctx.token = false
    (t.isCancelled ctx.token = true →
      t.drive ctx f s = ⟨.error (.interrupted .canceled), t.now, s⟩ ∧ race.1 = .refused .canceled) ∧
    (t.isCancelled ctx.token = false → ctx.isDue t.now = true →
      t.drive ctx f s = ⟨.error (.interrupted .deadlineExceeded), t.now, s⟩ ∧ race.1 = .refused .deadlineExceeded) ∧
    (t.isCancelled ctx.token = false → ctx.isDue t.now = false →
      ((t.drive ctx f s).result = alone.result.mapError .failed ↔ inTime) ∧
      (inTime →
        t.drive ctx f s = ⟨alone.result.mapError .failed, alone.time, alone.state⟩ ∧
        race.1 = .finished ∧ race.2.now = alone.time) ∧
      (¬ inTime → ∃ time cause, t.Stops ctx time cause ∧ time ≤ alone.time ∧
        (cause = .canceled ↔ (t.moveTo time).isCancelled ctx.token = true) ∧
        t.drive ctx f s = ⟨.error (.interrupted cause), time, f.polled (max 1 (time - t.now)) s⟩ ∧
        race.1 = .stopped cause ∧ race.2.now = time)) := by
  intro alone race inTime
  have hafter : t.now ≤ alone.time := f.le_time_alone t.now s
  have hwait : t.now + (alone.time - t.now) = alone.time := by omega
  refine ⟨?_, ?_, ?_⟩
  · intro hcancelled
    have hdone : t.interruption? ctx = some .canceled := interruption?_eq_canceled_iff.mpr hcancelled
    exact ⟨drive_refused hdone f s, (race_refused hdone _).1⟩
  · intro hcancelled hdue
    have hdone : t.interruption? ctx = some .deadlineExceeded := by
      simp only [interruption?, hcancelled, hdue, Bool.false_eq_true, if_false, if_true]
    exact ⟨drive_refused hdone f s, (race_refused hdone _).1⟩
  · intro hcancelled hdue
    have hlive : t.interruption? ctx = none := by
      simp only [interruption?, hcancelled, hdue, Bool.false_eq_true, if_false]
    have hin : inTime ↔ (t.seenAt alone.time).interruption? ctx = none :=
      (interruption?_seenAt_eq_none_iff hafter).symm
    have hfinished (h : inTime) : t.drive ctx f s = ⟨alone.result.mapError .failed, alone.time, alone.state⟩ ∧
        race.1 = .finished ∧ race.2.now = alone.time := by
      have hrace : race.1 = .finished ∧ race.2.now = t.now + (alone.time - t.now) :=
        race_finished hlive (by rwa [hwait, ← hin])
      rw [hwait] at hrace
      exact ⟨drive_finished hlive f s (hin.mp h), hrace⟩
    have hstopped (h : ¬ inTime) : ∃ time cause, t.Stops ctx time cause ∧ time ≤ alone.time ∧
        (cause = .canceled ↔ (t.moveTo time).isCancelled ctx.token = true) ∧
        t.drive ctx f s = ⟨.error (.interrupted cause), time, f.polled (max 1 (time - t.now)) s⟩ ∧
        race.1 = .stopped cause ∧ race.2.now = time := by
      obtain ⟨hlt, time, cause, hstops, hle, hend⟩ := drive_stopped hlive f s (mt hin.mpr h)
      have hwins : cause = .canceled ↔ (t.moveTo time).isCancelled ctx.token = true := by
        rw [← interruption?_eq_canceled_iff, hstops.done, Option.some.injEq]
      exact ⟨time, cause, hstops, hle, hwins, hend, race_stopped hlive (Nat.sub_pos_of_lt hlt) hstops (by rwa [hwait])⟩
    refine ⟨⟨?_, fun h => congrArg Ending.result (hfinished h).1⟩, hfinished, hstopped⟩
    intro hresult
    apply Classical.byContradiction
    intro h
    obtain ⟨time, cause, -, -, -, hend, -⟩ := hstopped h
    rw [hend] at hresult
    cases hdone : alone.result with
    | ok value =>
      rw [hdone] at hresult
      cases hresult
    | error fault =>
      rw [hdone] at hresult
      cases hresult

/-- All three at the same moment: the cancellation wins. -/
example : (({ pending := [(5, 0)] } : Timeline).race { token := ⟨[0]⟩, deadline := some 5 } 5).1 = .stopped .canceled := by
  decide

end Timeline

namespace Scene

/-- What a collaborator does for a call: it takes its time, and then performs it. -/
def future (s : Scene) (c : Call) : Future Scene c.Fault c.Value :=
  (Future.act (fun s => (s.perform c).2) fun s => .done (s.perform c).1).after (s.delays c)

/-- A call that nothing stops is performed after its delay. -/
theorem alone_future (s : Scene) (c : Call) (now : Nat) :
    (s.future c).alone now s = ⟨(s.perform c).1, now + s.delays c, (s.perform c).2⟩ := by
  rw [future, Future.alone_after]
  rfl

/-- What a call answers and changes does not depend on the time. -/
theorem perform_timeline (s : Scene) (c : Call) (t : Timeline) :
    ({ s with timeline := t } : Scene).perform c = ((s.perform c).1, { (s.perform c).2 with timeline := t }) := by
  unfold perform
  cases s.faults c with
  | some fault => rfl
  | none => cases c <;> rfl

/-- A call of a scene is driven under its context: it answers and changes what driving it does, at the same moment. -/
theorem answer_eq_drive (s : Scene) (ctx : Context) (c : Call) :
    (s.answer ctx c).1 = (s.timeline.drive ctx (s.future c) s).result ∧
    (s.answer ctx c).2.timeline.now = (s.timeline.drive ctx (s.future c) s).time ∧
    (s.answer ctx c).2 =
      { (s.timeline.drive ctx (s.future c) s).state with timeline := (s.answer ctx c).2.timeline } := by
  have halone := s.alone_future c s.timeline.now
  unfold answer
  cases hdone : s.timeline.interruption? ctx with
  | some cause =>
    obtain ⟨hrace, hnow⟩ := Timeline.race_refused hdone (s.delays c)
    rw [Timeline.drive_refused hdone]
    simp only [hrace, hnow, and_self]
  | none =>
    have hlength : (s.timeline.now + s.delays c = ((s.future c).alone s.timeline.now s).time) := by rw [halone]
    by_cases hseen : (s.timeline.seenAt (s.timeline.now + s.delays c)).interruption? ctx = none
    · obtain ⟨hrace, hnow⟩ := Timeline.race_finished hdone hseen
      rw [Timeline.drive_finished hdone (s.future c) s (by rwa [← hlength])]
      simp only [hrace, hnow, halone, perform_timeline, and_self]
    · rw [hlength] at hseen
      obtain ⟨hlt, time, cause, hstops, hle, hend⟩ := Timeline.drive_stopped hdone (s.future c) s hseen
      rw [← hlength] at hlt hle
      obtain ⟨hrace, hnow⟩ := Timeline.race_stopped hdone (by omega) hstops hle
      have hkept : (s.future c).polled (max 1 (time - s.timeline.now)) s = s := Future.polled_after _ (by omega) s
      rw [hend]
      simp only [hrace, hnow, hkept, and_self]

end Scene

end Tenancy
