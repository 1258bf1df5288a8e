import Mathlib.Data.List.Basic
import Tenancy.Context.Timeline

/-!
# Every context that was ever made

A grove keeps all contexts that were made on one timeline, each beside how it came about: as a new one, or from an earlier one.
Nothing is ever taken out, so that the contexts that a later one goes back to can still be asked for. The contexts are
numbered in the order in which they were made.

`Grove.Rooted` is what every step keeps: a context is what its origin makes of an earlier one, every token that was given out
has a number of its own, and the cancelled numbers are those of the contexts that were cancelled.
-/

namespace Tenancy

/-- How a context comes about: as a new one, or from the one with a number. -/
inductive Origin where
  | fresh
  | clone (source : Nat)
  | child (source : Nat)
  | withUser (source : Nat) (user : Id)
  | withDeadline (source : Nat) (deadline : Nat)
  | withTimeout (source : Nat) (timeout : Nat)
deriving DecidableEq, Repr

namespace Origin

/-- The number of the context that another one is made from. -/
def source? : Origin → Option Nat
  | fresh => none
  | clone source | child source | withUser source _ | withDeadline source _ | withTimeout source _ => some source

/-- Whether a token is given out. -/
def issues : Origin → Bool
  | fresh | child _ => true
  | clone _ | withUser .. | withDeadline .. | withTimeout .. => false

end Origin

/-- A context, how it came about, and when. -/
structure Member where
  origin : Origin
  time : Nat
  context : Context
deriving DecidableEq, Repr

namespace Member

/-- The deadline that was applied when the context was made. -/
def deadline? (m : Member) : Option Nat :=
  match m.origin with
  | .withDeadline _ deadline => some deadline
  | .withTimeout _ timeout => some (m.time + timeout)
  | _ => none

/-- The user that was attached when the context was made. -/
def user? (m : Member) : Option Id :=
  match m.origin with
  | .withUser _ user => some user
  | _ => none

/-- The numbers by which the context can be cancelled. -/
abbrev lineage (m : Member) : List Nat := m.context.token.lineage

end Member

/-- All contexts that were made on a timeline, and the numbers of those that were cancelled. -/
structure Grove where
  timeline : Timeline := {}
  members : List Member := []
  cancelled : List Nat := []
deriving Repr

/-- A step on the contexts of a grove. -/
inductive Grove.Step where
  | make (origin : Origin)
  | cancel (number : Nat)
  | wait (duration : Nat)
deriving DecidableEq, Repr

namespace Grove

/-- The context with a number. -/
def context? (g : Grove) (i : Nat) : Option Context := g.members[i]?.map Member.context

/-- Why the context with a number is done; nothing while it is live. -/
def interruption? (g : Grove) (i : Nat) : Option Interruption := (g.context? i).bind g.timeline.interruption?

/-- What comes about, and the timeline then; nothing from a source that has not been made. -/
def make? (g : Grove) : Origin → Option (Context × Timeline)
  | .fresh => some g.timeline.fresh
  | .clone source => (g.context? source).map fun ctx => (ctx, g.timeline)
  | .child source => (g.context? source).map g.timeline.child
  | .withUser source user => (g.context? source).map fun ctx => (ctx.withUser user, g.timeline)
  | .withDeadline source deadline => (g.context? source).map fun ctx => (ctx.withDeadline deadline, g.timeline)
  | .withTimeout source timeout =>
    (g.context? source).map fun ctx => (ctx.withTimeout g.timeline.now timeout, g.timeline)

/-- The grove after a step. What cannot be done is not done. -/
def step (g : Grove) : Step → Grove
  | .make origin =>
    match g.make? origin with
    | some (context, timeline) => { g with timeline, members := g.members ++ [⟨origin, g.timeline.now, context⟩] }
    | none => g
  | .cancel number =>
    match g.context? number with
    | some ctx => { g with timeline := g.timeline.cancel ctx, cancelled := number :: g.cancelled }
    | none => g
  | .wait duration => { g with timeline := g.timeline.advance duration }

/-- The grove after some steps, one after the other. -/
def run (g : Grove) (steps : List Step) : Grove := steps.foldl step g

/-- A context is that of the member with its number. -/
theorem context?_eq_some {g : Grove} {i : Nat} {ctx : Context} :
    g.context? i = some ctx ↔ ∃ m, g.members[i]? = some m ∧ m.context = ctx := by
  simp only [context?, Option.map_eq_some_iff]

/-- A member has its context. -/
theorem context?_of_member {g : Grove} {i : Nat} {m : Member} (h : g.members[i]? = some m) :
    g.context? i = some m.context := by
  rw [context?, h, Option.map_some]

/-- A member is done when its context is. -/
theorem interruption?_of_member {g : Grove} {i : Nat} {m : Member} (h : g.members[i]? = some m) :
    g.interruption? i = g.timeline.interruption? m.context := by
  rw [interruption?, context?_of_member h, Option.bind_some]

/-! ## What comes about -/

/-- The token of a context that derives from another one is that of the source, or for a child a new one below it. -/
def Passed (m s : Member) : Prop :=
  m.origin.issues = false ∧ m.context.token = s.context.token ∨
    (∃ j, m.origin = .child j) ∧ ∃ number, m.context.token = s.context.token.child number

/-- A context is a new one, or what its origin makes of an earlier one. -/
inductive Stems (members : List Member) (i : Nat) (m : Member) : Prop where
  | fresh (number : Nat) (origin : m.origin = .fresh) (context : m.context = { token := ⟨[number]⟩ })
  | derived {j : Nat} {s : Member} (source : m.origin.source? = some j) (earlier : j < i) (made : members[j]? = some s)
      (principal : m.context.principal = m.user?.or s.context.principal)
      (deadline : m.context.deadline = m.deadline?.elim s.context.deadline fun d => some (s.context.deadline.elim d (min d)))
      (token : Passed m s)

/-- More contexts do not change where the earlier ones stem from. -/
theorem Stems.append {members : List Member} {i : Nat} {m : Member} (h : Stems members i m) (more : List Member) :
    Stems (members ++ more) i m := by
  cases h with
  | fresh number origin context => exact .fresh number origin context
  | derived source earlier made principal deadline token =>
    refine .derived source earlier ?_ principal deadline token
    rw [List.getElem?_append_left (List.getElem?_eq_some_iff.mp made).1, made]

/-- What comes about stems from an earlier context, and the timeline then has given out a number more if there is a new
token. The number of the new token is the one that was next. -/
theorem make?_eq_some {g : Grove} {origin : Origin} {ctx : Context} {timeline : Timeline}
    (h : g.make? origin = some (ctx, timeline)) :
    Stems g.members g.members.length ⟨origin, g.timeline.now, ctx⟩ ∧
    timeline = { g.timeline with issued := g.timeline.issued + if origin.issues then 1 else 0 } ∧
    (origin.issues → ctx.token.lineage.head? = some g.timeline.issued) := by
  have known {j : Nat} {s : Member} (made : g.members[j]? = some s) : j < g.members.length :=
    (List.getElem?_eq_some_iff.mp made).1
  cases origin with
  | fresh =>
    obtain ⟨rfl, rfl⟩ := Prod.mk.inj (Option.some.inj h)
    exact ⟨.fresh _ rfl rfl, rfl, fun _ => rfl⟩
  | clone source =>
    obtain ⟨_, kept, h⟩ := Option.map_eq_some_iff.mp h
    obtain ⟨s, made, rfl⟩ := context?_eq_some.mp kept
    obtain ⟨rfl, rfl⟩ := Prod.mk.inj h
    exact ⟨.derived rfl (known made) made rfl rfl (.inl ⟨rfl, rfl⟩), rfl, nofun⟩
  | child source =>
    obtain ⟨_, kept, h⟩ := Option.map_eq_some_iff.mp h
    obtain ⟨s, made, rfl⟩ := context?_eq_some.mp kept
    obtain ⟨rfl, rfl⟩ := Prod.mk.inj h
    exact ⟨.derived rfl (known made) made rfl rfl (.inr ⟨⟨_, rfl⟩, _, rfl⟩), rfl, fun _ => rfl⟩
  | withUser source user =>
    obtain ⟨_, kept, h⟩ := Option.map_eq_some_iff.mp h
    obtain ⟨s, made, rfl⟩ := context?_eq_some.mp kept
    obtain ⟨rfl, rfl⟩ := Prod.mk.inj h
    exact ⟨.derived rfl (known made) made rfl rfl (.inl ⟨rfl, rfl⟩), rfl, nofun⟩
  | withDeadline source deadline =>
    obtain ⟨_, kept, h⟩ := Option.map_eq_some_iff.mp h
    obtain ⟨s, made, rfl⟩ := context?_eq_some.mp kept
    obtain ⟨rfl, rfl⟩ := Prod.mk.inj h
    refine ⟨.derived rfl (known made) made rfl ?_ (.inl ⟨rfl, rfl⟩), rfl, nofun⟩
    cases before : s.context.deadline <;> simp [Context.withDeadline, Member.deadline?, before]
  | withTimeout source timeout =>
    obtain ⟨_, kept, h⟩ := Option.map_eq_some_iff.mp h
    obtain ⟨s, made, rfl⟩ := context?_eq_some.mp kept
    obtain ⟨rfl, rfl⟩ := Prod.mk.inj h
    refine ⟨.derived rfl (known made) made rfl ?_ (.inl ⟨rfl, rfl⟩), rfl, nofun⟩
    cases before : s.context.deadline <;> simp [Context.withTimeout, Context.withDeadline, Member.deadline?, before]

/-- To cancel a context cancels its token. -/
theorem step_cancel {g : Grove} {i : Nat} {m : Member} (found : g.members[i]? = some m) :
    g.step (.cancel i) = { g with timeline := g.timeline.cancel m.context, cancelled := i :: g.cancelled } := by
  simp only [step, context?_of_member found]

theorem step_cancel_none {g : Grove} {i : Nat} (h : g.members[i]? = none) : g.step (.cancel i) = g := by
  simp only [step, context?, h, Option.map_none]

/-- All that a step can do. -/
theorem step_cases (g : Grove) (s : Step) :
    g.step s = g ∨
    (∃ origin ctx timeline, s = .make origin ∧ g.make? origin = some (ctx, timeline) ∧
      g.step s = { g with timeline, members := g.members ++ [⟨origin, g.timeline.now, ctx⟩] }) ∨
    (∃ i m, s = .cancel i ∧ g.members[i]? = some m ∧
      g.step s = { g with timeline := g.timeline.cancel m.context, cancelled := i :: g.cancelled }) ∨
    (∃ duration, s = .wait duration ∧ g.step s = { g with timeline := g.timeline.advance duration }) := by
  cases s with
  | make origin =>
    cases made : g.make? origin with
    | none => exact .inl (by simp only [step, made])
    | some result => exact .inr (.inl ⟨origin, result.1, result.2, rfl, made, by simp only [step, made]⟩)
  | cancel i =>
    cases kept : g.members[i]? with
    | none => exact .inl (step_cancel_none kept)
    | some m => exact .inr (.inr (.inl ⟨i, m, rfl, kept, step_cancel kept⟩))
  | wait duration => exact .inr (.inr (.inr ⟨duration, rfl, rfl⟩))

/-- A member that has been made stays as it is. -/
theorem member_step {g : Grove} {i : Nat} {m : Member} (h : g.members[i]? = some m) (s : Step) :
    (g.step s).members[i]? = some m := by
  obtain ⟨known, -⟩ := List.getElem?_eq_some_iff.mp h
  obtain same | ⟨_, _, _, -, -, same⟩ | ⟨_, _, -, -, same⟩ | ⟨_, -, same⟩ := g.step_cases s
  · rwa [same]
  · rw [same, List.getElem?_append_left known, h]
  · rwa [same]
  · rwa [same]

/-! ## What every step keeps -/

/-- The contexts of a grove stem from each other, every token that was given out has a number of its own, and the cancelled
numbers are the first ones of the contexts that were cancelled. Nothing is to be cancelled later. -/
structure Rooted (g : Grove) : Prop where
  settled : g.timeline.pending = []
  stems : ∀ {i : Nat} {m : Member}, g.members[i]? = some m → Stems g.members i m
  issued : ∀ {i : Nat} {m : Member}, g.members[i]? = some m → ∀ number ∈ m.lineage, number < g.timeline.issued
  single : ∀ {i j : Nat} {m n : Member}, g.members[i]? = some m → g.members[j]? = some n → m.origin.issues → n.origin.issues →
    m.lineage.head? = n.lineage.head? → i = j
  cancelled : ∀ number, number ∈ g.timeline.cancelled ↔
    ∃ i ∈ g.cancelled, ∃ m, g.members[i]? = some m ∧ m.lineage.head? = some number
  made : ∀ i ∈ g.cancelled, ∃ m, g.members[i]? = some m

/-- Where there are no contexts everything is in order. -/
theorem rooted_empty : Rooted {} :=
  ⟨rfl, fun h => by simp at h, fun h => by simp at h, fun h => by simp at h, fun number => by simp, fun i h => by simp at h⟩

/-- The numbers of a context that stems from others were given out before, or right now. -/
theorem Stems.number_lt {g : Grove} {i bound : Nat} {m : Member} (h : Stems g.members i m)
    (before : ∀ {j : Nat} {s : Member}, g.members[j]? = some s → ∀ number ∈ s.lineage, number < bound)
    (head : m.origin.issues → ∀ number, m.lineage.head? = some number → number < bound) :
    ∀ number ∈ m.lineage, number < bound := by
  intro number listed
  cases h with
  | fresh own origin context =>
    simp only [Member.lineage, context, List.mem_singleton] at listed head
    exact head (by rw [origin]; rfl) number (by rw [listed]; rfl)
  | derived _ _ made _ _ token =>
    rcases token with ⟨-, same⟩ | ⟨⟨j, origin⟩, own, below⟩
    · rw [Member.lineage, same] at listed
      exact before made number listed
    · simp only [Member.lineage, below, Token.child, List.mem_cons] at listed head
      rcases listed with rfl | above
      · exact head (by rw [origin]; rfl) number rfl
      · exact before made number above

/-- A member of a longer list is one of those before, or the last one. -/
theorem member_concat {members : List Member} {last m : Member} {i : Nat} (found : (members ++ [last])[i]? = some m) :
    members[i]? = some m ∨ (i = members.length ∧ m = last) := by
  rw [List.getElem?_append] at found
  split at found
  · exact .inl found
  · obtain ⟨bound, rfl⟩ := List.getElem?_eq_some_iff.mp found
    rw [List.length_singleton] at bound
    exact .inr ⟨by omega, by simp⟩

/-- What has come about keeps a grove rooted. If it has a new token, no earlier context has its number. -/
theorem Rooted.make {g : Grove} (h : g.Rooted) {origin : Origin} {ctx : Context} {timeline : Timeline}
    (made : g.make? origin = some (ctx, timeline)) :
    Rooted { g with timeline, members := g.members ++ [⟨origin, g.timeline.now, ctx⟩] } := by
  obtain ⟨stems, rfl, head⟩ := make?_eq_some made
  have kept {i : Nat} {m : Member} (found : g.members[i]? = some m) :
      (g.members ++ [⟨origin, g.timeline.now, ctx⟩])[i]? = some m := by
    rw [List.getElem?_append_left (List.getElem?_eq_some_iff.mp found).1, found]
  have foreign {j : Nat} {n : Member} (found : g.members[j]? = some n) (issues : origin.issues)
      (same : ctx.token.lineage.head? = n.lineage.head?) : False := by
    have listed : g.timeline.issued ∈ n.lineage := List.mem_of_head? (by rw [← same, head issues])
    exact absurd (h.issued found _ listed) (Nat.lt_irrefl _)
  constructor
  case settled => exact h.settled
  case stems =>
    intro i m found
    rcases member_concat found with old | ⟨rfl, rfl⟩
    · exact (h.stems old).append _
    · exact stems.append _
  case issued =>
    have before {j : Nat} {n : Member} (old : g.members[j]? = some n) (number : Nat) (listed : number ∈ n.lineage) :
        number < g.timeline.issued + if origin.issues then 1 else 0 :=
      Nat.lt_of_lt_of_le (h.issued old number listed) (Nat.le_add_right _ _)
    intro i m found
    rcases member_concat found with old | ⟨rfl, rfl⟩
    · exact before old
    · refine stems.number_lt before fun issues number first => ?_
      have issues : origin.issues = true := issues
      have own : number = g.timeline.issued := Option.some.inj (first.symm.trans (head issues))
      rw [if_pos issues, own]
      exact Nat.lt_succ_self _
  case single =>
    intro i j m n found₁ found₂ issues₁ issues₂ same
    rcases member_concat found₁ with old₁ | ⟨rfl, rfl⟩ <;> rcases member_concat found₂ with old₂ | ⟨rfl, rfl⟩
    · exact h.single old₁ old₂ issues₁ issues₂ same
    · exact (foreign old₁ issues₂ same.symm).elim
    · exact (foreign old₂ issues₁ same).elim
    · rfl
  case cancelled =>
    intro number
    rw [h.cancelled number]
    refine exists_congr fun i => and_congr_right fun listed => ?_
    obtain ⟨m, old⟩ := h.made i listed
    constructor
    · rintro ⟨m, found, first⟩
      exact ⟨m, kept found, first⟩
    · rintro ⟨n, found, first⟩
      exact ⟨n, by rw [old, ← kept old, found], first⟩
  case made =>
    intro i listed
    obtain ⟨m, old⟩ := h.made i listed
    exact ⟨m, kept old⟩

/-- Cancelling a context keeps a grove rooted. -/
theorem Rooted.cancel {g : Grove} (h : g.Rooted) {i : Nat} {m : Member} (found : g.members[i]? = some m) :
    Rooted { g with timeline := g.timeline.cancel m.context, cancelled := i :: g.cancelled } := by
  refine ⟨h.settled, h.stems, h.issued, h.single, fun number => ?_, fun j listed => ?_⟩
  · have first : number ∈ m.lineage.take 1 ↔ m.lineage.head? = some number := by
      cases m.lineage <;> simp [eq_comm]
    simp only [Timeline.cancel, List.mem_append, List.mem_cons, first, h.cancelled number, exists_eq_or_imp, found,
      Option.some.injEq, exists_eq_left']
  · rcases List.mem_cons.mp listed with rfl | before
    · exact ⟨m, found⟩
    · exact h.made j before

/-- Nothing is cancelled by the passing of time, since no cancellation is to come. -/
theorem Rooted.wait {g : Grove} (h : g.Rooted) (duration : Nat) :
    Rooted { g with timeline := g.timeline.advance duration } := by
  have cancelled : (g.timeline.advance duration).cancelled = g.timeline.cancelled := by
    simp only [Timeline.advance, Timeline.moveTo, h.settled, List.filter_nil, List.map_nil, List.nil_append]
  have settled : (g.timeline.advance duration).pending = [] := by
    simp only [Timeline.advance, Timeline.moveTo, h.settled, List.filter_nil]
  exact ⟨settled, h.stems, h.issued, h.single, fun number => by rw [cancelled, h.cancelled number], h.made⟩

/-- Every step keeps a grove rooted. -/
theorem Rooted.step {g : Grove} (h : g.Rooted) (s : Step) : (g.step s).Rooted := by
  obtain same | ⟨origin, ctx, timeline, -, made, same⟩ | ⟨i, m, -, found, same⟩ | ⟨duration, -, same⟩ := g.step_cases s
  · rwa [same]
  · rw [same]
    exact h.make made
  · rw [same]
    exact h.cancel found
  · rw [same]
    exact h.wait duration

/-- A grove stays rooted. -/
theorem Rooted.run {g : Grove} (h : g.Rooted) (steps : List Step) : (g.run steps).Rooted := by
  induction steps generalizing g with
  | nil => exact h
  | cons s steps ih => exact ih (h.step s)

end Grove

end Tenancy
