import Mathlib.Logic.Relation
import Tenancy.Proofs.Context.Grove
import Tenancy.Proofs.Context.Interruption

/-!
# What a context owes to the contexts it derives from

Contexts derive from each other in a forest. The contexts that are made from another one with its token share the token, and a
child has a token of its own below that of its source. What holds of a context is read off the path back to the new context
that it derives from, and off the cancellations so far: `Grove.Sound` says so for every context of a grove, and
`Grove.Rooted.sound` that it follows from what every step keeps.
-/

namespace Tenancy

namespace Grove

/-! ## Derivations -/

/-- A context was made from another one. -/
def Derives (g : Grove) (i j : Nat) : Prop := ∃ m, g.members[i]? = some m ∧ m.origin.source? = some j

/-- A context was made from another one, with its token. -/
def Copies (g : Grove) (i j : Nat) : Prop :=
  ∃ m, g.members[i]? = some m ∧ m.origin.source? = some j ∧ m.origin.issues = false

/-- A context is a child of another one. -/
def ChildOf (g : Grove) (i j : Nat) : Prop := ∃ m, g.members[i]? = some m ∧ m.origin = .child j

/-- Two contexts have one token: one was made with the token of the other, or both with that of a third one, and so on. -/
def Shares (g : Grove) : Nat → Nat → Prop := Relation.EqvGen g.Copies

/-- The token of a context descends from that of another one. -/
inductive Below (g : Grove) : Nat → Nat → Prop where
  | child {i a b j : Nat} (own : g.Shares i a) (child : g.ChildOf a b) (shared : g.Shares b j) : Below g i j
  | trans {i j k : Nat} (lower : Below g i j) (upper : Below g j k) : Below g i k

/-- Two different children of contexts with one token. -/
def Siblings (g : Grove) (i j : Nat) : Prop := i ≠ j ∧ ∃ a b, g.ChildOf i a ∧ g.ChildOf j b ∧ g.Shares a b

/-- The path from a context back to a new one, with the context itself first. -/
inductive Path (g : Grove) : Nat → List Member → Prop where
  | fresh {i : Nat} {m : Member} (made : g.members[i]? = some m) (source : m.origin.source? = none) : Path g i [m]
  | derived {i j : Nat} {m : Member} {path : List Member} (made : g.members[i]? = some m)
      (source : m.origin.source? = some j) (rest : Path g j path) : Path g i (m :: path)

/-- What the contexts of a grove owe to each other. -/
structure Sound (g : Grove) : Prop where
  /-- Every context derives from a new one. -/
  path : ∀ i m, g.members[i]? = some m → ∃ path, g.Path i path
  /-- The deadline is the earliest one that was applied on the path. -/
  deadline : ∀ i m path, g.members[i]? = some m → g.Path i path →
    m.context.deadline = (path.filterMap Member.deadline?).min?
  /-- The order in which the deadlines were applied does not matter. -/
  reordered : ∀ i j m n path other, g.members[i]? = some m → g.members[j]? = some n → g.Path i path → g.Path j other →
    (path.filterMap Member.deadline?).Perm (other.filterMap Member.deadline?) → m.context.deadline = n.context.deadline
  /-- The deadline is never after that of the source. -/
  notLater : ∀ i j m n, g.Derives i j → g.members[i]? = some m → g.members[j]? = some n →
    ∀ late, n.context.deadline = some late → ∃ early, m.context.deadline = some early ∧ early ≤ late
  /-- A context is cancelled by a context with its token, and by one whose token its own one descends from. -/
  canceled : ∀ i m, g.members[i]? = some m →
    (g.interruption? i = some .canceled ↔ ∃ j ∈ g.cancelled, g.Shares i j ∨ g.Below i j)
  /-- A context is never cancelled by one whose token descends from its own one, or by a sibling. -/
  spared : ∀ i j, g.Below j i ∨ g.Siblings i j → (g.step (.cancel j)).interruption? i = g.interruption? i
  /-- A context that is done stays done. -/
  lasting : ∀ i steps, g.interruption? i ≠ none → (g.run steps).interruption? i ≠ none
  /-- A context is done when its source is. -/
  inherited : ∀ i j, g.Derives i j → g.interruption? j ≠ none → g.interruption? i ≠ none
  /-- The principal is the user that was attached last on the path. -/
  principal : ∀ i m path, g.members[i]? = some m → g.Path i path → m.context.principal = path.findSome? Member.user?

/-! ## Tokens -/

/-- The numbers by which the context with a number can be cancelled. -/
def lineage? (g : Grove) (i : Nat) : Option (List Nat) := g.members[i]?.map Member.lineage

theorem lineage?_of_member {g : Grove} {i : Nat} {m : Member} (found : g.members[i]? = some m) :
    g.lineage? i = some m.lineage := by
  rw [lineage?, found, Option.map_some]

/-- What a context that was made from another one has of it. -/
theorem Stems.of_source {members : List Member} {i j : Nat} {m : Member} (h : Stems members i m)
    (source : m.origin.source? = some j) :
    ∃ s, j < i ∧ members[j]? = some s ∧ m.context.principal = m.user?.or s.context.principal ∧
      (m.context.deadline = m.deadline?.elim s.context.deadline fun d => some (s.context.deadline.elim d (min d))) ∧
      Passed m s := by
  cases h with
  | fresh _ origin _ => simp [origin, Origin.source?] at source
  | @derived k s source' earlier made principal deadline token =>
    obtain rfl : j = k := Option.some.inj (source.symm.trans source')
    exact ⟨s, earlier, made, principal, deadline, token⟩

/-- Every context can be cancelled by some number. -/
theorem Rooted.lineage_ne_nil {g : Grove} (h : g.Rooted) {i : Nat} {m : Member} (found : g.members[i]? = some m) :
    m.lineage ≠ [] := by
  induction i using Nat.strongRecOn generalizing m with
  | ind i ih =>
    cases h.stems found with
    | fresh number _ context => simp [Member.lineage, context]
    | derived _ earlier made _ _ token =>
      rcases token with ⟨-, same⟩ | ⟨-, number, below⟩
      · rw [Member.lineage, same]
        exact ih _ earlier made
      · simp [Member.lineage, below, Token.child]

/-- A child has one number more than its source. -/
theorem Rooted.lineage_of_childOf {g : Grove} (h : g.Rooted) {i j : Nat} (child : g.ChildOf i j) :
    ∃ number above, g.lineage? i = some (number :: above) ∧ g.lineage? j = some above := by
  obtain ⟨m, found, origin⟩ := child
  obtain ⟨s, -, made, -, -, ⟨keeps, -⟩ | ⟨-, number, below⟩⟩ := (h.stems found).of_source (show m.origin.source? = some j by rw [origin]; rfl)
  · simp [origin, Origin.issues] at keeps
  · exact ⟨number, s.lineage, by rw [lineage?_of_member found, Member.lineage, below]; rfl, lineage?_of_member made⟩

/-- Contexts that share a token have one lineage. -/
theorem Rooted.lineage_of_shares {g : Grove} (h : g.Rooted) {i j : Nat} (shares : g.Shares i j) :
    g.lineage? i = g.lineage? j := by
  induction shares with
  | rel i j copies =>
    obtain ⟨m, found, source, keeps⟩ := copies
    obtain ⟨s, -, made, -, -, ⟨-, same⟩ | ⟨⟨k, origin⟩, -⟩⟩ := (h.stems found).of_source source
    · rw [lineage?_of_member found, lineage?_of_member made, Member.lineage, same]
    · simp [origin, Origin.issues] at keeps
  | refl => rfl
  | symm _ _ _ ih => exact ih.symm
  | trans _ _ _ _ _ ih₁ ih₂ => exact ih₁.trans ih₂

/-- The lineage of a context continues with that of any context whose token it descends from. -/
theorem Rooted.lineage_of_below {g : Grove} (h : g.Rooted) {i j : Nat} (below : g.Below i j) :
    ∃ first rest above, g.lineage? i = some (first :: rest ++ above) ∧ g.lineage? j = some above := by
  induction below with
  | child own child shared =>
    obtain ⟨number, above, lower, upper⟩ := h.lineage_of_childOf child
    exact ⟨number, [], above, by rw [h.lineage_of_shares own, lower]; rfl, by rw [← h.lineage_of_shares shared, upper]⟩
  | trans _ _ ih₁ ih₂ =>
    obtain ⟨first, rest, middle, lower, upper⟩ := ih₁
    obtain ⟨first', rest', above, lower', upper'⟩ := ih₂
    obtain rfl : middle = first' :: rest' ++ above := Option.some.inj (upper.symm.trans lower')
    exact ⟨first, rest ++ first' :: rest', above, by rw [lower]; simp, upper'⟩

/-- Every context has the token that one context was made with. -/
theorem Rooted.exists_holder {g : Grove} (h : g.Rooted) {i : Nat} {m : Member} (found : g.members[i]? = some m) :
    ∃ k n, g.members[k]? = some n ∧ n.origin.issues ∧ n.lineage = m.lineage ∧ g.Shares i k := by
  induction i using Nat.strongRecOn generalizing m with
  | ind i ih =>
    cases h.stems found with
    | fresh _ origin _ => exact ⟨i, m, found, by rw [origin]; rfl, rfl, .refl i⟩
    | @derived j s source earlier made _ _ token =>
      rcases token with ⟨keeps, same⟩ | ⟨⟨_, origin⟩, -⟩
      · obtain ⟨k, n, holder, issues, lineage, shares⟩ := ih j earlier made
        refine ⟨k, n, holder, issues, by rw [lineage, Member.lineage, Member.lineage, same], ?_⟩
        exact .trans _ _ _ (.rel _ _ ⟨m, found, source, keeps⟩) shares
      · exact ⟨i, m, found, by rw [origin]; rfl, rfl, .refl i⟩

/-- The first number of a lineage tells the token. -/
theorem Rooted.shares_of_head {g : Grove} (h : g.Rooted) {i j : Nat} {m n : Member} (found : g.members[i]? = some m)
    (found' : g.members[j]? = some n) (same : m.lineage.head? = n.lineage.head?) : g.Shares i j := by
  obtain ⟨k, x, holder, issues, lineage, shares⟩ := h.exists_holder found
  obtain ⟨l, y, holder', issues', lineage', shares'⟩ := h.exists_holder found'
  obtain rfl : k = l := h.single holder holder' issues issues' (by rw [lineage, lineage', same])
  exact .trans _ _ _ shares (.symm _ _ shares')

/-- What lies below a token lies below it with all contexts that share its own one. -/
theorem Below.of_shares {g : Grove} {i j k : Nat} (shares : g.Shares i j) (below : g.Below j k) : g.Below i k := by
  induction below with
  | child own child shared => exact .child (.trans _ _ _ shares own) child shared
  | trans _ upper ih => exact .trans (ih shares) upper

/-- A context whose lineage holds the number of a token has this token, or one below it. -/
theorem Rooted.shares_or_below {g : Grove} (h : g.Rooted) {i j number : Nat} {m n : Member}
    (found : g.members[i]? = some m) (found' : g.members[j]? = some n) (head : n.lineage.head? = some number)
    (listed : number ∈ m.lineage) : g.Shares i j ∨ g.Below i j := by
  induction i using Nat.strongRecOn generalizing m with
  | ind i ih =>
    -- the number is the context's own one, or that of a context further back
    cases h.stems found with
    | fresh own _ context =>
      simp only [Member.lineage, context, List.mem_singleton] at listed
      exact .inl (h.shares_of_head found found' (by rw [head, listed, Member.lineage, context]; rfl))
    | @derived a s source earlier made _ _ token =>
      rcases token with ⟨keeps, same⟩ | ⟨⟨b, origin⟩, own, below⟩
      · have copies : g.Shares i a := .rel _ _ ⟨m, found, source, keeps⟩
        rw [Member.lineage, same] at listed
        rcases ih a earlier made listed with shares | below
        · exact .inl (.trans _ _ _ copies shares)
        · exact .inr (below.of_shares copies)
      · obtain rfl : b = a := by rw [origin] at source; exact Option.some.inj source
        have child : g.ChildOf i b := ⟨m, found, origin⟩
        simp only [Member.lineage, below, Token.child, List.mem_cons] at listed
        rcases listed with rfl | above
        · exact .inl (h.shares_of_head found found' (by rw [head, Member.lineage, below]; rfl))
        · rcases ih b earlier made above with shares | below
          · exact .inr (.child (.refl i) child shares)
          · exact .inr (.trans (.child (.refl i) child (.refl b)) below)

/-- What a lineage says about tokens: it holds the number of a token exactly if the context has this token, or one below it. -/
theorem Rooted.head_mem_lineage_iff {g : Grove} (h : g.Rooted) {i j : Nat} {m n : Member} (found : g.members[i]? = some m)
    (found' : g.members[j]? = some n) :
    (∃ number ∈ m.lineage, n.lineage.head? = some number) ↔ g.Shares i j ∨ g.Below i j := by
  constructor
  · rintro ⟨number, listed, head⟩
    exact h.shares_or_below found found' head listed
  · obtain ⟨number, rest, lineage⟩ := List.exists_cons_of_ne_nil (h.lineage_ne_nil found')
    have own := lineage?_of_member found
    have other := lineage?_of_member found'
    rintro (shares | below)
    · have same : m.lineage = n.lineage := Option.some.inj (own.symm.trans ((h.lineage_of_shares shares).trans other))
      exact ⟨number, by rw [same, lineage]; exact List.mem_cons_self, by rw [lineage]; rfl⟩
    · obtain ⟨first, between, above, lower, upper⟩ := h.lineage_of_below below
      have low : m.lineage = first :: between ++ above := Option.some.inj (own.symm.trans lower)
      have high : n.lineage = above := Option.some.inj (other.symm.trans upper)
      exact ⟨number, by rw [low, ← high, lineage]; simp, by rw [lineage]; rfl⟩

/-! ## Tokens apart -/

/-- A token that descends from another one has more numbers. -/
theorem Rooted.length_lt_of_below {g : Grove} (h : g.Rooted) {i j : Nat} (below : g.Below i j) {lower upper : List Nat}
    (own : g.lineage? i = some lower) (other : g.lineage? j = some upper) : upper.length < lower.length := by
  obtain ⟨first, rest, above, own', other'⟩ := h.lineage_of_below below
  obtain rfl : lower = first :: rest ++ above := Option.some.inj (own.symm.trans own')
  obtain rfl : upper = above := Option.some.inj (other.symm.trans other')
  rw [List.cons_append, List.length_cons, List.length_append]
  omega

/-- A context has neither the token of one whose token is below its own one, nor a token below that. -/
theorem Rooted.apart_of_below {g : Grove} (h : g.Rooted) {i j : Nat} (below : g.Below j i) :
    ¬ (g.Shares i j ∨ g.Below i j) := by
  obtain ⟨first, rest, above, lower, upper⟩ := h.lineage_of_below below
  have longer := h.length_lt_of_below below lower upper
  rintro (shares | back)
  · have same : above = first :: rest ++ above := Option.some.inj (upper.symm.trans ((h.lineage_of_shares shares).trans lower))
    exact absurd (congrArg List.length same) (Nat.ne_of_lt longer)
  · exact absurd (h.length_lt_of_below back upper lower) (Nat.lt_asymm longer)

/-- Siblings do not share a token, and neither has one below the other. -/
theorem Rooted.apart_of_siblings {g : Grove} (h : g.Rooted) {i j : Nat} (siblings : g.Siblings i j) :
    ¬ (g.Shares i j ∨ g.Below i j) := by
  obtain ⟨different, a, b, child, child', sources⟩ := siblings
  obtain ⟨number, above, lower, upper⟩ := h.lineage_of_childOf child
  obtain ⟨number', above', lower', upper'⟩ := h.lineage_of_childOf child'
  obtain rfl : above = above' := Option.some.inj (upper.symm.trans ((h.lineage_of_shares sources).trans upper'))
  rintro (shares | below)
  · have same := h.lineage_of_shares shares
    obtain ⟨m, found, origin⟩ := child
    obtain ⟨n, found', origin'⟩ := child'
    rw [lineage?_of_member found, lineage?_of_member found'] at same
    refine different (h.single found found' ?_ ?_ (by rw [Option.some.inj same]))
    · rw [origin]; rfl
    · rw [origin']; rfl
  · exact absurd (h.length_lt_of_below below lower lower') (Nat.lt_irrefl _)

/-! ## Cancellation -/

/-- A token is cancelled exactly when one that it shares or lies below has been. -/
theorem Rooted.isCancelled_iff {g : Grove} (h : g.Rooted) {i : Nat} {m : Member} (found : g.members[i]? = some m) :
    g.timeline.isCancelled m.context.token = true ↔ ∃ j ∈ g.cancelled, g.Shares i j ∨ g.Below i j := by
  rw [Timeline.isCancelled_iff]
  constructor
  · rintro ⟨number, own, cancelled⟩
    obtain ⟨j, cancelled, n, found', head⟩ := (h.cancelled number).mp cancelled
    exact ⟨j, cancelled, (h.head_mem_lineage_iff found found').mp ⟨number, own, head⟩⟩
  · rintro ⟨j, cancelled, related⟩
    obtain ⟨n, found'⟩ := h.made j cancelled
    obtain ⟨number, own, head⟩ := (h.head_mem_lineage_iff found found').mpr related
    exact ⟨number, own, (h.cancelled number).mpr ⟨j, cancelled, n, found', head⟩⟩

/-- To cancel a context is of no concern to one with neither its token nor one below it. -/
theorem Rooted.interruption?_cancel {g : Grove} (h : g.Rooted) {i j : Nat} (apart : ¬ (g.Shares i j ∨ g.Below i j)) :
    (g.step (.cancel j)).interruption? i = g.interruption? i := by
  cases found' : g.members[j]? with
  | none => rw [step_cancel_none found']
  | some n =>
    rw [step_cancel found']
    cases found : g.members[i]? with
    | none => simp only [interruption?, context?, found, Option.map_none, Option.bind_none]
    | some m =>
      have same : (g.timeline.cancel n.context).isCancelled m.context.token = g.timeline.isCancelled m.context.token := by
        rw [Bool.eq_iff_iff, Timeline.isCancelled_cancel_iff, h.head_mem_lineage_iff found found', or_iff_right apart]
      simp only [interruption?, context?, found, Option.map_some, Option.bind_some, Timeline.interruption?, same]
      rfl

/-! ## Interruption -/

/-- Cancellations are not taken back, and time does not go back. -/
theorem timeline_step (g : Grove) (s : Step) :
    g.timeline.cancelled ⊆ (g.step s).timeline.cancelled ∧ g.timeline.now ≤ (g.step s).timeline.now := by
  obtain same | ⟨_, _, _, -, made, same⟩ | ⟨_, m, -, -, same⟩ | ⟨duration, -, same⟩ := g.step_cases s
  · rw [same]
    exact ⟨List.Subset.refl _, Nat.le_refl _⟩
  · obtain ⟨-, rfl, -⟩ := make?_eq_some made
    rw [same]
    exact ⟨List.Subset.refl _, Nat.le_refl _⟩
  · rw [same]
    exact ⟨List.subset_append_right _ _, Nat.le_refl _⟩
  · rw [same]
    exact ⟨List.subset_append_right _ _, Nat.le_max_left _ _⟩

/-- A context that is done stays done in a step. -/
theorem interruption?_step {g : Grove} {i : Nat} (done : g.interruption? i ≠ none) (s : Step) :
    (g.step s).interruption? i ≠ none := by
  cases found : g.members[i]? with
  | none => simp [interruption?, context?, found] at done
  | some m =>
    obtain ⟨cancelled, now⟩ := g.timeline_step s
    rw [interruption?_of_member found] at done
    rw [interruption?_of_member (member_step found s)]
    exact Timeline.interruption?_ne_none_mono done (List.Subset.refl _) (fun late kept => ⟨late, kept, Nat.le_refl late⟩)
      cancelled now

/-- A context that is done stays done. -/
theorem interruption?_run {g : Grove} {i : Nat} (done : g.interruption? i ≠ none) (steps : List Step) :
    (g.run steps).interruption? i ≠ none := by
  induction steps generalizing g with
  | nil => exact done
  | cons s steps ih => exact ih (interruption?_step done s)

/-- The deadline of a source is kept, or replaced by an earlier one. -/
theorem Rooted.deadline_le {g : Grove} (h : g.Rooted) {i j : Nat} {m n : Member} (derives : g.Derives i j)
    (found : g.members[i]? = some m) (found' : g.members[j]? = some n) :
    ∀ late, n.context.deadline = some late → ∃ early, m.context.deadline = some early ∧ early ≤ late := by
  obtain ⟨m', found'', source⟩ := derives
  obtain rfl : m' = m := Option.some.inj (found''.symm.trans found)
  obtain ⟨s, -, made, -, deadline, -⟩ := (h.stems found).of_source source
  obtain rfl : s = n := Option.some.inj (made.symm.trans found')
  intro late before
  rw [deadline, before]
  cases m'.deadline? with
  | none => exact ⟨late, rfl, Nat.le_refl late⟩
  | some applied => exact ⟨min applied late, rfl, Nat.min_le_right _ _⟩

/-- A context is cancelled and due no later than its source. -/
theorem Rooted.interruption?_of_source {g : Grove} (h : g.Rooted) {i j : Nat} (derives : g.Derives i j)
    (done : g.interruption? j ≠ none) : g.interruption? i ≠ none := by
  obtain ⟨m, found, source⟩ := id derives
  obtain ⟨s, -, made, -, -, token⟩ := (h.stems found).of_source source
  rw [interruption?_of_member made] at done
  rw [interruption?_of_member found]
  refine Timeline.interruption?_ne_none_mono done ?_ (h.deadline_le derives found made) (List.Subset.refl _) (Nat.le_refl _)
  rcases token with ⟨-, same⟩ | ⟨-, number, below⟩
  · rw [same]
    exact List.Subset.refl _
  · rw [below]
    exact List.subset_cons_self _ _

/-! ## Paths -/

/-- A context without a source is a new one, with nothing but a token. -/
theorem Stems.fresh_of_no_source {members : List Member} {i : Nat} {m : Member} (h : Stems members i m)
    (source : m.origin.source? = none) : m.origin = .fresh ∧ ∃ number, m.context = { token := ⟨[number]⟩ } := by
  cases h with
  | fresh number origin context => exact ⟨origin, number, context⟩
  | derived source' => simp [source] at source'

/-- Every context has a path back to a new one. -/
theorem Rooted.exists_path {g : Grove} (h : g.Rooted) {i : Nat} {m : Member} (found : g.members[i]? = some m) :
    ∃ path, g.Path i path := by
  induction i using Nat.strongRecOn generalizing m with
  | ind i ih =>
    cases h.stems found with
    | fresh _ origin _ => exact ⟨[m], .fresh found (by rw [origin]; rfl)⟩
    | derived source earlier made =>
      obtain ⟨path, rest⟩ := ih _ earlier made
      exact ⟨m :: path, .derived found source rest⟩

/-- The deadline of a context is the earliest one on its path. -/
theorem Rooted.deadline_eq {g : Grove} (h : g.Rooted) {i : Nat} {path : List Member} (hpath : g.Path i path) :
    ∀ m, g.members[i]? = some m → m.context.deadline = (path.filterMap Member.deadline?).min? := by
  induction hpath with
  | @fresh i m made source =>
    intro m' found
    obtain rfl : m = m' := Option.some.inj (made.symm.trans found)
    obtain ⟨origin, number, context⟩ := (h.stems made).fresh_of_no_source source
    have none : m.deadline? = none := by rw [Member.deadline?, origin]
    rw [context, List.filterMap_cons_none none]
    rfl
  | @derived i j m path made source rest ih =>
    intro m' found
    obtain rfl : m = m' := Option.some.inj (made.symm.trans found)
    obtain ⟨s, -, made', -, deadline, -⟩ := (h.stems made).of_source source
    rw [deadline, ih s made']
    cases applied : m.deadline? with
    | none => rw [List.filterMap_cons_none applied]; rfl
    | some d => rw [List.filterMap_cons_some applied, List.min?_cons]; rfl

/-- The principal of a context is the user that was attached last on its path. -/
theorem Rooted.principal_eq {g : Grove} (h : g.Rooted) {i : Nat} {path : List Member} (hpath : g.Path i path) :
    ∀ m, g.members[i]? = some m → m.context.principal = path.findSome? Member.user? := by
  induction hpath with
  | @fresh i m made source =>
    intro m' found
    obtain rfl : m = m' := Option.some.inj (made.symm.trans found)
    obtain ⟨origin, number, context⟩ := (h.stems made).fresh_of_no_source source
    rw [context, List.findSome?_singleton, Member.user?, origin]
  | @derived i j m path made source rest ih =>
    intro m' found
    obtain rfl : m = m' := Option.some.inj (made.symm.trans found)
    obtain ⟨s, -, made', principal, -, -⟩ := (h.stems made).of_source source
    rw [principal, ih s made', List.findSome?_cons]
    cases m.user? <;> rfl

/-- The earliest of some deadlines, in any order. -/
theorem earliest_of_perm {applied other : List Nat} (h : applied.Perm other) : applied.min? = other.min? :=
  Option.ext fun d => by simp only [List.min?_eq_some_iff, h.mem_iff]

/-! ## Every grove -/

/-- A grove in which every context stems from what was there before is sound. -/
theorem Rooted.sound {g : Grove} (h : g.Rooted) : g.Sound where
  path i m found := h.exists_path found
  deadline i m path found hpath := h.deadline_eq hpath m found
  reordered i j m n path other found found' hpath hother perm := by
    rw [h.deadline_eq hpath m found, h.deadline_eq hother n found']
    exact earliest_of_perm perm
  notLater i j m n derives found found' := h.deadline_le derives found found'
  canceled i m found := by
    rw [interruption?_of_member found, Timeline.interruption?_eq_canceled_iff]
    exact h.isCancelled_iff found
  spared i j apart := by
    refine h.interruption?_cancel ?_
    rcases apart with below | siblings
    · exact h.apart_of_below below
    · exact h.apart_of_siblings siblings
  lasting i steps done := interruption?_run done steps
  inherited i j derives done := h.interruption?_of_source derives done
  principal i m path found hpath := h.principal_eq hpath m found

/-- Steps can be made in two goes. -/
theorem run_append (g : Grove) (steps more : List Step) : g.run (steps ++ more) = (g.run steps).run more :=
  List.foldl_append

/-- What comes about is the last context of the grove then. -/
theorem context?_make {g : Grove} {origin : Origin} {ctx : Context} {timeline : Timeline}
    (made : g.make? origin = some (ctx, timeline)) :
    (g.step (.make origin)).timeline = timeline ∧ (g.step (.make origin)).context? g.members.length = some ctx := by
  simp only [step, made, context?, List.getElem?_concat_length, Option.map_some, and_self]

/-- A context that is there stays as it is in a step. -/
theorem context?_step {g : Grove} {i : Nat} {ctx : Context} (h : g.context? i = some ctx) (s : Step) :
    (g.step s).context? i = some ctx := by
  obtain ⟨m, found, rfl⟩ := context?_eq_some.mp h
  exact context?_of_member (member_step found s)

end Grove

end Tenancy
