import Tenancy.Proofs.Program.Trace

/-!
# What a program ensures, however it is answered

`p.Ensures past Q` says that the program `p`, taken up after the events `past`, ends so that `Q` holds of all events until
then and of its value, whatever comes of its calls: each may be refused by its context, answered or fail, in every way that
its type allows. `Ensures.run` carries this over to the runs of the program in every world. The rules below take a program
apart as it is put together. A program that is confined to some events, whatever their order, needs no more than to be put
together from programs that are (`Confined`).
-/

namespace Tenancy

namespace Program

variable {α β : Type} {past : List Event}

/-- Whatever comes of its calls, a program that is taken up after some events ends so that `Q` holds of all events until then
and of its value. -/
def Ensures : Program α → List Event → (List Event → α → Prop) → Prop
  | done a, past, Q => Q past a
  | noted n next, past, Q => next.Ensures (past ++ [.noted n]) Q
  | asked ctx c next, past, Q =>
    (∀ cause, (next (.error (.interrupted cause))).Ensures (past ++ [.refused ctx c cause]) Q) ∧
      ∀ reply, (next reply).Ensures (past ++ [.answered ctx c reply]) Q
  | insisted c next, past, Q => ∀ reply, (next reply).Ensures (past ++ [.insisted c reply]) Q
  | timed next, past, Q => ∀ now, (next now).Ensures past Q
  | surveyed ctx cs next, past, Q =>
    (∀ cause, (next (cs.map fun c => (c, .failed (.interruption cause)))).Ensures past Q) ∧
      ∀ reports notes, (next reports).Ensures (past ++ [.surveyed ctx cs reports notes]) Q

/-- What a program ensures holds of each of its runs. -/
theorem Ensures.run {σ : Type} {p : Program α} {Q : List Event → α → Prop} (h : p.Ensures past Q) (w : World σ) (s : σ) :
    Q (past ++ p.trace w s) (p.run w s).value := by
  induction p generalizing past s with
  | done a => simpa [Ensures, trace, Program.run] using h
  | noted n next ih => simpa [trace, Program.run, Outcome.after] using ih h s
  | asked ctx c next ih =>
    cases hi : w.interruption? s ctx with
    | some cause => simpa [trace, Program.run, hi] using ih _ (h.1 cause) s
    | none => simpa [trace, Program.run, hi, Outcome.after] using ih _ (h.2 (w.answer s ctx c).1) (w.answer s ctx c).2
  | insisted c next ih =>
    simpa [trace, Program.run, Outcome.after] using ih _ (h (w.insist s c).1) (w.insist s c).2
  | timed next ih => simpa [trace, Program.run] using ih _ (h (w.time s)) s
  | surveyed ctx cs next ih =>
    cases hi : w.interruption? s ctx with
    | some cause => simpa [trace, Program.run, hi] using ih _ (h.1 cause) s
    | none =>
      simpa [trace, Program.run, hi, Outcome.after] using
        ih _ (h.2 (w.survey s ctx cs).1 (w.survey s ctx cs).2.1) (w.survey s ctx cs).2.2

/-- What a program ensures can be weakened. -/
theorem Ensures.mono {p : Program α} {Q R : List Event → α → Prop} (h : p.Ensures past Q)
    (hQR : ∀ es a, Q es a → R es a) : p.Ensures past R := by
  induction p generalizing past with
  | done a => exact hQR past a h
  | noted n next ih => exact ih h
  | asked ctx c next ih => exact ⟨fun cause => ih _ (h.1 cause), fun reply => ih _ (h.2 reply)⟩
  | insisted c next ih => exact fun reply => ih _ (h reply)
  | timed next ih => exact fun now => ih _ (h now)
  | surveyed ctx cs next ih => exact ⟨fun cause => ih _ (h.1 cause), fun reports notes => ih _ (h.2 reports notes)⟩

/-- A program goes on from the events before it, whatever comes of its calls. -/
theorem ensures_extends (p : Program α) : p.Ensures past fun es _ => past <+: es := by
  -- what goes on from more goes on from less
  have extends_append {q : Program α} {past : List Event} {e : Event}
      (h : q.Ensures (past ++ [e]) fun es _ => past ++ [e] <+: es) : q.Ensures (past ++ [e]) fun es _ => past <+: es :=
    h.mono fun _ _ hes => (List.prefix_append past [e]).trans hes
  induction p generalizing past with
  | done a => exact List.prefix_rfl
  | noted n next ih => exact extends_append ih
  | asked ctx c next ih => exact ⟨fun cause => extends_append (ih _), fun reply => extends_append (ih _)⟩
  | insisted c next ih => exact fun reply => extends_append (ih _)
  | timed next ih => exact fun now => ih _
  | surveyed ctx cs next ih => exact ⟨fun cause => ih _, fun reports notes => extends_append (ih _)⟩

/-- A program followed by another one ensures what the other one ensures of its value. -/
theorem ensures_bind {p : Program α} {f : α → Program β} {Q : List Event → β → Prop} :
    (p >>= f).Ensures past Q ↔ p.Ensures past fun es a => (f a).Ensures es Q := by
  change (p.bind f).Ensures past Q ↔ _
  induction p generalizing past with
  | done a => rfl
  | noted n next ih => exact ih
  | asked ctx c next ih => exact and_congr (forall_congr' fun cause => ih _) (forall_congr' fun reply => ih _)
  | insisted c next ih => exact forall_congr' fun reply => ih _
  | timed next ih => exact forall_congr' fun now => ih _
  | surveyed ctx cs next ih =>
    exact and_congr (forall_congr' fun cause => ih _) (forall_congr' fun reports => forall_congr' fun notes => ih _)

/-- To ensure something of the turned value is to ensure it of the value before. -/
theorem ensures_map {p : Program α} {f : α → β} {Q : List Event → β → Prop} :
    (f <$> p).Ensures past Q ↔ p.Ensures past fun es a => Q es (f a) := by
  rw [map_eq_pure_bind, ensures_bind]
  rfl

/-- A program that is done ensures what holds already. -/
@[simp] theorem ensures_pure {a : α} {Q : List Event → α → Prop} : (pure a : Program α).Ensures past Q ↔ Q past a := Iff.rfl

/-- Whatever comes of its calls, a program adds only events of which `P` holds. -/
def Confined (P : Event → Prop) (p : Program α) : Prop :=
  ∀ past, p.Ensures past fun es _ => ∃ added, es = past ++ added ∧ ∀ e ∈ added, P e

section

variable {P : Event → Prop}

/-- What accepts all confined events is ensured by a program that has no others. -/
theorem Confined.ensures {p : Program α} {Q : List Event → α → Prop} (h : p.Confined P)
    (hQ : ∀ added a, (∀ e ∈ added, P e) → Q (past ++ added) a) : p.Ensures past Q := by
  refine (h past).mono ?_
  rintro _ a ⟨added, rfl, hadded⟩
  exact hQ added a hadded

/-- In a run of a confined program there are only events to which it is confined. -/
theorem Confined.trace {σ : Type} {p : Program α} (h : p.Confined P) (w : World σ) (s : σ) : ∀ e ∈ p.trace w s, P e := by
  obtain ⟨added, heq, hadded⟩ := (h []).run w s
  rw [List.nil_append, List.nil_append] at heq
  rwa [heq]

/-- A program that is done adds nothing. -/
theorem confined_pure {a : α} : (pure a : Program α).Confined P := fun past => ⟨[], by simp, by simp⟩

/-- Programs that are confined stay so one after the other. -/
theorem Confined.bind {p : Program α} {f : α → Program β} (h : p.Confined P) (hf : ∀ a, (f a).Confined P) :
    (p >>= f).Confined P := by
  intro past
  refine ensures_bind.mpr (h.ensures fun added a hadded => (hf a).ensures fun added' b hadded' => ?_)
  exact ⟨added ++ added', List.append_assoc .., List.forall_mem_append.mpr ⟨hadded, hadded'⟩⟩

/-- A confined program stays so when its value is turned. -/
theorem Confined.map {p : Program α} {f : α → β} (h : p.Confined P) : (f <$> p).Confined P := by
  rw [map_eq_pure_bind]
  exact h.bind fun a => confined_pure

theorem confined_time : time.Confined P := fun past now => ⟨[], by simp, by simp⟩

end

end Program

namespace Step

variable {α β : Type} {past : List Event} {Q : List Event → Except Failure β → Prop}

/-- Whatever comes of its calls, a step that is taken after some events ends so that `Q` holds of all events until then and
of its value or cause of failure. -/
def Ensures (x : Step α) (past : List Event) (Q : List Event → Except Failure α → Prop) : Prop := x.run.Ensures past Q

/-- What must hold after a step for the rest to ensure `Q`: nothing comes after a failure. -/
def andThen (f : α → Step β) (Q : List Event → Except Failure β → Prop) : List Event → Except Failure α → Prop
  | es, .ok a => (f a).Ensures es Q
  | es, .error cause => Q es (.error cause)

/-- A step that is done ensures what holds already of its value. -/
@[simp] theorem ensures_pure {a : α} {Q : List Event → Except Failure α → Prop} :
    (pure a : Step α).Ensures past Q ↔ Q past (.ok a) := Iff.rfl

/-- A step that fails ensures what holds already of its failure. -/
@[simp] theorem ensures_throw {cause : Failure} {Q : List Event → Except Failure α → Prop} :
    (throw cause : Step α).Ensures past Q ↔ Q past (.error cause) := Iff.rfl

/-- A step followed by another one ensures what the other one does of its value, and of its failure what is asked in
the end. -/
theorem ensures_bind {x : Step α} {f : α → Step β} : (x >>= f).Ensures past Q ↔ x.Ensures past (andThen f Q) := by
  unfold Ensures
  rw [ExceptT.run_bind, Program.ensures_bind]
  refine iff_of_eq (congrArg (x.run.Ensures past) ?_)
  funext es r
  cases r <;> rfl

/-- A step ensures of what is made of its value what it ensures of the value. -/
theorem ensures_map {x : Step α} {f : α → β} : (f <$> x).Ensures past Q ↔ x.Ensures past fun es r => Q es (r.map f) := by
  unfold Ensures
  rw [ExceptT.run_map, Program.ensures_map]

/-- A step that catches failures ensures what its handler ensures of them. -/
theorem ensures_tryCatch {x : Step β} {handler : Failure → Step β} : (tryCatch x handler).Ensures past Q ↔
    x.Ensures past fun es r => match r with
      | .ok a => Q es (.ok a)
      | .error cause => (handler cause).Ensures es Q := by
  change (x.run >>= _).Ensures past Q ↔ _
  rw [Program.ensures_bind]
  refine iff_of_eq (congrArg (x.run.Ensures past) ?_)
  funext es r
  cases r <;> rfl

/-- A program as a step ensures what it ensures by itself. -/
theorem ensures_lift {p : Program α} {Q : List Event → Except Failure α → Prop} :
    (liftM p : Step α).Ensures past Q ↔ p.Ensures past fun es a => Q es (.ok a) :=
  Program.ensures_map

/-- The operation of another service as a step ensures what it ensures by itself, with its failure as the cause. -/
theorem ensures_ofOperation {p : Program (Except ServiceError α)} {Q : List Event → Except Failure α → Prop} :
    (ofOperation p).Ensures past Q ↔ p.Ensures past fun es r => Q es (r.mapError ServiceError.toFailure) :=
  Program.ensures_map

/-- A call under a context is refused by it, answered, or fails. -/
theorem ensures_ask {ctx : Context} {c : Call} {Q : List Event → Except Failure c.Value → Prop}
    (refused : ∀ cause, Q (past ++ [.refused ctx c cause]) (.error (.interruption cause)))
    (answered : ∀ v, Q (past ++ [.answered ctx c (.ok v)]) (.ok v))
    (failed : ∀ e, Q (past ++ [.answered ctx c (.error e)]) (.error (c.refused e))) :
    (ask ctx c).Ensures past Q := by
  refine Program.ensures_map.mpr ⟨fun cause => refused cause, fun reply => ?_⟩
  cases reply with
  | ok v => exact answered v
  | error e => exact failed e

section

variable {P : Event → Prop}

/-- Steps that are confined stay so one after the other. -/
theorem confined_bind {x : Step α} {f : α → Step β} (h : x.run.Confined P) (hf : ∀ a, (f a).run.Confined P) :
    (x >>= f).run.Confined P := by
  rw [ExceptT.run_bind]
  refine h.bind fun r => ?_
  cases r with
  | ok a => exact hf a
  | error cause => exact Program.confined_pure

theorem confined_map {x : Step α} {f : α → β} (h : x.run.Confined P) : (f <$> x).run.Confined P := by
  rw [ExceptT.run_map]
  exact h.map

theorem confined_demand {met : Bool} {cause : Failure} : (demand met cause).run.Confined P := by
  unfold demand
  split <;> exact Program.confined_pure

end

end Step

end Tenancy
