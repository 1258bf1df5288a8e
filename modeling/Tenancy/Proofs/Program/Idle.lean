import Tenancy.Operation.Equipment
import Tenancy.Proofs.World.Steady

/-!
# Programs under a context that is done

Under a context that is done, every call that a program makes under it is refused. `p.Idles ctx Q` says that the program `p`
then comes to its end without having done anything, whatever the reasons for which its calls are refused, and that `Q` holds of
its value. The one call that is made all the same is that to a renderer, which no context can stop. `Idles.run` carries this
over to the runs of the program in every world in which a context that is done stays done; the rules below take a program apart
as it is put together. A step that fails in this way makes what comes after it unreachable (`Step.fails_bind_left`).
-/

namespace Tenancy

/-- Nothing is done in an event: it leaves a note, a call is refused, or a letter is rendered. -/
def Event.isIdle : Event → Bool
  | noted _ => true
  | refused _ _ _ => true
  | insisted (.render _ _) _ => true
  | _ => false

/-- An event in which nothing is done changes nothing. -/
theorem Event.not_changes_of_isIdle {e : Event} (h : e.isIdle = true) : e.changes = false := by
  cases e with
  | insisted c reply =>
    cases c with
    | render path data => cases reply <;> rfl
    | _ => cases h
  | answered ctx c reply => cases h
  | _ => rfl

/-- A context that is done stays done, whatever comes to pass. -/
def World.Lasting {σ : Type} (w : World σ) (ctx : Context) : Prop :=
  ∀ s e s', w.Moves s e s' → w.interruption? s ctx ≠ none → w.interruption? s' ctx ≠ none

namespace Program

variable {α β ε : Type} {ctx : Context}

/-- When its context is done, a program comes to its end without having done anything, and `Q` holds of its value. -/
def Idles (ctx : Context) : Program α → (α → Prop) → Prop
  | done a, Q => Q a
  | noted _ next, Q => next.Idles ctx Q
  | asked ctx' _ next, Q => ctx' = ctx ∧ ∀ cause, (next (.error (.interrupted cause))).Idles ctx Q
  | insisted c next, Q => (∃ path data, c = .render path data) ∧ ∀ reply, (next reply).Idles ctx Q
  | timed next, Q => ∀ now, (next now).Idles ctx Q
  | surveyed ctx' cs next, Q =>
    ctx' = ctx ∧ ∀ cause, (next (cs.map fun c => (c, .failed (.interruption cause)))).Idles ctx Q

/-- In a run, nothing is done, and what is seen of the state stays as it is. -/
structure Rests {σ τ : Type} (w : World σ) (view : σ → τ) (p : Program α) (s : σ) : Prop where
  idle : ∀ e ∈ p.trace w s, e.isIdle = true
  unchanged : view (p.run w s).state = view s

/-- In a world in which a context that is done stays done, a program that idles does nothing, and ends as it is said to. -/
theorem Idles.run {σ τ : Type} {w : World σ} {view : σ → τ} (hw : w.Steady view) (hlasting : w.Lasting ctx) {p : Program α}
    {Q : α → Prop} (h : p.Idles ctx Q) {s : σ} (hdone : w.interruption? s ctx ≠ none) :
    p.Rests w view s ∧ Q (p.run w s).value := by
  induction p generalizing s with
  | done a => exact ⟨⟨List.forall_mem_nil _, rfl⟩, h⟩
  | noted n next ih =>
    obtain ⟨⟨hidle, hview⟩, hvalue⟩ := ih h hdone
    exact ⟨⟨List.forall_mem_cons.mpr ⟨rfl, hidle⟩, hview⟩, hvalue⟩
  | asked ctx' c next ih =>
    obtain ⟨rfl, h⟩ := h
    obtain ⟨cause, hcause⟩ := Option.ne_none_iff_exists'.mp hdone
    obtain ⟨⟨hidle, hview⟩, hvalue⟩ := ih _ (h cause) hdone
    refine ⟨⟨?_, ?_⟩, ?_⟩ <;> simp only [trace, Program.run, hcause]
    · exact List.forall_mem_cons.mpr ⟨rfl, hidle⟩
    · exact hview
    · exact hvalue
  | insisted c next ih =>
    obtain ⟨⟨path, data, rfl⟩, h⟩ := h
    have hmoves : w.Moves s (.insisted (.render path data) (w.insist s (.render path data)).1)
        (w.insist s (.render path data)).2 := rfl
    obtain ⟨⟨hidle, hview⟩, hvalue⟩ := ih _ (h (w.insist s (.render path data)).1) (hlasting s _ _ hmoves hdone)
    have hrendered : view (w.insist s (.render path data)).2 = view s := hw s _ _ hmoves (Event.not_changes_of_isIdle rfl)
    exact ⟨⟨List.forall_mem_cons.mpr ⟨rfl, hidle⟩, hview.trans hrendered⟩, hvalue⟩
  | timed next ih =>
    obtain ⟨⟨hidle, hview⟩, hvalue⟩ := ih _ (h (w.time s)) hdone
    exact ⟨⟨hidle, hview⟩, hvalue⟩
  | surveyed ctx' cs next ih =>
    obtain ⟨rfl, h⟩ := h
    obtain ⟨cause, hcause⟩ := Option.ne_none_iff_exists'.mp hdone
    obtain ⟨⟨hidle, hview⟩, hvalue⟩ := ih _ (h cause) hdone
    refine ⟨⟨?_, ?_⟩, ?_⟩ <;> simpa only [trace, Program.run, hcause]

/-- What holds of the value of an idle program can be weakened. -/
theorem Idles.mono {p : Program α} {Q R : α → Prop} (h : p.Idles ctx Q) (hQR : ∀ a, Q a → R a) : p.Idles ctx R := by
  induction p with
  | done a => exact hQR a h
  | noted n next ih => exact ih h
  | asked ctx' c next ih => exact ⟨h.1, fun cause => ih _ (h.2 cause)⟩
  | insisted c next ih => exact ⟨h.1, fun reply => ih _ (h.2 reply)⟩
  | timed next ih => exact fun now => ih _ (h now)
  | surveyed ctx' cs next ih => exact ⟨h.1, fun cause => ih _ (h.2 cause)⟩

/-- A program followed by another one idles when both do. -/
theorem Idles.bind {p : Program α} {f : α → Program β} {Q : α → Prop} {R : β → Prop} (h : p.Idles ctx Q)
    (hf : ∀ a, Q a → (f a).Idles ctx R) : (p >>= f).Idles ctx R := by
  change (p.bind f).Idles ctx R
  induction p with
  | done a => exact hf a h
  | noted n next ih => exact ih h
  | asked ctx' c next ih => exact ⟨h.1, fun cause => ih _ (h.2 cause)⟩
  | insisted c next ih => exact ⟨h.1, fun reply => ih _ (h.2 reply)⟩
  | timed next ih => exact fun now => ih _ (h now)
  | surveyed ctx' cs next ih => exact ⟨h.1, fun cause => ih _ (h.2 cause)⟩

/-- A program that is done is idle. -/
theorem idles_pure {a : α} {Q : α → Prop} (h : Q a) : (pure a : Program α).Idles ctx Q := h

/-- A program stays idle when its value is turned. -/
theorem Idles.map {p : Program α} {f : α → β} {Q : α → Prop} {R : β → Prop} (h : p.Idles ctx Q) (hf : ∀ a, Q a → R (f a)) :
    (f <$> p).Idles ctx R := by
  rw [map_eq_pure_bind]
  exact h.bind fun a ha => idles_pure (hf a ha)

/-- Programs that are idle stay so one after the other. -/
theorem idles_forM {f : β → Program Unit} (h : ∀ b, (f b).Idles ctx fun _ => True) (items : List β) :
    (items.forM f).Idles ctx fun _ => True := by
  induction items with
  | nil => exact trivial
  | cons b rest ih => exact (h b).bind fun _ _ => ih

/-- To leave a note is idle. -/
theorem idles_note (n : Note) : (note n).Idles ctx fun _ => True := trivial

theorem idles_time : time.Idles ctx fun _ => True := fun _ => trivial

/-- A call under the context is refused. -/
theorem idles_ask (ctx : Context) (c : Call) : (ask ctx c).Idles ctx fun r => ∃ cause, r = .error (.interrupted cause) :=
  ⟨rfl, fun cause => ⟨cause, rfl⟩⟩

/-- Components are not asked for their health. -/
theorem idles_survey (ctx : Context) (components : List Component) : (survey ctx components).Idles ctx fun _ => True :=
  ⟨rfl, fun _ => trivial⟩

/-- When its context is done, an operation fails without having done anything. -/
def Fails (ctx : Context) (p : Program (Except ε α)) : Prop := p.Idles ctx fun r => ∃ e, r = .error e

/-- A program that fails still fails when failures are turned into failures. -/
theorem Fails.map {δ : Type} {p : Program (Except ε α)} {f : Except ε α → Except δ β} (h : p.Fails ctx)
    (hf : ∀ e, ∃ e', f (.error e) = .error e') : Program.Fails ctx (f <$> p) := by
  refine Idles.map h ?_
  rintro _ ⟨e, rfl⟩
  exact hf e

end Program

namespace Step

open Program

variable {α β : Type} {ctx : Context}

/-- A step that fails at once fails without having done anything. -/
theorem fails_throw (cause : Failure) : (throw cause : Step α).run.Fails ctx := idles_pure ⟨cause, rfl⟩

/-- What comes after a step that fails is not reached. -/
theorem fails_bind_left {x : Step β} {f : β → Step α} (h : x.run.Fails ctx) : (x >>= f).run.Fails ctx := by
  rw [ExceptT.run_bind]
  refine Idles.bind h ?_
  rintro _ ⟨cause, rfl⟩
  exact fails_throw cause

/-- Steps fail when the last one does. -/
theorem fails_bind {x : Step β} {f : β → Step α} {Q : Except Failure β → Prop} (h : x.run.Idles ctx Q)
    (hf : ∀ b, Q (.ok b) → (f b).run.Fails ctx) : (x >>= f).run.Fails ctx := by
  rw [ExceptT.run_bind]
  refine h.bind fun r hr => ?_
  cases r with
  | ok b => exact hf b hr
  | error cause => exact fails_throw cause

/-- Steps idle when all of them do. -/
theorem idles_bind {x : Step β} {f : β → Step α} (h : x.run.Idles ctx fun _ => True)
    (hf : ∀ b, (f b).run.Idles ctx fun _ => True) : (x >>= f).run.Idles ctx fun _ => True := by
  rw [ExceptT.run_bind]
  refine h.bind fun r _ => ?_
  cases r with
  | ok b => exact hf b
  | error cause => exact trivial

/-- How the value is shown makes no difference to a failure. -/
theorem fails_map {x : Step β} {f : β → α} (h : x.run.Fails ctx) : (f <$> x).run.Fails ctx := by
  rw [ExceptT.run_map]
  exact Fails.map h fun cause => ⟨cause, rfl⟩

/-- To demand something is idle. -/
theorem idles_demand {met : Bool} {cause : Failure} : (demand met cause).run.Idles ctx fun _ => True := by
  unfold demand
  split <;> exact trivial

/-- A call under a context that is done fails. -/
theorem fails_ask (ctx : Context) (c : Call) : (ask ctx c).run.Fails ctx := by
  refine (idles_ask ctx c).map ?_
  rintro _ ⟨cause, rfl⟩
  exact ⟨_, rfl⟩

/-- An idle program stays so when it is taken as a step. -/
theorem idles_lift {p : Program α} {Q : α → Prop} (h : p.Idles ctx Q) :
    (liftM p : Step α).run.Idles ctx fun r => ∃ a, r = .ok a ∧ Q a :=
  h.map fun a ha => ⟨a, rfl, ha⟩

/-- What is demanded of an answer fails when the answer is no. -/
theorem fails_answer_bind {p : Program Bool} {cause : Failure} {f : Unit → Step α} (h : p.Idles ctx (· = false)) :
    ((liftM p : Step Bool) >>= fun yes => demand yes cause >>= f).run.Fails ctx := by
  refine fails_bind (idles_lift h) ?_
  rintro _ ⟨_, ⟨⟩, rfl⟩
  exact fails_bind_left (fails_throw cause)

/-- An operation that fails does so when it is taken as a step. -/
theorem fails_ofOperation {p : Program (Except ServiceError α)} (h : p.Fails ctx) : (ofOperation p).run.Fails ctx :=
  Fails.map h fun e => ⟨e.toFailure, rfl⟩

end Step

namespace Equipment

open Program

variable {α : Type} {ctx : Context} (e : Equipment)

/-- To leave a moment of a span is idle. -/
theorem idles_leave (note : Telemetry.SpanNote) : (e.leave note).Idles ctx fun _ => True := by
  unfold leave
  split
  · exact trivial
  · exact idles_note _
  · exact idles_forM (fun r => idles_note _) note.records

theorem idles_event (span message : String) : (e.event span message).Idles ctx fun _ => True := e.idles_leave _

/-- A span is idle when its body is. -/
theorem idles_span {name : String} {body : Program α} {Q : α → Prop} (h : body.Idles ctx Q) :
    (e.span ctx name body).Idles ctx Q := by
  refine (e.idles_leave _).bind fun _ _ => h.bind fun a ha => ?_
  exact (e.idles_leave _).bind fun _ _ => idles_pure ha

/-- An operation fails when its body does. -/
theorem fails_operation {name : String} {kind : ErrorKind} {body : Step α} (h : body.run.Fails ctx) :
    (e.operation ctx name kind body).Fails ctx :=
  e.idles_span (Fails.map h fun cause => ⟨.join kind cause, rfl⟩)

/-- A question about access that cannot be asked is answered by no. -/
theorem idles_check (span : String) (c : AccessCall) : (e.check ctx span c).Idles ctx (· = false) := by
  refine (e.idles_event _ _).bind fun _ _ => (idles_ask ctx (.access c)).bind ?_
  rintro _ ⟨cause, rfl⟩
  exact (e.idles_event _ _).bind fun _ _ => rfl

/-- When the context is done, no one is found to hold anything. -/
theorem idles_holds (span : String) (subject target : Id) (kinds : List PermissionKind) :
    (e.holds ctx span subject target kinds).Idles ctx (· = false) := by
  unfold holds
  split
  · exact e.idles_check span _
  · exact rfl

/-- When the context is done, the principal is found to hold nothing. -/
theorem idles_permitted (span : String) (target : Id) (kinds : List PermissionKind) :
    (e.permitted ctx span target kinds).Idles ctx (· = false) := by
  unfold permitted
  split
  · exact e.idles_holds span _ target kinds
  · exact rfl

end Equipment

end Tenancy
