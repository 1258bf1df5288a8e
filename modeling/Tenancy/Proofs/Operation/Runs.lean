import Tenancy.Operation.Equipment
import Tenancy.Proofs.Program.Trace

/-!
# Runs of the parts of operations

The moments of a span leave the state of a world as it is. So what runs in a span ends as it would by itself, and a question
that is asked in a span is answered as the world answers it in the state in which the span was opened.
-/

namespace Tenancy

variable {σ α : Type} {w : World σ} {s : σ} {ctx : Context}

namespace World

variable {c : Call}

/-- What comes of an attempt at a call under a context: the context refuses it, or it is made and answered. -/
def attempt (w : World σ) (s : σ) (ctx : Context) (c : Call) : Event :=
  match w.interruption? s ctx with
  | some cause => .refused ctx c cause
  | none => .answered ctx c (w.answer s ctx c).1

theorem attempt_eq_answered_iff {reply : Except (Refusal c.Fault) c.Value} :
    w.attempt s ctx c = .answered ctx c reply ↔ w.interruption? s ctx = none ∧ (w.answer s ctx c).1 = reply := by
  unfold attempt
  cases w.interruption? s ctx with
  | some cause => simp
  | none => simp

/-- What comes of an attempt that is answered comes to pass. -/
theorem moves_of_attempt {reply : Except (Refusal c.Fault) c.Value} (h : w.attempt s ctx c = .answered ctx c reply) :
    ∃ s', w.Moves s (.answered ctx c reply) s' := by
  obtain ⟨hlive, hreply⟩ := attempt_eq_answered_iff.mp h
  exact ⟨(w.answer s ctx c).2, hlive, Prod.ext hreply rfl⟩

end World

namespace Program

/-- The trace of a call is the attempt at it. -/
theorem trace_ask (w : World σ) (s : σ) (ctx : Context) (c : Call) : (ask ctx c).trace w s = [w.attempt s ctx c] := by
  unfold ask World.attempt
  cases hi : w.interruption? s ctx with
  | some cause => simp [trace, hi]
  | none => simp [trace, hi]

/-- A call ends with a value if and only if the attempt is answered by it. -/
theorem value_ask_eq_ok_iff {c : Call} {v : c.Value} :
    ((ask ctx c).run w s).value = .ok v ↔ w.attempt s ctx c = .answered ctx c (.ok v) := by
  rw [World.attempt_eq_answered_iff]
  unfold ask
  cases hi : w.interruption? s ctx with
  | some cause => simp [run, hi]
  | none => simp [run, hi, Outcome.after]

end Program

/-- A step that goes on with the value of a program goes on with it as a program. -/
theorem Step.run_lift_bind {β : Type} (p : Program α) (f : α → Step β) :
    ((liftM p : Step α) >>= f).run = p >>= fun a => (f a).run := by
  rw [ExceptT.run_bind]
  change (Except.ok <$> p) >>= _ = _
  rw [map_eq_pure_bind, bind_assoc]
  simp only [pure_bind]

namespace Equipment

theorem keeps_leave (e : Equipment) (note : Telemetry.SpanNote) : (e.leave note).Keeps w := by
  unfold leave
  split
  · exact fun s => rfl
  · exact fun s => rfl
  · exact Program.keeps_forM (fun r s => rfl) _

/-- A span does not change the value of what runs in it. -/
theorem value_span (e : Equipment) (ctx : Context) (name : String) (body : Program α) (s : σ) :
    ((e.span ctx name body).run w s).value = (body.run w s).value := by
  unfold span
  simp only [Program.run_bind, Outcome.after_value, e.keeps_leave _ s]
  rfl

/-- The value of an operation is that of its body, whose failure is the cause of the operation's own. -/
theorem value_operation (e : Equipment) (ctx : Context) (name : String) (kind : ErrorKind) (body : Step α) (s : σ) :
    ((e.operation ctx name kind body).run w s).value =
      Except.mapError (ServiceError.join kind) (Program.run w body.run s).value := by
  unfold operation
  rw [value_span, map_eq_pure_bind, Program.run_bind]
  rfl

/-- What runs in a span leaves its trace between the start and the end of the span. -/
theorem trace_span (e : Equipment) (ctx : Context) (name : String) (body : Program α) (s : σ) :
    (e.span ctx name body).trace w s = (e.leave (.started name ctx.principal)).trace w s ++ (body.trace w s ++
      (e.leave (.ended name)).trace w (body.run w s).state) := by
  unfold span
  simp only [Program.trace_bind, e.keeps_leave _ s]
  exact congrArg (fun es => _ ++ (_ ++ es)) (List.append_nil _)

/-- A question about access is asked between two moments of the span. -/
theorem trace_check (e : Equipment) (ctx : Context) (span : String) (a : AccessCall) (s : σ) :
    (e.check ctx span a).trace w s = (e.event span "check permission").trace w s ++ (w.attempt s ctx (.access a) ::
      (e.event span "permission checked").trace w ((Program.ask ctx (.access a)).run w s).state) := by
  unfold check event
  simp only [Program.trace_bind, e.keeps_leave _ s, Program.trace_ask, List.singleton_append]
  exact congrArg (fun es => _ ++ (_ :: es)) (List.append_nil _)

/-- A question about access is answered by yes if and only if the attempt to look it up is. -/
theorem value_check_iff (e : Equipment) (ctx : Context) (span : String) (a : AccessCall) (s : σ) :
    ((e.check ctx span a).run w s).value = true ↔
      w.attempt s ctx (.access a) = .answered ctx (.access a) (.ok true) := by
  refine Iff.trans ?_ (Program.value_ask_eq_ok_iff (c := .access a) (v := true))
  unfold check event
  simp only [Program.run_bind, Outcome.after_value, e.keeps_leave _ s]
  generalize ((Program.ask ctx (.access a)).run w s).value = reply
  cases reply with
  | ok yes =>
    constructor
    · exact fun hyes => congrArg Except.ok hyes
    · exact fun hyes => Except.ok.inj hyes
  | error refusal => exact ⟨nofun, nofun⟩

end Equipment

end Tenancy
