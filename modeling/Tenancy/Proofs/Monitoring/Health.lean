import Tenancy.Proofs.Monitoring.FanOut
import Tenancy.Proofs.Operation.Runs
import Tenancy.Scene

/-!
# The health of the system

The operation that asks for the health of the system ends with what the reports of the components say. Its workers may move in
any order: every component is healthy if and only if its ping ended well, and the failure that is kept is the first one that
was handed in.
-/

namespace Tenancy

section

variable {σ : Type} {w : World σ}

/-- The reports of components under a context; all fail when it is done. -/
def World.reports (w : World σ) (s : σ) (ctx : Context) (components : List Component) : List (Component × PingReport) :=
  match w.interruption? s ctx with
  | some cause => components.map fun c => (c, .failed (.interruption cause))
  | none => (w.survey s ctx components).1

/-- The health of the system is what the reports of its components say. -/
theorem Monitoring.value_health (m : Monitoring) (ctx : Context) (s : σ) :
    ((m.health ctx).run w s).value = Survey.health m.components (w.reports s ctx m.components) := by
  have hevents : (m.components.forM fun c => m.equipment.event "service.system/get_health"
      ("Check " ++ Labelled.label c ++ " health")).Keeps w := Program.keeps_forM (fun c => m.equipment.keeps_leave _) _
  unfold health
  rw [Equipment.value_span]
  simp only [Program.run_bind, Outcome.after_value, hevents s, World.reports]
  cases hi : w.interruption? s ctx with
  | some cause => simp only [Program.survey, Program.run, hi]; rfl
  | none => simp only [Program.survey, Program.run, hi, Outcome.after_value, Outcome.after_state]; rfl

end

/-- In a world, the pings of components end as they do under a context, and their reports are taken in as workers move. -/
def World.Pings {σ : Type} (w : World σ) (s : σ) (ctx : Context) (components : List Component)
    (outcome : Component → PingReport) (moves : List Move) : Prop :=
  match w.interruption? s ctx with
  | some cause => ∀ c ∈ components, outcome c = .failed (.interruption cause)
  | none => (w.survey s ctx components).1 = FanOut.taken outcome moves

/-- **Asking all components at once.** However the pings end and in whatever order the workers move, they can always be brought
to their end, after at most four moves each. The health of the system is then what their reports say, and it is the one that
the operation ends with in a world in which the reports are taken in in this order. -/
theorem Monitoring.health_any_order (m : Monitoring) (ctx : Context) (outcome : Component → PingReport) (moves : List Move)
    (f : FanOut) (hrun : (FanOut.start m.components).run outcome moves = some f) :
    moves.length ≤ 4 * m.components.length ∧
      (∃ rest f', (FanOut.start m.components).run outcome (moves ++ rest) = some f' ∧ f'.Done m.components) ∧
      (f.Done m.components → f.survey.close.Reflects m.components outcome (FanOut.taken outcome moves) ∧
        ∀ (σ : Type) (w : World σ) (s : σ), w.Pings s ctx m.components outcome moves →
          ((m.health ctx).run w s).value = f.survey.close) := by
  have htraced : FanOut.Traced m.components outcome (FanOut.taken outcome moves) f := FanOut.traced_start.run hrun
  refine ⟨?_, ?_, fun hdone => ?_⟩
  · have hlength := FanOut.traced_start.length_le hrun
    rw [FanOut.remaining_start] at hlength
    omega
  · obtain ⟨rest, f', hrest, hdone⟩ := htraced.complete
    exact ⟨rest, f', by rw [FanOut.run_append, hrun]; exact hrest, hdone⟩
  · have hclose : f.survey.close = Survey.health m.components (FanOut.taken outcome moves) :=
      congrArg Survey.close (htraced.survey_eq hdone)
    have hcomplete : ∀ c ∈ m.components, (c, outcome c) ∈ FanOut.taken outcome moves :=
      fun c hc => htraced.recorded c hc (by simp [hdone c hc]) (by simp [hdone c hc])
    have hreflects : f.survey.close.Reflects m.components outcome (FanOut.taken outcome moves) :=
      hclose ▸ Survey.reflects htraced.faithful hcomplete
    refine ⟨hreflects, fun σ w s hpings => ?_⟩
    rw [Monitoring.value_health]
    unfold World.Pings at hpings
    unfold World.reports
    cases hi : w.interruption? s ctx with
    | none =>
      rw [hi] at hpings
      rw [hclose]
      exact congrArg _ hpings
    | some cause =>
      -- all pings fail for the same reason, so that their order makes no difference
      rw [hi] at hpings
      have hpings : ∀ c ∈ m.components, outcome c = .failed (.interruption cause) := hpings
      have hcause : ∀ c ∈ m.components, (outcome c).cause? = some (.interruption cause) :=
        fun c hc => by rw [hpings c hc]; rfl
      refine (Survey.reflects ?_ fun c hc => ?_).eq_of_cause hreflects hcause
      · intro r hr
        obtain ⟨c, hc, rfl⟩ := List.mem_map.mp hr
        exact ⟨hc, (hpings c hc).symm⟩
      · exact List.mem_map.mpr ⟨c, hc, by rw [hpings c hc]⟩

/-! ## A scene -/

namespace Monitoring

/-- A system of three databases. -/
def databases : Monitoring where
  equipment := {}
  components := [.relationalDatabase, .cacheDatabase, .graphDatabase]
  version := ⟨"1.0.0", "", "", ""⟩

/-- The relational database is down, and the worker of the cache crashes. -/
def ailing : Component → PingReport
  | .relationalDatabase => .failed (.repository (.storage "down"))
  | .cacheDatabase => .crashed
  | _ => .healthy

/-- The cache is joined before the failure of the relational database is noted, which was handed in first. -/
def ailingMoves : List Move :=
  [.ping .relationalDatabase, .send .relationalDatabase, .ping .cacheDatabase, .join .cacheDatabase,
    .note .relationalDatabase, .ping .graphDatabase, .note .graphDatabase, .join .relationalDatabase, .join .graphDatabase]

/-- A scene in which the databases answer after some time. -/
def ailingScene : Scene where
  resources
    | .relationalDatabase => .probe 10 false (some (.repository (.storage "down")))
    | .cacheDatabase => .probe 20 true none
    | _ => .probe 30 false none
  today := Store.creation

/-- The graph database is healthy, the others are not, and the failure that is kept is that of the relational one. -/
theorem health_any_order_ailing :
    let reports := [(Component.relationalDatabase, ailing .relationalDatabase), (.cacheDatabase, .crashed),
      (.graphDatabase, .healthy)]
    let health := ((databases.health { token := ⟨[0]⟩ }).run Scene.world ailingScene).value
    health.Reflects databases.components ailing reports := by
  have hdone : ((FanOut.start databases.components).run ailing ailingMoves).any
      (fun f => decide (f.Done databases.components)) = true := by
    decide
  obtain ⟨f, hrun, hdone⟩ : ∃ f, (FanOut.start databases.components).run ailing ailingMoves = some f ∧
      decide (f.Done databases.components) = true := by
    simpa [Option.any_eq_true] using hdone
  obtain ⟨-, -, hhealth⟩ := health_any_order databases { token := ⟨[0]⟩ } ailing ailingMoves f hrun
  obtain ⟨hreflects, hvalue⟩ := hhealth (of_decide_eq_true hdone)
  -- the reports come in the order of the components
  have hinOrder : ((databases.components.map fun c =>
      (c, ailingScene.ping { token := ⟨[0]⟩ } (ailingScene.resources c))).mergeSort fun a b => a.2.1 ≤ b.2.1) =
        databases.components.map fun c => (c, ailingScene.ping { token := ⟨[0]⟩ } (ailingScene.resources c)) :=
    List.mergeSort_of_pairwise (by decide)
  have hreports : (Scene.world.survey ailingScene { token := ⟨[0]⟩ } databases.components).1 =
      FanOut.taken ailing ailingMoves := by
    simp only [Scene.world, Scene.survey]
    rw [hinOrder]
    rfl
  intro reports health
  rw [show health = f.survey.close from hvalue Scene Scene.world ailingScene hreports]
  exact hreflects

end Monitoring

end Tenancy
