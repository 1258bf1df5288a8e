import Mathlib.Data.List.Induction
import Mathlib.Logic.Function.Basic
import Tenancy.Monitoring

/-!
# What the reports of components say

The pings of components end well, with a failure or with a crash, and their reports are taken in in some order. What has been
heard then is told by two things: the statuses that were noted, and the first failure that was handed in (`Survey.foldl_take`).
When each component has reported, its health is what its ping says, whatever the order of the reports
(`SystemHealth.Reflects`).
-/

namespace Tenancy

namespace PingReport

/-- The failure that a report hands in. -/
def cause? : PingReport → Option Failure
  | healthy => none
  | failed cause => some cause
  | crashed => some .crashed

/-- The status that a worker notes; a crashed one notes none. -/
def status : PingReport → HealthStatus
  | healthy => .healthy
  | failed _ => .unhealthy
  | crashed => .unknown

/-- A component counts as unhealthy in the end unless its ping is well. -/
theorem closed_status (report : PingReport) : (if report.status = .unknown then .unhealthy else report.status) =
    if report = healthy then HealthStatus.healthy else .unhealthy := by
  cases report <;> simp [status]

/-- A ping has no failure exactly when it is well. -/
theorem cause_eq_none {report : PingReport} : report.cause? = none ↔ report = healthy := by
  cases report <;> simp [cause?]

end PingReport

namespace Survey

/-- A survey in which each component has a status. -/
def ofStatus (components : List Component) (status : Component → HealthStatus) (cause? : Option Failure) : Survey :=
  ⟨components.map fun c => (c, status c), cause?.map (.join .systemHealthCheck)⟩

variable {components : List Component} {status : Component → HealthStatus} {cause? : Option Failure}

/-- Only the statuses of the components that are surveyed matter. -/
theorem ofStatus_congr {status' : Component → HealthStatus} (h : ∀ c ∈ components, status c = status' c) :
    ofStatus components status cause? = ofStatus components status' cause? := by
  unfold ofStatus
  rw [List.map_congr_left fun c hc => congrArg (Prod.mk c) (h c hc)]

/-- To note a status changes that of one component. -/
theorem set_ofStatus (component : Component) (new : HealthStatus) : (ofStatus components status cause?).set component new =
    ofStatus components (Function.update status component new) cause? := by
  simp only [set, ofStatus, List.map_map, mk.injEq, and_true]
  refine List.map_congr_left fun c _ => ?_
  by_cases h : c = component <;> simp [h]

/-- Only the first failure is kept. -/
theorem keep_ofStatus (cause : Failure) :
    (ofStatus components status cause?).keep cause = ofStatus components status (cause? <|> some cause) := by
  cases cause? <;> rfl

/-- The first failure that is handed in by some reports. -/
def firstCause? (reports : List (Component × PingReport)) : Option Failure := reports.findSome? fun r => r.2.cause?

/-- A report more hands in its failure only when there was none before. -/
theorem firstCause?_append (reports : List (Component × PingReport)) (r : Component × PingReport) :
    firstCause? (reports ++ [r]) = (firstCause? reports <|> r.2.cause?) := by
  simp [firstCause?, List.findSome?_append]

/-- The statuses that are noted after some reports. -/
def noted (outcome : Component → PingReport) (reports : List (Component × PingReport)) (c : Component) : HealthStatus :=
  if (c, outcome c) ∈ reports then (outcome c).status else .unknown

theorem noted_of_mem {outcome : Component → PingReport} {reports : List (Component × PingReport)} {c : Component}
    (h : (c, outcome c) ∈ reports) : noted outcome reports c = (outcome c).status := if_pos h

/-- A report more notes the status of its component. -/
theorem noted_append {outcome : Component → PingReport} {c : Component} {report : PingReport} (h : outcome c = report)
    (reports : List (Component × PingReport)) :
    noted outcome (reports ++ [(c, report)]) = Function.update (noted outcome reports) c report.status := by
  funext c'
  by_cases hsame : c' = c
  · subst hsame
    simp [noted, h]
  · simp [noted, hsame]

/-- A component that crashes notes no status. -/
theorem noted_crashed {outcome : Component → PingReport} {c : Component} (h : outcome c = .crashed)
    (reports : List (Component × PingReport)) : noted outcome (reports ++ [(c, .crashed)]) = noted outcome reports := by
  rw [noted_append h, Function.update_eq_self_iff]
  simp [noted, h, PingReport.status]

/-- What has been heard of the components after some reports. -/
theorem foldl_take {outcome : Component → PingReport} {reports : List (Component × PingReport)}
    (hreports : ∀ r ∈ reports, r.2 = outcome r.1) :
    reports.foldl take (start components) = ofStatus components (noted outcome reports) (firstCause? reports) := by
  induction reports using List.reverseRecOn with
  | nil => rfl
  | append_singleton reports r ih =>
    obtain ⟨c, report⟩ := r
    have hc : outcome c = report := (hreports (c, report) (by simp)).symm
    rw [List.foldl_append, ih fun r hr => hreports r (List.mem_append_left _ hr), firstCause?_append]
    cases report with
    | healthy =>
      rw [noted_append hc]
      simp [take, set_ofStatus, PingReport.status, PingReport.cause?]
    | failed cause =>
      rw [noted_append hc]
      simp [take, set_ofStatus, keep_ofStatus, PingReport.status, PingReport.cause?]
    | crashed =>
      rw [noted_crashed hc]
      simp [take, keep_ofStatus, PingReport.cause?]

end Survey

/-! ## The health of the system -/

/-- What is said about the health of components whose pings end as they do, when their reports are taken in in some order. -/
structure SystemHealth.Reflects (health : SystemHealth) (components : List Component) (outcome : Component → PingReport)
    (reports : List (Component × PingReport)) : Prop where
  /-- A component is healthy when its ping is, and unhealthy otherwise. -/
  statuses : health.components = components.map fun c => (c, if outcome c = .healthy then .healthy else .unhealthy)
  faultless : health.error = none ↔ ∀ c ∈ components, outcome c = .healthy
  /-- The failure is that of the first report which has one; its component is unhealthy. -/
  first : ∀ e, health.error = some e → ∃ before c after cause, reports = before ++ (c, outcome c) :: after ∧
    (∀ r ∈ before, r.2 = .healthy) ∧ c ∈ components ∧ (c, .unhealthy) ∈ health.components ∧
    (outcome c).cause? = some cause ∧ e = .join .systemHealthCheck cause
  isHealthy : health.isHealthy = true ↔ ∀ c ∈ components, outcome c = .healthy
  result : ∀ m, health.result = .ok m → ∀ entry ∈ m, entry.2 = .healthy

namespace Survey

variable {components : List Component} {outcome : Component → PingReport} {reports : List (Component × PingReport)}

/-- The error of a health is joined around the first failure that was handed in. -/
theorem health_error (components : List Component) (hreports : ∀ r ∈ reports, r.2 = outcome r.1) :
    (health components reports).error = (firstCause? reports).map (.join .systemHealthCheck) := by
  unfold health
  rw [foldl_take hreports]
  rfl

/-- When all components have reported, the healthy ones are those whose ping was well. -/
theorem health_components (hreports : ∀ r ∈ reports, r.2 = outcome r.1)
    (hcomplete : ∀ c ∈ components, (c, outcome c) ∈ reports) : (health components reports).components =
      components.map fun c => (c, if outcome c = .healthy then .healthy else .unhealthy) := by
  unfold health
  rw [foldl_take hreports]
  simp only [close, ofStatus, List.map_map]
  refine List.map_congr_left fun c hc => ?_
  simp only [Function.comp_apply, noted_of_mem (hcomplete c hc), PingReport.closed_status]

/-- No failure is kept exactly when all components are well. -/
theorem firstCause?_eq_none (hreports : ∀ r ∈ reports, r.1 ∈ components ∧ r.2 = outcome r.1)
    (hcomplete : ∀ c ∈ components, (c, outcome c) ∈ reports) :
    firstCause? reports = none ↔ ∀ c ∈ components, outcome c = .healthy := by
  simp only [firstCause?, List.findSome?_eq_none_iff, PingReport.cause_eq_none]
  constructor
  · exact fun h c hc => h _ (hcomplete c hc)
  · exact fun h r hr => (hreports r hr).2.trans (h r.1 (hreports r hr).1)

/-- The failure that is kept is that of a component; all reports before its report are well. -/
theorem exists_first (hreports : ∀ r ∈ reports, r.1 ∈ components ∧ r.2 = outcome r.1) {cause : Failure}
    (hcause : firstCause? reports = some cause) : ∃ before c after, reports = before ++ (c, outcome c) :: after ∧
      (∀ r ∈ before, r.2 = .healthy) ∧ c ∈ components ∧ (outcome c).cause? = some cause := by
  obtain ⟨before, ⟨c, report⟩, after, rfl, hr, hbefore⟩ := List.findSome?_eq_some_iff.mp hcause
  obtain ⟨hc, rfl⟩ : c ∈ components ∧ report = outcome c := hreports (c, report) (by simp)
  exact ⟨before, c, after, rfl, fun r hr => PingReport.cause_eq_none.mp (hbefore r hr), hc, hr⟩

/-- When each component has reported, its health is what its report says. -/
theorem reflects (hreports : ∀ r ∈ reports, r.1 ∈ components ∧ r.2 = outcome r.1)
    (hcomplete : ∀ c ∈ components, (c, outcome c) ∈ reports) :
    (health components reports).Reflects components outcome reports := by
  have hfaithful : ∀ r ∈ reports, r.2 = outcome r.1 := fun r hr => (hreports r hr).2
  have hstatuses := health_components hfaithful hcomplete
  have herror := health_error components hfaithful
  have hnone : (health components reports).error = none ↔ ∀ c ∈ components, outcome c = .healthy := by
    rw [herror, Option.map_eq_none_iff, firstCause?_eq_none hreports hcomplete]
  have hall : (∀ c ∈ components, outcome c = .healthy) →
      ∀ entry ∈ (health components reports).components, entry.2 = .healthy := by
    intro h entry hentry
    rw [hstatuses] at hentry
    obtain ⟨c, hc, rfl⟩ := List.mem_map.mp hentry
    exact if_pos (h c hc)
  refine ⟨hstatuses, hnone, fun e he => ?_, ?_, fun m hm => ?_⟩
  · rw [herror] at he
    obtain ⟨cause, hcause, rfl⟩ := Option.map_eq_some_iff.mp he
    obtain ⟨before, c, after, hsplit, hbefore, hc, hr⟩ := exists_first hreports hcause
    have hill : outcome c ≠ .healthy := fun h => by simp [h, PingReport.cause?] at hr
    have hunhealthy : (c, .unhealthy) ∈ (health components reports).components :=
      hstatuses ▸ List.mem_map.mpr ⟨c, hc, by rw [if_neg hill]⟩
    exact ⟨before, c, after, cause, hsplit, hbefore, hc, hunhealthy, hr, rfl⟩
  · simp only [SystemHealth.isHealthy, Bool.and_eq_true, Option.isNone_iff_eq_none, List.all_eq_true, beq_iff_eq]
    exact ⟨fun h => hnone.mp h.1, fun h => ⟨hnone.mpr h, hall h⟩⟩
  · unfold SystemHealth.result at hm
    split at hm
    · cases hm
    · next hnone' =>
      obtain rfl := Except.ok.inj hm
      exact hall (hnone.mp hnone')

end Survey

namespace SystemHealth.Reflects

variable {health health' : SystemHealth} {components : List Component} {outcome : Component → PingReport}
  {reports reports' : List (Component × PingReport)} {cause : Failure}

/-- When all failures are the same, it is the one that is kept. -/
theorem error_eq (h : health.Reflects components outcome reports) (hcause : ∀ c ∈ components, (outcome c).cause? = some cause)
    {e : ServiceError} (he : health.error = some e) : e = .join .systemHealthCheck cause := by
  obtain ⟨_, c, _, cause', -, -, hc, -, hcause', rfl⟩ := h.first e he
  rw [Option.some.inj ((hcause c hc).symm.trans hcause')]

/-- When all failures are the same, the order of the reports makes no difference. -/
theorem eq_of_cause (h : health.Reflects components outcome reports) (h' : health'.Reflects components outcome reports')
    (hcause : ∀ c ∈ components, (outcome c).cause? = some cause) : health = health' := by
  obtain ⟨statuses, error⟩ := health
  obtain ⟨statuses', error'⟩ := health'
  obtain rfl : statuses = statuses' := h.statuses.trans h'.statuses.symm
  have hnone : error = none ↔ error' = none := h.faultless.trans h'.faultless.symm
  congr 1
  cases error with
  | none => exact (hnone.mp rfl).symm
  | some e =>
    cases error' with
    | none => exact hnone.mpr rfl
    | some e' => rw [h.error_eq hcause rfl, h'.error_eq hcause rfl]

end SystemHealth.Reflects

end Tenancy
