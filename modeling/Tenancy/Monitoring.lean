import Tenancy.Operation.Equipment

/-!
# Monitoring

Whether the platform is up, which build it is, and the health of its components. All components are asked at once; the
first failure that is taken in is kept, and a component that never reports counts as unhealthy.
-/

namespace Tenancy

/-- What has been heard from the components so far. -/
structure Survey where
  statuses : List (Component × HealthStatus)
  failure : Option ServiceError
deriving DecidableEq, Repr

namespace Survey

/-- Nothing heard yet. -/
def start (components : List Component) : Survey := ⟨components.map fun c => (c, .unknown), none⟩

/-- The survey with the status of a component. -/
def set (s : Survey) (component : Component) (status : HealthStatus) : Survey :=
  { s with statuses := s.statuses.map fun entry => if entry.1 = component then (entry.1, status) else entry }

/-- Keeps a failure, unless one is kept already. -/
def keep (s : Survey) (cause : Failure) : Survey :=
  { s with failure := s.failure <|> some (.join .systemHealthCheck cause) }

/-- Takes in a report. A component that crashed leaves no status. -/
def take (s : Survey) : Component × PingReport → Survey
  | (component, .healthy) => s.set component .healthy
  | (component, .failed cause) => (s.set component .unhealthy).keep cause
  | (_, .crashed) => s.keep .crashed

/-- The health of the system when no more reports come. -/
def close (s : Survey) : SystemHealth where
  components := s.statuses.map fun (component, status) =>
    (component, if status = .unknown then .unhealthy else status)
  error := s.failure

/-- The health of components after all reports. -/
def health (components : List Component) (reports : List (Component × PingReport)) : SystemHealth :=
  (reports.foldl take (start components)).close

end Survey

/-- The service of the system. -/
structure Monitoring where
  equipment : Equipment
  components : List Component
  version : VersionInfo
deriving DecidableEq, Repr

namespace Monitoring

/-- Says that the platform is up. -/
def heartbeat (s : Monitoring) (ctx : Context) : Program (Except ServiceError Unit) :=
  s.equipment.span ctx "service.system/get_heartbeat" do
    return .ok ()

/-- The identifiers of the build. -/
def buildInfo (s : Monitoring) (ctx : Context) : Program (Except ServiceError VersionInfo) :=
  s.equipment.span ctx "service.system/get_version" do
    return .ok s.version

/-- The health of all components. -/
def health (s : Monitoring) (ctx : Context) : Program SystemHealth :=
  let name := "service.system/get_health"
  s.equipment.span ctx name do
    s.components.forM fun c => s.equipment.event name ("Check " ++ Labelled.label c ++ " health")
    let reports ← Program.survey ctx s.components
    s.equipment.log .debug ("checked health of " ++ toString s.components.length ++ " components")
    return Survey.health s.components reports

end Monitoring

end Tenancy
