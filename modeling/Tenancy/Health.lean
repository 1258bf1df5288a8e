import Tenancy.Failure
import Tenancy.Json.Decoder

/-!
# Health and version

The health of the components that the platform depends on, and the identifiers of its build.
-/

namespace Tenancy

open Json

/-- The health of a component. -/
inductive HealthStatus where
  | unknown
  | healthy
  | unhealthy
deriving DecidableEq, Repr, Inhabited

instance : Labelled HealthStatus where
  all := [.unknown, .healthy, .unhealthy]
  label
    | .unknown => "unknown"
    | .healthy => "healthy"
    | .unhealthy => "unhealthy"

/-- A component that can be asked for its health. -/
inductive Component where
  | graphDatabase
  | relationalDatabase
  | cacheDatabase
  | license
deriving DecidableEq, Repr, Inhabited

instance : Labelled Component where
  all := [.graphDatabase, .relationalDatabase, .cacheDatabase, .license]
  label
    | .graphDatabase => "graph_database"
    | .relationalDatabase => "relational_database"
    | .cacheDatabase => "cache_database"
    | .license => "license"

/-- The health of each component, and the first failure that was seen. -/
structure SystemHealth where
  components : List (Component × HealthStatus)
  error : Option ServiceError

namespace SystemHealth

/-- Whether no failure was seen and every component is healthy. -/
def isHealthy (h : SystemHealth) : Bool := h.error.isNone && h.components.all fun c => c.2 == .healthy

/-- The components, unless a failure was seen. -/
def result (h : SystemHealth) : Except ServiceError (List (Component × HealthStatus)) :=
  match h.error with
  | some e => .error e
  | none => .ok h.components

/-- The health of each component in JSON. -/
def componentsJson (components : List (Component × HealthStatus)) : Json :=
  .object (components.map fun (c, s) => (Labelled.label c, .string (Labelled.label s)))

end SystemHealth

/-- The identifiers of a build. -/
structure VersionInfo where
  version : String
  commit : String
  date : String
  toolchain : String
deriving DecidableEq, Repr

namespace VersionInfo

/-- The identifiers of a build in JSON. -/
def toJson (v : VersionInfo) : Json :=
  .object [("version", .string v.version), ("commit", .string v.commit), ("date", .string v.date),
    ("rust_version", .string v.toolchain)]

/-- Reads the identifiers of a build. -/
def decoder : Decoder VersionInfo :=
  (VersionInfo.mk <$> .required "version" .text <*> .required "commit" .text <*> .required "date" .text <*>
    .required "rust_version" .text : Fields VersionInfo).decoder "VersionInfo"

end VersionInfo

end Tenancy
