import Tenancy.Environment
import Tenancy.Health
import Tenancy.Text.Chars

/-!
# Configuration

The settings of the platform, each read from its own variable. Three variables must be set; the port must be a number of
16 bits; every other variable has a default. The first faulty variable decides the error.
-/

namespace Tenancy

/-- Outgoing email. -/
structure MailConfig where
  hostname : String
  supportAddress : String
  fromAddress : String
  host : String
  port : UInt16
  username : Option String
  password : Option String
  useTls : Bool
deriving DecidableEq, Repr

/-- The settings of outgoing email where nothing is said. -/
def MailConfig.default : MailConfig where
  hostname := "localhost"
  supportAddress := "support@localhost"
  fromAddress := "no-reply@localhost"
  host := "localhost"
  port := 25
  username := none
  password := none
  useTls := false

/-- Logging. -/
structure TelemetryConfig where
  logFormat : String
  defaultFilter : String
deriving DecidableEq, Repr

/-- The settings of logging where nothing is said. -/
def TelemetryConfig.default : TelemetryConfig := ⟨"text", "elemo_core=info"⟩

/-- The settings of the platform. -/
structure Config where
  mail : MailConfig
  telemetry : TelemetryConfig
  version : VersionInfo
deriving DecidableEq, Repr

/-- Why a text is no number of 16 bits. -/
inductive PortError where
  | empty
  | invalidDigit
  | tooLarge
deriving DecidableEq, Repr

/-- The wording of the error. -/
def PortError.text : PortError → String
  | empty => "cannot parse integer from empty string"
  | invalidDigit => "invalid digit found in string"
  | tooLarge => "number too large to fit in target type"

/-- Why a configuration cannot be read. -/
inductive ConfigError where
  | required (name : String) (cause : VariableError)
  | port (cause : PortError)
deriving DecidableEq, Repr

/-- The wording of the error. -/
def ConfigError.text : ConfigError → String
  | required name cause => name ++ " is required: " ++ cause.text
  | port cause => "Invalid SMTP_PORT: " ++ cause.text

namespace Config

/-- Reads digits after those that make `n`. -/
def readDigits : (n : Nat) → List Char → Except PortError Nat
  | n, [] => .ok n
  | n, c :: cs =>
    if ¬ c.isDigit then .error .invalidDigit
    else
      let n := 10 * n + (c.toNat - 48)
      if n < 65536 then readDigits n cs else .error .tooLarge

/-- Reads a port; a plus sign may stand before its digits. -/
def readPort (s : String) : Except PortError UInt16 :=
  match s.toList with
  | [] => .error .empty
  | '+' :: c :: cs => (readDigits 0 (c :: cs)).map UInt16.ofNat
  | cs => (readDigits 0 cs).map UInt16.ofNat

/-- A variable that must be set to text. -/
def required (env : Environment) (name : String) : Except ConfigError String :=
  (env.read name).mapError (.required name)

/-- The port of the relay. -/
def portOf (env : Environment) : Except ConfigError UInt16 :=
  match env.text? "SMTP_PORT" with
  | none => .ok MailConfig.default.port
  | some s => (readPort s).mapError .port

/-- Whether a text asks for TLS. -/
def isYes (s : String) : Bool := Text.lower s == "true" || s == "1"

/-- The version of this release. -/
def release : String := "0.1.0"

/-- The settings that an environment gives. -/
def ofEnvironment (env : Environment) : Except ConfigError Config := do
  let hostname ← required env "SMTP_HOSTNAME"
  let supportAddress ← required env "SMTP_SUPPORT_ADDRESS"
  let fromAddress ← required env "SMTP_FROM_ADDRESS"
  let port ← portOf env
  return {
    mail := {
      hostname
      supportAddress
      fromAddress
      host := (env.text? "SMTP_HOST").getD MailConfig.default.host
      port
      username := env.text? "SMTP_USERNAME"
      password := env.text? "SMTP_PASSWORD"
      useTls := ((env.text? "SMTP_USE_TLS").map isYes).getD MailConfig.default.useTls }
    telemetry := {
      logFormat := (env.text? "LOG_FORMAT").getD TelemetryConfig.default.logFormat
      defaultFilter := (env.text? "LOG_FILTER").getD TelemetryConfig.default.defaultFilter }
    version := {
      version := (env.text? "ELEMO_VERSION").getD release
      commit := (env.text? "ELEMO_COMMIT").getD "unknown"
      date := (env.text? "ELEMO_BUILD_DATE").getD "unknown"
      toolchain := (env.text? "ELEMO_RUST_VERSION").getD "unknown" } }

end Config

/-- The settings of outgoing email in JSON. -/
def MailConfig.toJson (c : MailConfig) : Json :=
  .object [("hostname", .string c.hostname), ("support_address", .string c.supportAddress),
    ("from_address", .string c.fromAddress), ("host", .string c.host), ("port", .integer c.port.toNat),
    ("username", (c.username.map Json.string).getD .null), ("password", (c.password.map Json.string).getD .null),
    ("use_tls", .bool c.useTls)]

/-- The settings of logging in JSON. -/
def TelemetryConfig.toJson (c : TelemetryConfig) : Json :=
  .object [("log_format", .string c.logFormat), ("default_filter", .string c.defaultFilter)]

/-- The settings of the platform in JSON. -/
def Config.toJson (c : Config) : Json :=
  .object [("smtp", c.mail.toJson), ("telemetry", c.telemetry.toJson), ("version", c.version.toJson)]

end Tenancy
