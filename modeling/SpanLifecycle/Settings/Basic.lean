import SpanLifecycle.Settings.WholeNumber

/-!
# Settings

The configuration of a traced service: its fields with their defaults, how the value of each field
is read, and what may be wrong with it.
-/

namespace SpanLifecycle

/-- Where a service is deployed. -/
inductive Deployment where
  | dev
  | test
  | prod
  deriving Repr, DecidableEq, Inhabited

/-- The spelling of a deployment. -/
def Deployment.name : Deployment → String
  | dev => "dev"
  | test => "test"
  | prod => "prod"

/-- Where spans go. -/
inductive Exporter where
  | none
  | console
  deriving Repr, DecidableEq, Inhabited

/-- The spelling of an exporter. -/
def Exporter.name : Exporter → String
  | none => "none"
  | console => "console"

/-- The configuration of a traced service. -/
structure Settings where
  env : Deployment := .dev
  serviceName : String := "webtrace"
  logLevel : String := "INFO"
  apiHost : String := "0.0.0.0"
  apiPort : Int := 8080
  /-- What spans are named after, before the path. -/
  spanNameStem : String := "http"
  /-- The path that plays the part of the application's error handler. -/
  errorPath : String := "/error"
  exporter : Exporter := .none
  deriving Repr, DecidableEq, Inhabited

/-- What may be wrong with one field. -/
inductive SettingFault where
  | notADeployment
  | notAnExporter
  | notText
  | notWhole (why : NotWhole)
  | noLeadingSlash
  | unknownField
  deriving Repr, DecidableEq, Inhabited

/-- The wording of what is wrong. -/
def SettingFault.message : SettingFault → String
  | notADeployment => "Input should be 'dev', 'test' or 'prod'"
  | notAnExporter => "Input should be 'none' or 'console'"
  | notText => "Input should be a valid string"
  | notWhole .unreadable =>
    "Input should be a valid integer, unable to parse string as an integer"
  | notWhole .tooLarge => "Unable to parse input string as an integer, exceeded maximum size"
  | notWhole .infinite => "Input should be a finite number"
  | notWhole .fractional => "Input should be a valid integer, got a number with a fractional part"
  | notWhole .wrongKind => "Input should be a valid integer"
  | noLeadingSlash => "String should match pattern '^/'"
  | unknownField => "Extra inputs are not permitted"

/-- The code of what is wrong. -/
def SettingFault.code : SettingFault → String
  | notADeployment | notAnExporter => "literal_error"
  | notText => "string_type"
  | notWhole .unreadable => "int_parsing"
  | notWhole .tooLarge => "int_parsing_size"
  | notWhole .infinite => "finite_number"
  | notWhole .fractional => "int_from_float"
  | notWhole .wrongKind => "int_type"
  | noLeadingSlash => "string_pattern_mismatch"
  | unknownField => "extra_forbidden"

/-- One thing that is wrong with a field. -/
structure SettingError where
  field : String
  fault : SettingFault
  deriving Repr, DecidableEq, Inhabited

/-- Everything that is wrong, as one line of text. -/
def SettingError.report (errors : List SettingError) : String :=
  "; ".intercalate (errors.map fun e =>
    e.field ++ ": " ++ e.fault.message ++ " [" ++ e.fault.code ++ "]")

namespace Settings

/-! ## Fields -/

/-- The names of the fields, in order. -/
def fieldNames : List String :=
  ["env", "service_name", "log_level", "api_host", "api_port", "span_name_prefix", "error_path",
    "exporter"]

/-- Reads a deployment; the spelling is exact. -/
def readDeployment : Value → Except SettingFault Deployment
  | .text "dev" => .ok .dev
  | .text "test" => .ok .test
  | .text "prod" => .ok .prod
  | _ => .error .notADeployment

/-- Reads an exporter; the spelling is exact. -/
def readExporter : Value → Except SettingFault Exporter
  | .text "none" => .ok .none
  | .text "console" => .ok .console
  | _ => .error .notAnExporter

/-- Reads a text. -/
def readText : Value → Except SettingFault String
  | .text s => .ok s
  | _ => .error .notText

/-- Reads a whole number. -/
def readWhole (v : Value) : Except SettingFault Int :=
  (WholeNumber.ofValue v).mapError .notWhole

/-- Reads a path, which starts with a slash. -/
def readPath (v : Value) : Except SettingFault String := do
  let s ← readText v
  if s.toList.head? = some '/' then .ok s else .error .noLeadingSlash

end Settings

end SpanLifecycle
