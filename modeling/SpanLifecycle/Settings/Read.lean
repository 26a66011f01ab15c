import SpanLifecycle.Settings.Sources

/-!
# Reading settings

Each field comes from the command line among the keywords, else from a keyword of its own, else from
the environment, else from its default.  `Settings.read` answers with the settings, or with
everything that is wrong with them in the order of the fields, unknown keywords last.  Sources that
cannot be gathered are a failure before any field is read.
-/

namespace SpanLifecycle

/-- Why settings cannot be read. -/
inductive SettingsFailure where
  | invalid (errors : List SettingError)
  | fault (e : Fault)
  deriving Repr, Inhabited

/-- The kind of a failure and its text. -/
def SettingsFailure.report : SettingsFailure → String × String
  | invalid errors => ("ValidationError", SettingError.report errors)
  | fault e => (e.kind.name, e.text)

namespace Settings

/-- Reads one field; what is wrong with it is kept beside the default. -/
def readField {α : Type} (sources : Sources) (field : String) (default : α)
    (read : Value → Except SettingFault α) : α × List SettingError :=
  match sources.field? field with
  | none => (default, [])
  | some v =>
    match read v with
    | .ok a => (a, [])
    | .error fault => (default, [{ field, fault }])

/-- Reads all fields. -/
def readFields (sources : Sources) : Except (List SettingError) Settings :=
  let (deployment, e₁) := readField sources "env" .dev readDeployment
  let (serviceName, e₂) := readField sources "service_name" "webtrace" readText
  let (logLevel, e₃) := readField sources "log_level" "INFO" readText
  let (apiHost, e₄) := readField sources "api_host" "0.0.0.0" readText
  let (apiPort, e₅) := readField sources "api_port" 8080 readWhole
  let (spanNameStem, e₆) := readField sources "span_name_prefix" "http" readText
  let (errorPath, e₇) := readField sources "error_path" "/error" readPath
  let (exporter, e₈) := readField sources "exporter" .none readExporter
  match e₁ ++ e₂ ++ e₃ ++ e₄ ++ e₅ ++ e₆ ++ e₇ ++ e₈ ++ sources.keywords.unknownErrors with
  | [] =>
    .ok { env := deployment, serviceName, logLevel, apiHost, apiPort, spanNameStem, errorPath
          exporter }
  | errors => .error errors

/-- Reads the settings from keywords and environment. -/
def read (environment : Environment) (keywords : Keywords) : Except SettingsFailure Settings :=
  match Sources.gather environment keywords with
  | .error e => .error (.fault e)
  | .ok sources => (readFields sources).mapError .invalid

end Settings

end SpanLifecycle
