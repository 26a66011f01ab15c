import SpanLifecycle.Mapping
import SpanLifecycle.Settings.Basic

/-!
# Keywords for settings

Settings are asked for with keywords.  A keyword that differs from the name of a field in case at
most gives the value of that field; others say how the settings are read; and any other keyword is
unknown.
-/

namespace SpanLifecycle

/-- The keywords that settings are asked for with. -/
abbrev Keywords := Mapping String Value

namespace Keywords

/-- The keywords that say how settings are read, and name no field. -/
def sourceKeywords : List String :=
  ["_case_sensitive", "_nested_model_default_partial_update", "_env_prefix", "_env_prefix_target",
    "_env_file", "_env_file_encoding", "_env_file_depth", "_env_ignore_empty",
    "_env_nested_delimiter", "_env_nested_max_split", "_env_parse_none_str", "_env_parse_enums",
    "_cli_prog_name", "_cli_parse_args", "_cli_settings_source", "_cli_parse_none_str",
    "_cli_hide_none_type", "_cli_avoid_json", "_cli_enforce_required",
    "_cli_use_class_docs_for_groups", "_cli_exit_on_error", "_cli_prefix",
    "_cli_flag_prefix_char", "_cli_implicit_flags", "_cli_ignore_unknown_args",
    "_cli_kebab_case", "_cli_shortcuts", "_cli_show_env_vars", "_secrets_dir", "_build_sources"]

/-- A keyword that is given and is a text. -/
def text? (keywords : Keywords) (name : String) : Option String :=
  match keywords.get? name with
  | some (.text s) => some s
  | _ => none

/-- Whether a keyword is given and counts as set. -/
def flag (keywords : Keywords) (name : String) : Bool :=
  ((keywords.get? name).map Value.truthy).getD false

/-- The value that the keywords give to a field: that of the first one whose name differs from the
field's in case at most. -/
def field? (keywords : Keywords) (field : String) : Option Value :=
  (keywords.find? fun entry => entry.1.map Char.toLower == field).map (·.2)

/-- A keyword that names no field, and does not say how settings are read either. -/
def isUnknown (keyword : String) : Bool :=
  !Settings.fieldNames.contains (keyword.map Char.toLower) && !sourceKeywords.contains keyword

/-- What is wrong with the keywords that are unknown. -/
def unknownErrors (keywords : Keywords) : List SettingError :=
  (keywords.filter fun entry => isUnknown entry.1).map fun entry =>
    { field := entry.1, fault := .unknownField }

end Keywords

end SpanLifecycle
