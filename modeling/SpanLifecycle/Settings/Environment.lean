import SpanLifecycle.Settings.Keywords
import SpanLifecycle.Text.WordEnd

/-!
# Settings from the environment

A variable whose name is that of a field behind a stem gives the value of the field.  Names are
compared without regard to case unless the keywords ask for it.
-/

namespace SpanLifecycle

/-- The environment, in the order in which variables were first set. -/
abbrev Environment := Mapping String String

/-- How the environment is read. -/
structure VariableRules where
  /-- What the name of a variable starts with. -/
  stem : String
  /-- Whether capitals count in the name of a variable. -/
  exactCase : Bool := false
  /-- Whether a variable that is set to nothing counts as unset. -/
  ignoreEmpty : Bool := false
  /-- The text of a variable that stands for null. -/
  nullText : Option String := none
  deriving Repr, DecidableEq, Inhabited

namespace VariableRules

/-- What the name of a variable starts with, before the name of a field. -/
def defaultStem : String := "WEBTRACE_"

/-- Whether the stem belongs in front of the names of fields; it may be meant for other names
alone. -/
def stemApplies (keywords : Keywords) : Bool :=
  match keywords.get? "_env_prefix_target" with
  | none | some .null | some (.text "variable") | some (.text "all") => true
  | some _ => false

/-- How the keywords say that the environment is read. -/
def ofKeywords (keywords : Keywords) : VariableRules :=
  { stem := if stemApplies keywords then (keywords.text? "_env_prefix").getD defaultStem else ""
    exactCase := keywords.flag "_case_sensitive"
    ignoreEmpty := keywords.flag "_env_ignore_empty"
    nullText := keywords.text? "_env_parse_none_str" }

/-- The name of a variable as it is compared. -/
def comparedName (rules : VariableRules) (name : String) : String :=
  if rules.exactCase then name else Lowercase.ofText name

/-- What the text of a variable stands for. -/
def meaning (rules : VariableRules) (text : String) : Value :=
  if rules.nullText = some text then .null else .text text

/-- The value that the environment gives to a field; the last variable of a name counts. -/
def field? (rules : VariableRules) (env : Environment) (field : String) : Option Value :=
  let wanted := rules.comparedName (rules.stem ++ field)
  let named := env.filter fun entry =>
    rules.comparedName entry.1 == wanted && !(rules.ignoreEmpty && entry.2 == "")
  named.getLast?.map fun entry => rules.meaning entry.2

end VariableRules

end SpanLifecycle
