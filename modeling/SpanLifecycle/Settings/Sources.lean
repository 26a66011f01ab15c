import SpanLifecycle.Settings.CommandLine
import SpanLifecycle.Settings.Environment

/-!
# Where settings come from

What is gathered before any field is read: the environment, the keywords, and the values that a
command line among the keywords gives.  Keywords that say how settings are read have to be of the
right kind; the first one that is not fails the reading.  No files hold settings, but the places
where such files might be are gone through all the same.
-/

namespace SpanLifecycle

namespace Fault

/-- Going through a value of a kind that holds nothing. -/
def notIterable (kindName : String) : Fault :=
  { kind := .typeError, message := some (Quoted.quote kindName ++ " object is not iterable") }

/-- The use of a value of the given kind as the name of a file. -/
def notAPath (kindName : String) : Fault :=
  { kind := .typeError
    message := some ("expected str, bytes or os.PathLike object, not " ++ kindName) }

/-- Joining the name of a field to what is no text. -/
def badStem : Fault :=
  { kind := .unreadableSettings
    message := some ("error getting value for field \x22env\x22 from source " ++
      "\x22EnvSettingsSource\x22") }

/-- The use of a value of the given kind as a source of settings. -/
def notASource (kindName : String) : Fault :=
  { kind := .typeError, message := some (Quoted.quote kindName ++ " object is not callable") }

/-- The use of a value of the given kind as a pair. -/
def notAPair (kindName : String) : Fault :=
  { kind := .typeError
    message := some ("cannot unpack non-iterable " ++ kindName ++ " object") }

/-- The use of `n` values as a pair. -/
def pairSize (n : Nat) : Fault :=
  { kind := .valueError
    message := some (if n < 2 then
        "not enough values to unpack (expected 2, got " ++ toString n ++ ")"
      else "too many values to unpack (expected 2)") }

end Fault

namespace Settings

/-- Where the values of the fields come from. -/
structure Sources where
  environment : Environment := []
  keywords : Keywords := []
  /-- What the command line gives to the fields. -/
  commandLine : Mapping String Value := []
  deriving Repr, Inhabited

namespace Sources

/-- The values that a value holds: items of a list, names of fields, single characters. -/
def itemsOf? : Value → Option (List Value)
  | .list items => some items
  | .object fields => some (fields.map fun field => .text field.1)
  | .text s => some (s.toList.map fun c => .text (String.singleton c))
  | .null | .bool _ | .int _ | .decimal _ | .notANumber => none

/-- Goes through the places that a keyword names: a text is one place, and the items of a list or
the names in an object are one each. -/
def checkPlaces : Option Value → Except Fault Unit
  | none | some .null | some (.text _) => .ok ()
  | some v =>
    match itemsOf? v with
    | none => .error (.notIterable v.kindName)
    | some items => items.forM fun
      | .text _ => .ok ()
      | item => .error (.notAPath item.kindName)

/-- Refuses a stem for the names of variables that is no text, if it is used. -/
def checkStem (keywords : Keywords) : Except Fault Unit :=
  match keywords.get? "_env_prefix" with
  | none | some .null | some (.text _) => .ok ()
  | some _ => if VariableRules.stemApplies keywords then .error .badStem else .ok ()

/-- Refuses sources that are handed over ready, unless there are none of them: no value of a keyword
is a source. -/
def checkHandedOver (v : Value) : Except Fault Unit :=
  match itemsOf? v with
  | none => .error (.notAPair v.kindName)
  | some [sources, _] =>
    if sources.truthy then
      match itemsOf? sources with
      | none => .error (.notIterable sources.kindName)
      | some items => items.forM fun item => .error (.notASource item.kindName)
    else .ok ()
  | some items => .error (.pairSize items.length)

/-- The sources that keywords and environment make.  With no sources handed over, nothing else is
looked at. -/
def gather (environment : Environment) (keywords : Keywords) : Except Fault Sources :=
  match keywords.get? "_build_sources" with
  | none | some .null => do
    checkPlaces (keywords.get? "_env_file")
    let commandLine ← FlagRules.fields keywords
    checkStem keywords
    checkPlaces (keywords.get? "_secrets_dir")
    return { environment, keywords, commandLine }
  | some handedOver => do
    checkHandedOver handedOver
    return {}

/-- The value of a field before it is checked; none asks for the default. -/
def field? (sources : Sources) (field : String) : Option Value :=
  ((sources.commandLine.get? field).or (sources.keywords.field? field)).or
    ((VariableRules.ofKeywords sources.keywords).field? sources.environment field)

end Sources

end Settings

end SpanLifecycle
