import SpanLifecycle.Fault
import SpanLifecycle.Settings.Keywords
import SpanLifecycle.Text.WordEnd

/-!
# Settings from a command line

The words of a command line may give values to fields.  A flag, which is the name of a field behind
two marks, takes what stands behind an equals sign in the same word, or else the next word; of
several values the last one counts.  A flag of one letter stands behind one mark, and its value may
follow it in the same word.  A word that looks like a flag is no value, and a word that is neither
flag nor value is left over.
-/

namespace SpanLifecycle

/-- What a flag asks for. -/
inductive FlagTarget where
  /-- To be told how the command line is used, and nothing else. -/
  | help
  | field (name : String)
  deriving Repr, DecidableEq, Inhabited

/-- A flag with its spellings, marks included. -/
structure Flag where
  spellings : List String
  target : FlagTarget
  deriving Repr, DecidableEq, Inhabited

/-- How a command line is read. -/
structure FlagRules where
  flags : List Flag
  /-- The character that flags start with. -/
  mark : Char := '-'
  /-- Whether capitals count in flags. -/
  exactCase : Bool := false
  /-- The text that stands for null. -/
  nullText : String := "null"
  /-- Whether words may be left over. -/
  ignoreUnknown : Bool := false
  /-- Whether a fault ends the program, and does not just fail the reading. -/
  exits : Bool := true
  deriving Repr, Inhabited

/-- One word of a command line, by its part in it. -/
inductive Word where
  | value (s : String)
  /-- A flag, with the value that the same word gives to it. -/
  | flag (f : Flag) (given : Option String)
  | unknown (s : String)
  /-- Two dashes, behind which there are no more flags. -/
  | divider
  deriving Repr, DecidableEq, Inhabited

/-- Why a command line cannot be read. -/
inductive CommandLineError where
  | helpWanted
  | noValue (f : Flag)
  | needlessValue (f : Flag) (given : String)
  | leftOver (words : List String)
  deriving Repr, DecidableEq

namespace Flag

/-- The name of a flag in a message: all its spellings. -/
def name (f : Flag) : String := "/".intercalate f.spellings

/-- A spelling behind its marks: two, or one before a single letter. -/
def marked (mark : Char) (spelling : String) : String :=
  String.ofList (List.replicate (min 2 spelling.length) mark) ++ spelling

end Flag

/-- The exception that stands for a command line that cannot be read. -/
def CommandLineError.fault (exits : Bool) (e : CommandLineError) : Fault :=
  let failing (message : String) : Fault :=
    if exits then { kind := .systemExit, message := some "2" }
    else { kind := .unreadableSettings, message := some ("error parsing CLI: " ++ message) }
  match e with
  | helpWanted => { kind := .systemExit, message := some "0" }
  | noValue f => failing ("argument " ++ f.name ++ ": expected one argument")
  | needlessValue f given =>
    failing ("argument " ++ f.name ++ ": ignored explicit argument " ++ Quoted.quote given)
  | leftOver words => failing ("unrecognized arguments: " ++ " ".intercalate words)

namespace FlagRules

/-! ## Words -/

/-- A character that ends the part of a word that is compared without regard to case. -/
def endsSpelling (c : Char) : Bool :=
  WholeNumber.isBlank c || (0x1c ≤ c.toNat && c.toNat ≤ 0x1f) || c == '='

/-- A word with its flag in small letters.  What stands behind a line break is lost. -/
def inSmallLetters (mark : Char) (word : String) : String :=
  match word.toList with
  | first :: second :: rest =>
    if first = mark ∧ !endsSpelling second then
      let tail := second :: rest
      let spelling := first :: tail.takeWhile fun c => !endsSpelling c
      let value := (tail.dropWhile fun c => !endsSpelling c).takeWhile (· != '\n')
      Lowercase.ofText (String.ofList spelling) ++ String.ofList value
    else word
  | _ => word

/-- Whether a word is a negative number, with a point or without. -/
def isNegativeNumber (cs : List Char) : Bool :=
  match cs with
  | '-' :: rest =>
    match rest.dropWhile WholeNumber.isNumeral with
    | [] => !rest.isEmpty
    | '.' :: places => !places.isEmpty && places.all WholeNumber.isNumeral
    | _ => false
  | _ => false

/-- The flag with a spelling. -/
def flag? (rules : FlagRules) (spelling : List Char) : Option Flag :=
  rules.flags.find? fun f => f.spellings.contains (String.ofList spelling)

/-- A flag with the value behind an equals sign. -/
def flagWithValue? (rules : FlagRules) (cs : List Char) : Option Word :=
  match cs.span (· != '=') with
  | (spelling, _ :: value) => (rules.flag? spelling).map (.flag · (some (String.ofList value)))
  | (_, []) => none

/-- A flag of one letter with the value right behind it, which the flag for help has no use for. -/
def shortFlag? (rules : FlagRules) : List Char → Option Word
  | first :: second :: value =>
    if second = rules.mark then none
    else (rules.flag? [first, second]).map fun f =>
      match f.target with
      | .help => .flag f none
      | .field _ => .flag f (some (String.ofList value))
  | _ => none

/-- The part that a word plays, if it may be a flag. -/
def classify (rules : FlagRules) (word : String) : Word :=
  let cs := word.toList
  if cs.head? ≠ some rules.mark then .value word
  else
    match rules.flag? cs with
    | some f => .flag f none
    | none =>
      match (rules.flagWithValue? cs).or (rules.shortFlag? cs) with
      | some w => w
      | none =>
        if cs.length = 1 ∨ isNegativeNumber cs ∨ cs.contains ' ' then .value word
        else .unknown word

/-- The parts that words play. -/
def classifyAll (rules : FlagRules) : List String → List Word
  | [] => []
  | "--" :: rest => .divider :: rest.map .value
  | word :: rest => rules.classify word :: classifyAll rules rest

/-! ## Values -/

/-- What words give to the fields, beside what was `given` before, and the words left over. -/
def collect (given : Mapping String String) (leftOver : List String) :
    List Word → Except CommandLineError (Mapping String String × List String)
  | [] => .ok (given, leftOver)
  | .flag { target := .help, .. } none :: _ => .error .helpWanted
  | .flag f@{ target := .help, .. } (some value) :: _ => .error (.needlessValue f value)
  | .flag { target := .field name, .. } (some value) :: rest =>
    collect (given.set name value) leftOver rest
  | .flag { target := .field name, .. } none :: .value value :: rest =>
    collect (given.set name value) leftOver rest
  | .flag f@{ target := .field _, .. } none :: _ => .error (.noValue f)
  | .value word :: rest | .unknown word :: rest => collect given (leftOver ++ [word]) rest
  | .divider :: rest => collect given (leftOver ++ ["--"]) rest

/-- The values that the words of a command line give to the fields. -/
def read (rules : FlagRules) (words : List String) :
    Except CommandLineError (Mapping String String) := do
  let words := if rules.exactCase then words else words.map (inSmallLetters rules.mark)
  let (given, leftOver) ← collect [] [] (rules.classifyAll words)
  if leftOver.isEmpty || rules.ignoreUnknown then return given else throw (.leftOver leftOver)

/-! ## Rules from keywords -/

/-- Whether a text is made of names with points between them. -/
def isDotted (s : String) : Bool :=
  let isLetter (c : Char) : Bool := c.isAlpha || c == '_' || 128 ≤ c.toNat
  let cs := s.toList
  let names := cs.filter (· != '.')
  cs.head? != some '.' && cs.getLast? != some '.' && (names.head?.map isLetter).getD false &&
    names.all fun c => isLetter c || c.isDigit

/-- What stands before the name of a field in a flag. -/
def stemOf (keywords : Keywords) : Except Fault String :=
  match keywords.text? "_cli_prefix" with
  | none | some "" => .ok ""
  | some s =>
    if isDotted s then .ok (s ++ ".")
    else .error
      { kind := .unreadableSettings
        message := some ("CLI settings source prefix is invalid: " ++ s) }

/-- The further spellings of the flag for a field. -/
def shortcuts (keywords : Keywords) (field : String) : List String :=
  match keywords.get? "_cli_shortcuts" with
  | some (.object fields) =>
    match fields.lookup field with
    | some (.text s) => [s]
    | some (.list items) => items.filterMap fun
      | .text s => some s
      | _ => none
    | _ => []
  | _ => []

/-- The character that flags start with. -/
def markOf (keywords : Keywords) : Char :=
  (((keywords.text? "_cli_flag_prefix_char").map String.toList).bind List.head?).getD '-'

/-- The text that stands for null. -/
def nullTextOf (keywords : Keywords) : String :=
  match keywords.text? "_cli_parse_none_str" with
  | none | some "" => if keywords.flag "_cli_avoid_json" then "None" else "null"
  | some s => s

/-- How the keywords say that a command line is read. -/
def ofKeywords (keywords : Keywords) : Except Fault FlagRules := do
  let stem ← stemOf keywords
  let mark := markOf keywords
  let dashed (name : String) : String :=
    if keywords.flag "_cli_kebab_case" then name.map fun c => if c = '_' then '-' else c else name
  let ofField (name : String) : Flag :=
    { spellings := ((stem ++ dashed name) :: shortcuts keywords name).map (Flag.marked mark)
      target := .field name }
  let help : Flag := { spellings := ["h", "help"].map (Flag.marked mark), target := .help }
  return {
    flags := Settings.fieldNames.map ofField ++ [help]
    mark
    exactCase := keywords.flag "_case_sensitive"
    nullText := nullTextOf keywords
    ignoreUnknown := keywords.flag "_cli_ignore_unknown_args"
    exits := (keywords.get? "_cli_exit_on_error").all fun v => v == .null || v.truthy }

/-- The text of a word; one that counts as unset is empty. -/
def wordText : Value → Except Fault String
  | .text s => .ok s
  | v =>
    if v.truthy then
      .error
        { kind := .typeError
          message := some ("expected string or bytes-like object, got " ++
            Quoted.quote v.kindName) }
    else .ok ""

/-- What the command line among the keywords gives to the fields.  A command line that is just true
is that of the program itself, which has no words for the settings. -/
def fields (keywords : Keywords) : Except Fault (Mapping String Value) :=
  match keywords.get? "_cli_parse_args" with
  | none | some .null => .ok []
  | some commandLine => do
    let rules ← ofKeywords keywords
    match commandLine with
    | .list items =>
      let given ← (rules.read (← items.mapM wordText)).mapError (·.fault rules.exits)
      return given.map fun entry =>
        (entry.1, if entry.2 = rules.nullText then .null else .text entry.2)
    | .bool _ | .int 0 => return []
    | v =>
      if v matches .decimal _ && !v.truthy then return []
      throw
        { kind := .unreadableSettings
          message := some ("cli_parse_args must be a list or tuple, received <class " ++
            Quoted.quote v.kindName ++ ">") }

end FlagRules

end SpanLifecycle
