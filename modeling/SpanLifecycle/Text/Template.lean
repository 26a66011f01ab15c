import SpanLifecycle.Decimal.Nearest
import SpanLifecycle.Fault

/-!
# Templates

A template is a text with directives, each of which takes a value: a percent sign, flags, a width,
a precision and a letter that says what kind of value is wanted.  Values are taken one after the
other, or from an object by a key in parentheses.  `Template.check` says whether values can be
filled in, and if not, what is wrong first.
-/

namespace SpanLifecycle

/-- What may be wrong with a template and the values for it. -/
inductive TemplateError where
  | incomplete
  | incompleteKey
  | noObject
  | missingKey (key : String)
  | tooFew
  | tooMany
  | sizeNotWhole
  | hugeSize (word : String)
  | hugeWidth
  | hugePrecision
  | unknownDirective (c : Char) (place : Nat)
  | notNumber (directive : Char) (kindName : String)
  | notWhole (directive : Char) (kindName : String)
  | notReal (kindName : String)
  | hugeReal
  /-- A real number beyond all bounds where a whole one is wanted. -/
  | infiniteReal
  /-- A decimal that is no number where a whole one is wanted. -/
  | undefinedReal
  /-- A whole number shall have more digits than can be. -/
  | hugeNumeral
  /-- A directive asks for more room than there is. -/
  | noRoom
  | notCharacter
  | noSuchCharacter
  deriving Repr, DecidableEq

namespace TemplateError

/-- A character in a message; one that is not plain is left open. -/
def plainChar (c : Char) : Char := if 31 ≤ c.toNat ∧ c.toNat ≤ 126 then c else '?'

/-- A character's number in hexadecimal digits. -/
def charCode (c : Char) : String := String.ofList (Nat.toDigits 16 c.toNat)

/-- The exception that stands for what is wrong. -/
def fault : TemplateError → Fault
  | incomplete => { kind := .valueError, message := some "incomplete format" }
  | incompleteKey => { kind := .valueError, message := some "incomplete format key" }
  | noObject => { kind := .typeError, message := some "format requires a mapping" }
  | missingKey key => { kind := .keyError, message := some key }
  | tooFew => { kind := .typeError, message := some "not enough arguments for format string" }
  | tooMany =>
    { kind := .typeError
      message := some "not all arguments converted during string formatting" }
  | sizeNotWhole => { kind := .typeError, message := some "* wants int" }
  | hugeSize word =>
    { kind := .overflow
      message := some ("Python int too large to convert to C " ++ word) }
  | hugeWidth => { kind := .valueError, message := some "width too big" }
  | hugePrecision => { kind := .valueError, message := some "precision too big" }
  | unknownDirective c place =>
    { kind := .valueError
      message := some ("unsupported format character '" ++ String.singleton (plainChar c) ++
        "' (0x" ++ charCode c ++ ") at index " ++ toString place) }
  | notNumber c kindName =>
    { kind := .typeError
      message := some ("%" ++ String.singleton c ++ " format: a real number is required, not " ++
        kindName) }
  | notWhole c kindName =>
    { kind := .typeError
      message := some ("%" ++ String.singleton c ++ " format: an integer is required, not " ++
        kindName) }
  | notReal kindName =>
    { kind := .typeError, message := some ("must be real number, not " ++ kindName) }
  | hugeReal => { kind := .overflow, message := some "int too large to convert to float" }
  | infiniteReal =>
    { kind := .overflow, message := some "cannot convert float infinity to integer" }
  | undefinedReal =>
    { kind := .valueError, message := some "cannot convert float NaN to integer" }
  | hugeNumeral => { kind := .overflow, message := some "precision too large" }
  | noRoom => { kind := .memory }
  | notCharacter => { kind := .typeError, message := some "%c requires int or char" }
  | noSuchCharacter => { kind := .overflow, message := some "%c arg not in range(0x110000)" }

end TemplateError

namespace Template

/-! ## Values -/

/-- The values that are left for a template. -/
inductive Supply where
  /-- Values that are taken in order. -/
  | listed (rest : List Value)
  /-- An object that is asked by key, and the one value that a directive without a key takes. -/
  | keyed (fields : List (String × Value)) (next : Option Value)
  deriving Inhabited

namespace Supply

/-- The supply that arguments make: a single object with fields is asked by key. -/
def ofArguments : List Value → Supply
  | [.object (field :: fields)] => .keyed (field :: fields) (some (.object (field :: fields)))
  | args => .listed args

/-- Takes the next value. -/
def take : Supply → Except TemplateError (Value × Supply)
  | .listed (v :: rest) => .ok (v, .listed rest)
  | .keyed fields (some v) => .ok (v, .keyed fields none)
  | .listed [] | .keyed _ none => .error .tooFew

/-- Turns to the value of a key. -/
def select (key : String) : Supply → Except TemplateError Supply
  | .listed _ => .error .noObject
  | .keyed fields _ =>
    match fields.lookup key with
    | some v => .ok (.keyed fields (some v))
    | none => .error (.missingKey key)

/-- Values that are listed have to be used up. -/
def finish : Supply → Except TemplateError Unit
  | .listed (_ :: _) => .error .tooMany
  | .listed [] | .keyed .. => .ok ()

end Supply

/-! ## Directives -/

/-- A whole number that a value is. -/
def whole? : Value → Option Int
  | .int n => some n
  | .bool b => some (if b then 1 else 0)
  | _ => none

/-- The least number too large for a real number of double precision. -/
def realLimit : Nat := Nat.pow 2 1024 - Nat.pow 2 970

/-- The letters of directives that take a number and show a whole one. -/
def takesNumber (letter : Char) : Bool := ['d', 'i', 'u'].contains letter

/-- The letters of directives that take a whole number and show it in another base. -/
def takesWhole (letter : Char) : Bool := ['o', 'x', 'X'].contains letter

/-- Whether a value suits the letter of a directive that stands at a place in the template. -/
def suits (letter : Char) (place : Nat) (v : Value) : Except TemplateError Unit :=
  if ['s', 'r', 'a'].contains letter then .ok ()
  else if takesNumber letter then
    match v with
    | .int _ | .bool _ => .ok ()
    | .decimal d => if d.size?.isNone then .error .infiniteReal else .ok ()
    | .notANumber => .error .undefinedReal
    | v => .error (.notNumber letter v.kindName)
  else if takesWhole letter then
    match v with
    | .int _ | .bool _ => .ok ()
    | v => .error (.notWhole letter v.kindName)
  else if ['e', 'E', 'f', 'F', 'g', 'G'].contains letter then
    match v with
    | .int n => if realLimit ≤ n.natAbs then .error .hugeReal else .ok ()
    | .bool _ | .decimal _ | .notANumber => .ok ()
    | v => .error (.notReal v.kindName)
  else if letter = 'c' then
    match v, whole? v with
    | _, some n => if 0 ≤ n ∧ n < 0x110000 then .ok () else .error .noSuchCharacter
    | .text s, none => if s.length = 1 then .ok () else .error .notCharacter
    | _, none => .error .notCharacter
  else .error (.unknownDirective letter place)

/-- The least number of digits that no whole number can be shown with. -/
def numeralLimit : Nat := 2147483645

/-- The least width that there is no room for. -/
def roomLimit : Nat := Nat.pow 2 36

/-- Whether what a directive shows can have the width and the precision asked for. -/
def hasRoom (letter : Char) (width precision : Nat) : Except TemplateError Unit :=
  if (takesNumber letter || takesWhole letter) ∧ numeralLimit ≤ precision then
    .error .hugeNumeral
  else if roomLimit ≤ width then .error .noRoom
  else .ok ()

/-- Reads a key up to the parenthesis that closes it; `depth` counts the open ones. -/
def readKey (depth : Nat) (key : List Char) :
    List Char → Except TemplateError (String × List Char)
  | [] => .error .incompleteKey
  | ')' :: rest =>
    if depth = 0 then .ok (String.ofList key.reverse, rest)
    else readKey (depth - 1) (')' :: key) rest
  | '(' :: rest => readKey (depth + 1) ('(' :: key) rest
  | c :: rest => readKey depth (c :: key) rest

/-- A flag of a directive. -/
def isFlag (c : Char) : Bool := ['-', '+', ' ', '#', '0'].contains c

/-- A decimal digit. -/
def isNumeral (c : Char) : Bool := '0' ≤ c && c ≤ '9'

/-- The greatest width. -/
def widthLimit : Nat := 9223372036854775807

/-- The greatest precision. -/
def precisionLimit : Nat := 2147483647

/-- Reads a size in digits, all but the first of which are checked against a limit. -/
def readDigits (limit : Nat) (tooBig : TemplateError) (n : Nat) :
    List Char → Except TemplateError (Nat × List Char)
  | [] => .ok (n, [])
  | c :: rest =>
    if isNumeral c then
      let digit := c.toNat - 48
      if (limit - digit) / 10 < n then .error tooBig
      else readDigits limit tooBig (10 * n + digit) rest
    else .ok (n, c :: rest)

/-- The whole number that a star takes, which has to be in the range of a signed word. -/
def takeSize (limit : Nat) (word : String) (supply : Supply) :
    Except TemplateError (Int × Supply) := do
  let (v, supply) ← supply.take
  match whole? v with
  | none => .error .sizeNotWhole
  | some n =>
    if -(limit : Int) - 1 ≤ n ∧ n ≤ limit then .ok (n, supply) else .error (.hugeSize word)

/-- Reads a width if there is one: digits, or a star.  What a star takes counts without its sign,
and the least of all for nothing. -/
def readWidth (cs : List Char) (supply : Supply) :
    Except TemplateError (Nat × List Char × Supply) :=
  match cs with
  | '*' :: rest => do
    let (n, supply) ← takeSize widthLimit "ssize_t" supply
    return (if n.natAbs ≤ widthLimit then n.natAbs else 0, rest, supply)
  | c :: rest => do
    if isNumeral c then
      let (n, rest) ← readDigits widthLimit .hugeWidth (c.toNat - 48) rest
      return (n, rest, supply)
    else return (0, c :: rest, supply)
  | [] => .ok (0, [], supply)

/-- Reads a precision if there is one: a point, and behind it digits or a star or nothing.  What a
star takes counts for nothing below zero. -/
def readPrecision (cs : List Char) (supply : Supply) :
    Except TemplateError (Nat × List Char × Supply) :=
  match cs with
  | '.' :: '*' :: rest => do
    let (n, supply) ← takeSize precisionLimit "int" supply
    return (n.toNat, rest, supply)
  | '.' :: c :: rest => do
    if isNumeral c then
      let (n, rest) ← readDigits precisionLimit .hugePrecision (c.toNat - 48) rest
      return (n, rest, supply)
    else return (0, c :: rest, supply)
  | ['.'] => .ok (0, [], supply)
  | cs => .ok (0, cs, supply)

/-- Goes past one directive behind its percent sign, in a template of `length` characters. -/
def checkDirective (length : Nat) (cs : List Char) (supply : Supply) :
    Except TemplateError (List Char × Supply) := do
  let (cs, supply) ← match cs with
    | '(' :: rest => do
      match supply with
      | .listed _ => throw .noObject
      | .keyed .. =>
        let (key, rest) ← readKey 0 [] rest
        pure (rest, ← supply.select key)
    | cs => pure (cs, supply)
  let (width, cs, supply) ← readWidth (cs.dropWhile isFlag) supply
  let (precision, cs, supply) ← readPrecision cs supply
  let cs := match cs with
    | c :: rest => if ['h', 'l', 'L'].contains c then rest else c :: rest
    | [] => []
  match cs with
  | [] => throw .incomplete
  | letter :: rest =>
    let (v, supply) ← supply.take
    suits letter (length - cs.length) v
    hasRoom letter width precision
    return (rest, supply)

/-- Goes through a template of `length` characters.  Every directive takes at least one character,
so the length of the rest is fuel enough. -/
def checkFrom (length : Nat) : (fuel : Nat) → List Char → Supply → Except TemplateError Unit
  | 0, _, supply => supply.finish
  | _ + 1, [], supply => supply.finish
  | fuel + 1, '%' :: '%' :: rest, supply => checkFrom length fuel rest supply
  | _ + 1, ['%'], _ => .error .incomplete
  | fuel + 1, '%' :: rest, supply => do
    let (rest, supply) ← checkDirective length rest supply
    checkFrom length fuel rest supply
  | fuel + 1, _ :: rest, supply => checkFrom length fuel rest supply

/-- Whether arguments can be filled into a template. -/
def check (template : String) (args : List Value) : Except TemplateError Unit :=
  checkFrom template.length template.length template.toList (.ofArguments args)

end Template

end SpanLifecycle
