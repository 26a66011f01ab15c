import SpanLifecycle.Fault
import SpanLifecycle.Mapping
import SpanLifecycle.Settings.WholeNumber
import SpanLifecycle.Text.Lowercase

/-!
# Path patterns

The path of a route is a pattern: literal text, and fields in braces that have a name and stand
for a kind of text.  A pattern has to match the whole path, where one final line break does not
count.

A path that does not start with a slash is read as the name of a host: its literal text is matched
without regard to case, and a number behind a colon at its end is left out.

Matching tries the ways to share a path out among the fields, longest share first for the earliest
field, and answers with the first way that reaches the end.
-/

namespace SpanLifecycle

/-- The kinds of text that a field may stand for. -/
inductive FieldKind where
  /-- One path segment or a part of it. -/
  | segment
  /-- Any text on one line, slashes included. -/
  | anyPath
  | integer
  | decimal
  | uuid
  deriving Repr, DecidableEq, Inhabited

/-- One piece of a path pattern. -/
inductive Piece where
  | literal (c : Char)
  /-- A character without regard to case. -/
  | anyCase (c : Char)
  | field (name : String) (kind : FieldKind)
  deriving Repr, DecidableEq, Inhabited

/-- A path pattern. -/
abbrev PathPattern := List Piece

/-- What may be wrong with the text of a pattern. -/
inductive PatternError where
  | unknownKind (name : String)
  /-- Names that several fields have, in order, and the path they stand in. -/
  | repeatedNames (names : List String) (path : String)
  deriving Repr, DecidableEq

/-- The exception that stands for what is wrong. -/
def PatternError.fault : PatternError → Fault
  | unknownKind name =>
    { kind := .assertion, message := some ("Unknown path convertor '" ++ name ++ "'") }
  | repeatedNames names path =>
    { kind := .valueError
      message := some ("Duplicated param name" ++ (if names.length > 1 then "s" else "") ++ " " ++
        ", ".intercalate names ++ " at path " ++ path) }

namespace PathPattern

/-! ## Reading -/

/-- A letter or an underscore. -/
def isNameStart (c : Char) : Bool :=
  ('a' ≤ c && c ≤ 'z') || ('A' ≤ c && c ≤ 'Z') || c == '_'

/-- A character that a field's name may go on with. -/
def isNameChar (c : Char) : Bool := isNameStart c || ('0' ≤ c && c ≤ '9')

/-- Reads a name off the front. -/
def readName? (cs : List Char) : Option (String × List Char) :=
  match cs with
  | [] => none
  | c :: _ =>
    if isNameStart c then some (String.ofList (cs.takeWhile isNameChar), cs.dropWhile isNameChar)
    else none

/-- Reads a field after its opening brace: a name, the name of a kind if there is one, the closing
brace. -/
def readField? (cs : List Char) : Option (String × Option String × List Char) :=
  match readName? cs with
  | some (name, '\x7d' :: rest) => some (name, none, rest)
  | some (name, ':' :: rest) =>
    match readName? rest with
    | some (kind, '\x7d' :: rest) => some (name, some kind, rest)
    | _ => none
  | _ => none

/-- The kind of a name; a field without one stands for a segment. -/
def kind? : Option String → Except PatternError FieldKind
  | none => .ok .segment
  | some "str" => .ok .segment
  | some "path" => .ok .anyPath
  | some "int" => .ok .integer
  | some "float" => .ok .decimal
  | some "uuid" => .ok .uuid
  | some name => .error (.unknownKind name)

/-- Reads the pieces of a pattern behind those in `pieces`, which come last first; braces that hold
no field are literal.  Every step takes at least one character, so the length of the text is fuel
enough. -/
def readFrom : (fuel : Nat) → (pieces : PathPattern) → List Char → Except PatternError PathPattern
  | 0, pieces, _ => .ok pieces.reverse
  | _ + 1, pieces, [] => .ok pieces.reverse
  | fuel + 1, pieces, c :: rest =>
    match if c = '\x7b' then readField? rest else none with
    | some (name, kind, rest) =>
      match kind? kind with
      | .ok kind => readFrom fuel (.field name kind :: pieces) rest
      | .error e => .error e
    | none => readFrom fuel (.literal c :: pieces) rest

/-- The name of a field. -/
def fieldName? : Piece → Option String
  | .field name _ => some name
  | .literal _ | .anyCase _ => none

/-- The names of the fields of a pattern. -/
def fieldNames (p : PathPattern) : List String := p.filterMap fieldName?

/-- The names that occur more than once, in order. -/
def repeatedNames (names : List String) : List String :=
  (names.eraseDups.filter fun name => 1 < names.count name).mergeSort (fun a b => decide (a ≤ b))

/-- Whether a piece is a field. -/
def isField (piece : Piece) : Bool := (fieldName? piece).isSome

/-- Literal text without its last colon and what follows that, unless it ends in a bracket. -/
def cutAtColon (tail : PathPattern) : PathPattern :=
  if tail.getLast? = some (.literal ']') then tail
  else
    match tail.reverse.dropWhile fun piece => piece != .literal ':' with
    | [] => tail
    | _ :: before => before.reverse

/-- A piece with its literal text taken without regard to case. -/
def freeCase : Piece → Piece
  | .literal c => .anyCase c
  | piece => piece

/-- The pattern of a path that names a host. -/
def ofHost (p : PathPattern) : PathPattern :=
  let tail := (p.reverse.takeWhile fun piece => !isField piece).reverse
  (p.take (p.length - tail.length) ++ cutAtColon tail).map freeCase

/-- The pattern that a route's path spells. -/
def ofText (path : String) : Except PatternError PathPattern :=
  match readFrom path.length [] path.toList with
  | .error e => .error e
  | .ok p =>
    match repeatedNames (fieldNames p) with
    | [] => .ok (if path.toList.head? = some '/' then p else ofHost p)
    | names => .error (.repeatedNames names path)

/-! ## Matching -/

/-- The ways to take a non-empty run of characters of one kind, the longest first, and then those
in `acc`: how many are taken, and what is left.  The `taken` characters before are part of the
run. -/
def runs (p : Char → Bool) (taken : Nat) (acc : List (Nat × List Char)) :
    List Char → List (Nat × List Char)
  | [] => acc
  | c :: rest => if p c then runs p (taken + 1) ((taken + 1, rest) :: acc) rest else acc

/-- A decimal digit. -/
def isNumeral (c : Char) : Bool := '0' ≤ c && c ≤ '9'

/-- A hexadecimal digit in either case. -/
def isHex (c : Char) : Bool := isNumeral c || ('a' ≤ c && c ≤ 'f') || ('A' ≤ c && c ≤ 'F')

/-- Drops exactly `n` hexadecimal digits. -/
def dropHex? : (n : Nat) → List Char → Option (List Char)
  | 0, cs => some cs
  | n + 1, c :: rest => if isHex c then dropHex? n rest else none
  | _ + 1, [] => none

/-- Drops a dash if there is one. -/
def dropDash : List Char → List Char
  | '-' :: rest => rest
  | cs => cs

/-- Drops an identifier of 32 hexadecimal digits, with or without dashes between its groups. -/
def dropUuid? (cs : List Char) : Option (List Char) := do
  let cs ← dropHex? 8 cs
  let cs ← dropHex? 4 (dropDash cs)
  let cs ← dropHex? 4 (dropDash cs)
  let cs ← dropHex? 4 (dropDash cs)
  dropHex? 12 (dropDash cs)

/-- The ways in which a field may take the front of a path, the longest first: how many characters
are taken, and what is left. -/
def shares (kind : FieldKind) (cs : List Char) : List (Nat × List Char) :=
  match kind with
  | .segment => runs (· != '/') 0 [] cs
  | .anyPath => runs (· != '\n') 0 [(0, cs)] cs
  | .integer => runs isNumeral 0 [] cs
  | .decimal =>
    (runs isNumeral 0 [] cs).flatMap fun
      | (taken, '.' :: rest) => runs isNumeral (taken + 1) [(taken, '.' :: rest)] rest
      | whole => [whole]
  | .uuid => ((dropUuid? cs).map fun rest => (cs.length - rest.length, rest)).toList

/-- What one field took of a path. -/
structure Capture where
  kind : FieldKind
  length : Nat
  deriving Repr, DecidableEq, Inhabited

/-- Nothing left, or one final line break. -/
def atEnd (cs : List Char) : Bool := cs == [] || cs == ['\n']

/-- What the fields take in the first way to match, if there is one. -/
def match? : PathPattern → List Char → Option (List Capture)
  | [], cs => if atEnd cs then some [] else none
  | .literal _ :: _, [] | .anyCase _ :: _, [] => none
  | .literal c :: p, c' :: rest => if c' = c then match? p rest else none
  | .anyCase c :: p, c' :: rest => if Lowercase.alike c c' then match? p rest else none
  | .field _ kind :: p, cs =>
    (shares kind cs).findSome? fun share =>
      (match? p share.2).map ({ kind, length := share.1 } :: ·)

/-- The greatest number of digits that are read as a whole number. -/
def digitLimit : Nat := 4300

/-- The failure to read what an integer field took, if it took too many digits. -/
def unread? (captures : List Capture) : Option Fault :=
  (captures.find? fun c => c.kind = .integer ∧ digitLimit < c.length).map fun c =>
    .tooManyDigits c.length

/-- What the fields of a pattern take of a path, if it matches; the fields are then read. -/
def captures? (p : PathPattern) (path : String) : Except Fault (Option (List Capture)) :=
  match p.match? path.toList with
  | none => .ok none
  | some captures =>
    match unread? captures with
    | some e => .error e
    | none => .ok (some captures)

/-- Whether a path matches a pattern. -/
def accepts (p : PathPattern) (path : String) : Except Fault Bool :=
  (p.captures? path).map (·.isSome)

/-- How much of a path lies before what the last field took and the slash in front of that. -/
def beforeLast (path : String) (captures : List Capture) : Nat :=
  path.length - ((captures.getLast?.map (·.length)).getD 0 + 1)

/-! ## Parameters -/

/-- Reads what a field took; an identifier stays as it is written. -/
def readTaken (kind : FieldKind) (taken : List Char) : Value :=
  match kind with
  | .segment | .anyPath | .uuid => .text (String.ofList taken)
  | .integer => .int (WholeNumber.ofDigits taken)
  | .decimal =>
    let fraction := (taken.dropWhile (· != '.')).drop 1
    .decimal
      { negative := false, digits := WholeNumber.ofDigits (taken.filter (· != '.'))
        exponent := -fraction.length }

/-- Reads the fields of a pattern off a path, given how much each of them takes. -/
def readFields : PathPattern → List Capture → List Char → Mapping String Value
  | .field name kind :: p, c :: captures, cs =>
    (name, readTaken kind (cs.take c.length)) :: readFields p captures (cs.drop c.length)
  | .literal _ :: p, captures, cs | .anyCase _ :: p, captures, cs =>
    readFields p captures (cs.drop 1)
  | [], _, _ | .field .. :: _, [], _ => []

/-- The parameters in a path, which has none where it does not match. -/
def params (p : PathPattern) (path : String) : Mapping String Value :=
  ((p.match? path.toList).map fun captures => p.readFields captures path.toList).getD []

end PathPattern

end SpanLifecycle
