import SpanLifecycle.Mapping

/-!
# The trace state

The list of vendor members that a request hands on beside its trace parent.  A header with one
bad member, a repeated key or too many members counts as no state at all.
-/

namespace SpanLifecycle

/-- Vendor members, in the order of the header. -/
abbrev TraceState := Mapping String String

namespace TraceState

/-- A lower-case letter. -/
def isLower (c : Char) : Bool := 'a' ≤ c && c ≤ 'z'

/-- A decimal digit. -/
def isNumeral (c : Char) : Bool := '0' ≤ c && c ≤ '9'

/-- A character that a key may go on with. -/
def isKeyChar (c : Char) : Bool :=
  isLower c || isNumeral c || c == '_' || c == '-' || c == '*' || c == '/'

/-- A character of a value: printable, neither comma nor equals sign. -/
def isValueChar (c : Char) : Bool :=
  0x20 ≤ c.toNat && c.toNat ≤ 0x7e && c != ',' && c != '='

/-- A name: a first character of the given kind, then at most `more` key characters. -/
def isName (first : Char → Bool) (more : Nat) : List Char → Bool
  | [] => false
  | c :: rest => first c && rest.length ≤ more && rest.all isKeyChar

/-- A key is a plain name, or a tenant and a vendor name joined by an at sign. -/
def isKey (cs : List Char) : Bool :=
  isName isLower 255 cs ||
    match cs.span (· != '@') with
    | (tenant, _ :: vendor) =>
      isName (fun c => isLower c || isNumeral c) 240 tenant && isName isLower 13 vendor
    | (_, []) => false

/-- A value is one to 256 value characters, the last of them no space. -/
def isValue (cs : List Char) : Bool :=
  cs.length ≤ 256 && cs.all isValueChar && cs.getLast?.any (· != ' ')

/-- Reads one member. -/
def readMember? (cs : List Char) : Option (String × String) :=
  match cs.span (· != '=') with
  | (key, _ :: value) =>
    if isKey key && isValue value then some (String.ofList key, String.ofList value) else none
  | (_, []) => none

/-- A space or a tab. -/
def isBlank (c : Char) : Bool := c == ' ' || c == '\t'

/-- Removes blanks at both ends. -/
def trim (cs : List Char) : List Char :=
  ((cs.dropWhile isBlank).reverse.dropWhile isBlank).reverse

/-- The non-empty members of a header between its commas. -/
def members (header : String) : List (List Char) :=
  ((header.toList.splitOn ',').map trim).filter (!·.isEmpty)

/-- The keys of a list of members are pairwise distinct. -/
def distinctKeys : List (String × String) → Bool
  | [] => true
  | (k, _) :: rest => !rest.any (·.1 == k) && distinctKeys rest

/-- Reads a header; what is not acceptable as a whole is empty. -/
def read (header : String) : TraceState :=
  if header.length > 8192 then []
  else
    match (members header).mapM readMember? with
    | none => []
    | some state => if state.length ≤ 32 && distinctKeys state then state else []

/-- Members as text, joined by commas. -/
def render (state : TraceState) : String :=
  ",".intercalate (state.map fun member => member.1 ++ "=" ++ member.2)

end TraceState

end SpanLifecycle
