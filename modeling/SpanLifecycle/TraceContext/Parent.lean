import SpanLifecycle.Text.Hex
import SpanLifecycle.TraceContext.State

/-!
# The trace parent

A request names the span it comes from in one header: a version, a trace id, a span id and
flags, in lower-case hexadecimal of fixed widths.  `SpanContext.ofHeaders?` is the whole rule by
which a parent is accepted; a request without an acceptable parent starts a trace of its own.
-/

namespace SpanLifecycle

/-- The ids and flags that identify a span across processes. -/
structure SpanContext where
  traceId : Nat
  spanId : Nat
  flags : Nat
  state : TraceState := []
  deriving Repr, DecidableEq, Inhabited

namespace SpanContext

/-- A context identifies a span when neither id is zero. -/
def isValid (c : SpanContext) : Bool := c.traceId != 0 && c.spanId != 0

/-- The context of no span. -/
def invalid : SpanContext := { traceId := 0, spanId := 0, flags := 0 }

/-- The lowest flag says that the span is sampled. -/
def isSampled (c : SpanContext) : Bool := c.flags % 2 == 1

/-- The trace id as 32 digits. -/
def traceText (c : SpanContext) : String := Hex.render 32 c.traceId

/-- The span id as 16 digits. -/
def spanText (c : SpanContext) : String := Hex.render 16 c.spanId

end SpanContext

namespace TraceParent

/-- Reads exactly `width` hexadecimal digits off the front. -/
def readHex? (width : Nat) (cs : List Char) : Option (Nat × List Char) :=
  let field := cs.take width
  if field.length = width then (Hex.read? field).map (·, cs.drop width) else none

/-- Reads one dash off the front. -/
def readDash? : List Char → Option (List Char)
  | '-' :: rest => some rest
  | _ => none

/-- Nothing left, or one final line break. -/
def atEnd (cs : List Char) : Bool := cs == [] || cs == ['\n']

/-- What may follow the flags: blanks, or a dash and more fields on the same line.  The answer
says whether there are more fields. -/
def readTail? (cs : List Char) : Option Bool :=
  match cs with
  | '-' :: rest => if atEnd (rest.dropWhile (· != '\n')) then some true else none
  | _ => if atEnd (cs.dropWhile TraceState.isBlank) then some false else none

/-- Reads a header value.  Zero ids, the reserved version and further fields in version zero are
refused. -/
def read? (header : String) : Option SpanContext := do
  if header.length > 512 then none
  let (version, cs) ← readHex? 2 (header.toList.dropWhile TraceState.isBlank)
  let (traceId, cs) ← readHex? 32 (← readDash? cs)
  let (spanId, cs) ← readHex? 16 (← readDash? cs)
  let (flags, cs) ← readHex? 2 (← readDash? cs)
  let more ← readTail? cs
  if traceId = 0 ∨ spanId = 0 then none
  if version = 0 ∧ more then none
  if version = 255 then none
  return { traceId, spanId, flags }

end TraceParent

/-- The headers of a request by name. -/
abbrev Headers := Mapping String String

/-- The parent that a request's headers name, with its trace state. -/
def SpanContext.ofHeaders? (headers : Headers) : Option SpanContext := do
  let parent ← TraceParent.read? (← headers.get? "traceparent")
  return { parent with state := ((headers.get? "tracestate").map TraceState.read).getD [] }

end SpanLifecycle
