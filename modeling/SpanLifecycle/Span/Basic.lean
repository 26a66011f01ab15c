import SpanLifecycle.Fault
import SpanLifecycle.Verdict
import SpanLifecycle.Request.Attribute
import SpanLifecycle.Span.Attributes
import SpanLifecycle.TraceContext.Parent

/-!
# Traced spans

The handle that tracing keeps for one request span, together with what the backend has recorded
of it.  A span is open, abandoned or finalized; `finalized` is final.  The backend forgets what
is set on a span after its end, the handle's tags go on changing.
-/

namespace SpanLifecycle

/-- Where a span stands in its life. -/
inductive SpanState where
  | opened
  | abandoned
  | finalized
  deriving Repr, DecidableEq, Inhabited

/-- The state as answers show it. -/
def SpanState.label : SpanState → String
  | opened => "OPEN"
  | abandoned => "ABANDONED"
  | finalized => "FINALIZED"

/-- What a span is about: work inside the process, or answering a request. -/
inductive SpanKind where
  | internal
  | server
  deriving Repr, DecidableEq, Inhabited

/-- The kind as exporters show it. -/
def SpanKind.label : SpanKind → String
  | internal => "INTERNAL"
  | server => "SERVER"

/-- The status that a span is exported with. -/
inductive SpanStatus where
  | unset
  | error (description : Option String)
  deriving Repr, DecidableEq, Inhabited

/-- The tags that tracing writes on a span. -/
def httpMethod : String := "http.method"
def httpPath : String := "http.path"
def httpStatusCode : String := "http.status_code"

/-- One traced span. -/
structure Span where
  name : String
  kind : SpanKind := .internal
  context : SpanContext
  /-- The parent's span id; a span without one is a root. -/
  parent : Option Nat := none
  tags : Mapping String String := []
  state : SpanState := .opened
  /-- Whether the backend still takes what is set on the span. -/
  recording : Bool := false
  attributes : SpanAttributes := []
  status : SpanStatus := .unset
  /-- The exceptions recorded on the span. -/
  events : List Fault := []
  deriving Repr, Inhabited

/-- A span as an exporter receives it. -/
structure ExportedSpan where
  name : String
  kind : SpanKind
  context : SpanContext
  parent : Option Nat
  attributes : SpanAttributes
  status : SpanStatus
  events : List Fault
  deriving Repr, Inhabited

namespace Span

/-- A root span has no parent in its trace. -/
def isRoot (s : Span) : Bool := s.parent.isNone

/-- The parent's span id as 16 digits. -/
def parentText? (s : Span) : Option String := s.parent.map (Hex.render 16)

/-- A one-line description of the span. -/
def describe (s : Span) : String :=
  "TracedSpan(trace_id=" ++ s.context.traceText ++ ", span_id=" ++ s.context.spanText ++
    ", state=" ++ s.state.label ++ ")"

/-- Sets a tag, and the attribute of the same name while the span records. -/
def tag (s : Span) (key value : String) : Span :=
  { s with
    tags := s.tags.set key value
    attributes := if s.recording then s.attributes.record key value else s.attributes }

/-- Records an exception and its class as the span's status. -/
def recordFault (s : Span) (e : Fault) : Span :=
  if s.recording then
    { s with events := s.events ++ [e], status := .error (some e.kind.name) }
  else s

/-- Marks the span as failed, for no named reason. -/
def markFailed (s : Span) : Span :=
  if s.recording then { s with status := .error none } else s

/-- What a finalization writes on the span before it ends: the exception, and the status of an
unsuccessful response, of which 500 and above count as failures of their own. -/
def report (s : Span) (status : Int) (cause : Option Attribute) : Span :=
  let s := match cause with
    | some (.fault e) => s.recordFault e
    | _ => s
  if status ≠ 0 ∧ ¬isSuccessfulStatus status then
    let s := s.tag httpStatusCode (toString status)
    if cause.isNone ∧ 500 ≤ status then s.markFailed else s
  else s

/-- The record that an exporter receives when the span ends. -/
def toExported (s : Span) : ExportedSpan :=
  { name := s.name, kind := s.kind, context := s.context, parent := s.parent
    attributes := s.attributes, status := s.status, events := s.events }

/-- Ends the span for good. -/
def finish (s : Span) : Span := { s with recording := false, state := .finalized }

end Span

end SpanLifecycle
