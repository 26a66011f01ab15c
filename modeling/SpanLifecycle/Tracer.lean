import SpanLifecycle.World

/-!
# The tracer

Starting, finalizing and abandoning spans.  The parent of a new span comes from the request's
headers alone.  A span is finalized at most once and an abandoned one can still be finalized: that
is the error pass taking over.  Only finalizing ends a span, and only an ended span is exported.
-/

namespace SpanLifecycle

namespace Tracer

/-- The name that the tracer logs under. -/
def logger : String := "webtrace.tracing.gateway"

/-- Raises the exception that an operation is to fail with, if there is one. -/
def failIfTold (v : Verb) : Act Unit := do
  match (← get).failures.of? v with
  | none => pure ()
  | some e =>
    modify fun w => w.enter (.call (.failed v))
    throw e

/-- The context of a new span on the recording backend: a root is sampled and starts a trace, a
child stays in its parent's trace and inherits sampling, the random-id flag and the state. -/
def newContext (w : World) (parent : Option SpanContext) : SpanContext :=
  match parent with
  | none => { traceId := w.traceCount + 1, spanId := w.spanCount + 1, flags := 1 }
  | some p => { p with spanId := w.spanCount + 1, flags := p.flags % 4 }

/-- A new span, with the world whose counters have moved.  The silent backend hands back the
parent's own context, or that of no span. -/
def newSpan (w : World) (parent : Option SpanContext) (name : String) : Span × World :=
  match w.backend with
  | .recording =>
    let context := newContext w parent
    ({ name, kind := .server, context, parent := parent.map (·.spanId)
       recording := context.isSampled },
      { w with
        spanCount := w.spanCount + 1
        traceCount := if parent.isNone then w.traceCount + 1 else w.traceCount })
  | .silent =>
    ({ name, kind := .server, context := parent.getD .invalid
       parent := parent.map (·.spanId) }, w)

/-- Starts the span of a request, tagged with its method and path. -/
def start (headers : Headers) (name method path : String) : Act SpanId := do
  failIfTold .create
  let w ← get
  let (span, w) := newSpan w (SpanContext.ofHeaders? headers) name
  let span := (span.tag httpMethod method).tag httpPath path
  let id := w.spans.length
  set { w with spans := w.spans ++ [span] }
  modify fun w => w.log logger
    { severity := .debug, event := "span_started"
      fields := [("trace_id", .text span.context.traceText),
        ("span_id", .text span.context.spanText),
        ("parent_span_id", .ofText? span.parentText?)] }
  modify fun w => w.enter (.call (.created id name))
  return id

/-- The ids of a span as log fields. -/
def idFields (s : Span) : LogRecord :=
  [("trace_id", .text s.context.traceText), ("span_id", .text s.context.spanText)]

/-- Reports a span and ends it.  The answer is false, and nothing but a warning happens, when it
was finalized before.  A cause that is no exception cannot be recorded. -/
def finalize (status : Int) (cause : Option Attribute) (id : SpanId) : Act Bool := do
  failIfTold .finalize
  let span := (← get).span id
  if span.state = .finalized then
    modify fun w => w.log logger
      { severity := .warning, event := "span_already_finalized", fields := idFields span }
    modify fun w => w.enter (.call (.finalized id status cause false))
    return false
  match cause with
  | none | some (.fault _) => pure ()
  | some a => if span.recording then throw (Fault.notAnException a.kindName)
  let reported := span.report status cause
  modify fun w => w.modifySpan id fun _ => reported.finish
  if span.recording && (← get).exporting then
    modify fun w => w.enter (.exported reported.toExported)
  modify fun w => w.log logger
    { severity := .debug, event := "span_finalized"
      fields := idFields span ++
        [("status_code", .int status), ("error", .ofText? (cause.map (·.kindName)))] }
  modify fun w => w.enter (.call (.finalized id status cause true))
  return true

/-- Drops a span without ending it, so that it is not exported.  The answer is false when the span
is no longer open. -/
def abandon (id : SpanId) : Act Bool := do
  failIfTold .abandon
  let span := (← get).span id
  if span.state = .opened then
    modify fun w => w.modifySpan id fun s => { s with state := .abandoned }
    modify fun w => w.log logger
      { severity := .debug, event := "span_abandoned", fields := idFields span }
    modify fun w => w.enter (.call (.abandoned id true))
    return true
  if span.state = .finalized then
    modify fun w => w.log logger
      { severity := .warning, event := "abandon_after_finalize", fields := idFields span }
  modify fun w => w.enter (.call (.abandoned id false))
  return false

end Tracer

end SpanLifecycle
