import SpanLifecycle.Tracer

/-!
# A pass over a request

A pass opens or continues the request's span, keeps it current while the rest of the application
(the *chain*) runs, and disposes of it afterwards.  A request that failed is passed over a second
time, with an unsuccessful status from the start: that is the error pass, and it closes the span.

The chain is a function on the world.  It may do anything, return or raise; `Exchange.handle`
runs it at most once, hands on what it raised, and restores the current span on every way out.
-/

namespace SpanLifecycle

/-- One request and response as a pass sees them; the status is 0 until a response has one. -/
structure Exchange where
  method : String
  path : String
  headers : Headers
  request : RequestName
  status : Int := 0
  deriving Repr, Inhabited

/-- How a chain ended: the world and the exchange's status it left, what it answers, and the
exception that escaped from it, if any. -/
structure ChainEnd (ρ : Type) where
  world : World
  status : Int
  reply : ρ
  raised : Option Fault := none

/-- The rest of the application, as a pass sees it. -/
abbrev Chain (ρ : Type) := World → ChainEnd ρ

namespace Pass

/-- The name that a pass logs under. -/
def logger : String := "webtrace.tracing.coordinator"

/-- Logs an event of a pass. -/
def log (e : LogEvent) (w : World) : World := w.log logger e

/-- Whether the application has an error handler.  The lookup is asked once; an answer is kept,
a failure is not. -/
def hasErrorHandler (c : String) : Act Bool := do
  let x := (← get).coordinator c
  match x.known with
  | some b => return b
  | none =>
    modify fun w => w.setCoordinator c { x with lookups := x.lookups + 1 }
    match x.lookup with
    | .error e => throw e
    | .ok b =>
      modify fun w => w.setCoordinator c { x with lookups := x.lookups + 1, known := some b }
      return b

/-- The snapshot at the end of a normal pass that the verdict on the span depends on. -/
def outcome (w : World) (r : RequestName) (status : Int) (id : SpanId) (failure : Option Fault)
    (handler : Bool) : Outcome :=
  let m := w.attributes r
  { status := status
    alreadyFinalized := m.isAlreadyFinalized
    errorHandled := m.isErrorHandled
    shouldClose := m.shouldClose
    hasErrorHandler := handler
    stillCurrent := w.isCurrent id
    rootSpan := (w.span id).isRoot
    spanWithoutParent := m.isSpanWithoutParent
    hasException := failure.isSome }

/-- Applies the verdict on a span. -/
def applyDecision (d : Decision) (r : RequestName) (status : Int) (id : SpanId)
    (failure : Option Fault) : Act Unit := do
  if d.tagStatus && ((← get).span id).state != .finalized then
    modify fun w => w.modifySpan id (·.tag httpStatusCode (toString status))
  if d.clearActiveSpan then
    modify fun w => w.modifyAttributes r (·.clearActiveSpan)
  match d.verdict with
  | .finalize =>
    if ← Tracer.finalize status (failure.map .fault) id then
      modify fun w => w.modifyAttributes r (·.raiseFlag .alreadyFinalized)
      if failure.isNone then
        modify fun w => w.modifyAttributes r fun m => m.takePendingException.2
  | .abandon => discard (Tracer.abandon id)
  | .defer => pure ()

/-- Reaches the verdict on a span and applies it. -/
def settle (c : String) (r : RequestName) (status : Int) (id : SpanId) (failure : Option Fault) :
    Act Unit := do
  let handler ← hasErrorHandler c
  let w ← get
  let d := (outcome w r status id failure handler).decide
  modify <| log
    { severity := .debug, event := "span_decision"
      fields := [("verdict", .text d.verdict.label), ("reason", .text d.reason.label),
        ("status_code", .int status)] ++ Tracer.idFields (w.span id) }
  applyDecision d r status id failure

/-- The end of a normal pass: a request that has gone asynchronous is left alone, any other span
gets its verdict. -/
def conclude (c : String) (r : RequestName) (status : Int) (id : Option SpanId)
    (failure : Option Fault) : Act Unit := do
  let w ← get
  if (w.attributes r).isAsyncStarted then
    modify <| log
      { severity := .debug, event := "span_left_for_async"
        fields := [("span", .text ((id.map fun id => (w.span id).describe).getD "None"))] }
  else
    match id with
    | none => pure ()
    | some id => settle c r status id failure

/-- The end of an error pass: the request counts as handled, and its span is finalized unless it
has gone asynchronous, the error handler reported it, or it was finalized before. -/
def concludeError (r : RequestName) (status : Int) (id : SpanId) : Act Unit := do
  modify fun w => w.modifyAttributes r (·.markErrorHandled)
  let w ← get
  let m := w.attributes r
  if m.isAsyncStarted then
    modify <| log
      { severity := .debug, event := "span_left_for_async", fields := Tracer.idFields (w.span id) }
  else if !(m.isErrorSpanReported || m.isAlreadyFinalized) then
    let pending := Attribute.present? m.pendingException
    modify fun w => w.modifyAttributes r fun m => m.takePendingException.2
    if ← Tracer.finalize status pending id then
      modify fun w => w.modifyAttributes r (·.raiseFlag .alreadyFinalized)

/-- An ordinary exception is logged and kept as the request's pending exception. -/
def noteFailure (x : Exchange) (raised : Option Fault) (w : World) : World :=
  match raised with
  | some e =>
    if e.isOrdinary then
      (log
        { severity := .error, event := "uncaught_exception"
          fields := [("path", .text x.path)], fault := some e } w).modifyAttributes x.request
        (·.setPendingException (.fault e))
    else w
  | none => w

/-- The failure of a request: an ordinary exception. -/
def failureOf (raised : Option Fault) : Option Fault := raised.filter (·.isOrdinary)

/-- Runs the last step of a pass: what it raises takes the place of what the chain raised. -/
def finishWith (last : Act Unit) (raised : Option Fault) (w : World) : Option Fault × World :=
  match last.runIn w with
  | (.ok _, w) => (raised, w)
  | (.error e, w) => (some e, w)

/-- Runs the chain under an open span, and concludes the pass. -/
def runNormal {ρ : Type} (c : String) (x : Exchange) (id : SpanId) (scope : Scope)
    (chain : Chain ρ) (w : World) : ChainEnd (Option ρ) :=
  let done := chain w
  let (raised, w) :=
    finishWith (conclude c x.request done.status (some id) (failureOf done.raised)) done.raised
      (noteFailure x done.raised done.world)
  { world := w.close scope, status := done.status, reply := some done.reply, raised }

/-- Runs the chain of an error pass, and finalizes the span the request came with. -/
def runError {ρ : Type} (x : Exchange) (id : SpanId) (scope : Scope) (chain : Chain ρ)
    (w : World) : ChainEnd (Option ρ) :=
  let done := chain w
  let (raised, w) :=
    finishWith (concludeError x.request done.status id) done.raised done.world
  { world := w.close scope, status := done.status, reply := some done.reply, raised }

/-- The span of a request that has none yet, stored as its active span. -/
def startSpan (stem : String) (x : Exchange) : Act SpanId := do
  let id ← Tracer.start x.headers (stem ++ ":" ++ x.path) x.method x.path
  modify fun w => w.modifyAttributes x.request (·.setActiveSpan (.span id))
  if ((← get).span id).isRoot then
    modify fun w => w.modifyAttributes x.request (·.raiseFlag .spanWithoutParent)
  return id

/-- Logs that a request has arrived. -/
def noteArrival (x : Exchange) (w : World) : World :=
  log
    { severity := .debug, event := "request_received"
      fields := [("path", .text x.path), ("method", .text x.method)] } w

/-- A pass over a request without an active span.  When no span can be started the chain does not
run. -/
def first {ρ : Type} (c : String) (x : Exchange) (chain : Chain ρ) (w : World) :
    ChainEnd (Option ρ) :=
  match (startSpan (w.coordinator c).stem x).runIn (noteArrival x w) with
  | (.ok id, w) =>
    let (scope, w) := w.activate id
    runNormal c x id scope chain w
  | (.error e, w) =>
    let (raised, w) :=
      finishWith (conclude c x.request x.status none (failureOf (some e))) (some e)
        (noteFailure x (some e) w)
    { world := w, status := x.status, reply := none, raised }

/-- A pass over a request that brings its span along: a further normal pass, or the error pass when
the status is unsuccessful from the start. -/
def continued {ρ : Type} (c : String) (x : Exchange) (id : SpanId) (chain : Chain ρ) (w : World) :
    ChainEnd (Option ρ) :=
  let w := w.modifyAttributes x.request (·.markSpanContinued)
  let w := log
    { severity := .debug, event := "span_continued", fields := Tracer.idFields (w.span id) } w
  let (scope, w) := w.activate id
  let w := noteArrival x w
  if isSuccessfulStatus x.status then
    let w := log
      { severity := .debug, event := "span_reused"
        fields := [("trace_id", .text (w.span id).context.traceText)] } w
    runNormal c x id scope chain w
  else
    let w := log
      { severity := .debug, event := "error_redispatch", fields := Tracer.idFields (w.span id) } w
    runError x id scope chain w

end Pass

/-- Handles one exchange.  Something that is no span under the active-span key cannot be continued:
the pass marks the request as continued and fails. -/
def Exchange.handle {ρ : Type} (x : Exchange) (c : String) (chain : Chain ρ) (w : World) :
    ChainEnd (Option ρ) :=
  let w := w.openRequest x.request
  match Attribute.present? (w.attributes x.request).activeSpan with
  | none => Pass.first c x chain w
  | some (.span id) => Pass.continued c x id chain w
  | some a =>
    { world := w.modifyAttributes x.request (·.markSpanContinued)
      status := x.status
      reply := none
      raised := some (Fault.noField a.kindName "trace_id") }

end SpanLifecycle
