import SpanLifecycle.Request.Bookkeeping
import SpanLifecycle.Span.Basic
import SpanLifecycle.Log.Setup

/-!
# The world that requests are traced in

One value holds everything that passes over requests share: the spans started so far, the span
that is current, the attributes of every request, the coordinators with their cached lookups, the
continuations handed out, the log setup, and a journal of what happened, newest last.

`Act` is a computation on the world that may raise; what it did to the world before raising
stays done.
-/

namespace SpanLifecycle

/-- What names a request: a label that callers share, or a number of its own. -/
inductive RequestName where
  | label (s : String)
  | numbered (n : Nat)
  deriving Repr, DecidableEq, Inhabited

/-- The kind of backend that spans are started on: one that records and exports, or one that
does neither. -/
inductive Backend where
  | recording
  | silent
  deriving Repr, DecidableEq, Inhabited

/-- The operations of the tracer that can be made to fail. -/
inductive Verb where
  | create
  | finalize
  | abandon
  deriving Repr, DecidableEq, Inhabited

/-- What each operation raises before doing anything, if it fails. -/
structure Failures where
  create : Option Fault := none
  finalize : Option Fault := none
  abandon : Option Fault := none
  deriving Repr, Inhabited

/-- The exception that an operation is to raise. -/
def Failures.of? (f : Failures) : Verb → Option Fault
  | .create => f.create
  | .finalize => f.finalize
  | .abandon => f.abandon

/-- One call of the tracer and what came of it. -/
inductive TracerCall where
  | created (id : SpanId) (name : String)
  | finalized (id : SpanId) (status : Int) (cause : Option Attribute) (effective : Bool)
  | abandoned (id : SpanId) (effective : Bool)
  | failed (verb : Verb)
  deriving Repr, Inhabited

/-- One entry of the journal. -/
inductive Entry where
  | call (c : TracerCall)
  | log (r : LogRecord)
  | exported (s : ExportedSpan)
  deriving Repr, Inhabited

/-- What knows whether the application has an error handler. -/
structure Coordinator where
  /-- What spans are named after, before the path. -/
  stem : String := "http"
  /-- What the lookup for an error handler says, or raises, when it is asked. -/
  lookup : Except Fault Bool := .ok false
  /-- The answer once it is known, for good. -/
  known : Option Bool := none
  /-- How often the lookup was asked. -/
  lookups : Nat := 0
  deriving Repr, Inhabited

/-- A handle on the completion of a request that goes on after its chain has returned. -/
structure Continuation where
  request : RequestName
  done : Bool := false
  deriving Repr, Inhabited

/-- A handle that keeps a span current until it is closed. -/
structure Scope where
  /-- The span that was current just before, which closing restores. -/
  restores : Option SpanId
  closed : Bool := false
  deriving Repr, DecidableEq, Inhabited

/-- An attribute as it looks at one moment: of a span, its ids and state are seen. -/
inductive AttributeView where
  | value (v : Value)
  | span (context : SpanContext) (state : SpanState)
  | fault (e : Fault)
  | state (s : RequestState)
  deriving Repr, Inhabited

/-- Everything that passes over requests share. -/
structure World where
  backend : Backend := .recording
  /-- The exporter still takes spans. -/
  exporting : Bool := true
  failures : Failures := {}
  /-- All spans, in the order in which they were started. -/
  spans : List Span := []
  /-- The number of traces and of spans started on the recording backend. -/
  traceCount : Nat := 0
  spanCount : Nat := 0
  /-- The current span, if any. -/
  current : Option SpanId := none
  requests : Mapping RequestName Attributes := []
  coordinators : Mapping String Coordinator := []
  continuations : Mapping String Continuation := []
  scopes : Mapping String Scope := []
  logs : LogSetup := {}
  /-- Fields that the running context adds to every record. -/
  contextFields : LogRecord := []
  journal : List Entry := []
  deriving Repr, Inhabited

/-- A computation on the world that may raise. -/
abbrev Act := ExceptT Fault (StateM World)

namespace World

/-! ## Views of the journal -/

/-- The tracer's calls, oldest first. -/
def calls (w : World) : List TracerCall :=
  w.journal.filterMap fun | .call c => some c | _ => none

/-- The log records, oldest first. -/
def records (w : World) : List LogRecord :=
  w.journal.filterMap fun | .log r => some r | _ => none

/-- The exported spans, oldest first. -/
def exports (w : World) : List ExportedSpan :=
  w.journal.filterMap fun | .exported s => some s | _ => none

/-- Adds one entry. -/
def enter (w : World) (e : Entry) : World := { w with journal := w.journal ++ [e] }

/-! ## Spans -/

/-- The span of a number. -/
def span (w : World) (id : SpanId) : Span := w.spans.getD id default

/-- Changes one span. -/
def modifySpan (w : World) (id : SpanId) (f : Span → Span) : World :=
  { w with spans := w.spans.modify id f }

/-- How a span shows as the current one.  Spans without valid ids are all one: they are current
whenever no span is. -/
def anchor (w : World) (id : SpanId) : Option SpanId :=
  if (w.span id).context.isValid then some id else none

/-- Whether a span is the current one. -/
def isCurrent (w : World) (id : SpanId) : Bool := w.current = w.anchor id

/-- The ids of the current span. -/
def currentContext (w : World) : Option SpanContext := w.current.map fun id => (w.span id).context

/-- Makes a span current, until the scope is closed. -/
def activate (w : World) (id : SpanId) : Scope × World :=
  ({ restores := w.current }, { w with current := w.anchor id })

/-- Closes a scope: the first time, what was current just before it was opened is current again,
whatever has been activated or closed since. -/
def close (w : World) (s : Scope) : World :=
  if s.closed then w else { w with current := s.restores }

/-! ## Requests -/

/-- The attributes of a request. -/
def attributes (w : World) (r : RequestName) : Attributes := (w.requests.get? r).getD []

/-- Replaces the attributes of a request. -/
def setAttributes (w : World) (r : RequestName) (m : Attributes) : World :=
  { w with requests := w.requests.set r m }

/-- Changes the attributes of a request. -/
def modifyAttributes (w : World) (r : RequestName) (f : Attributes → Attributes) : World :=
  w.setAttributes r (f (w.attributes r))

/-- Makes a request known, with no attributes if it is new. -/
def openRequest (w : World) (r : RequestName) : World :=
  { w with requests := w.requests.setDefault r [] }

/-- An attribute as it looks at this moment. -/
def view (w : World) : Attribute → AttributeView
  | .value v => .value v
  | .span id => .span (w.span id).context (w.span id).state
  | .fault e => .fault e
  | .state s => .state s

/-- A request's attributes as they look at this moment. -/
def viewAll (w : World) (m : Attributes) : Mapping String AttributeView :=
  m.map fun entry => (entry.1, w.view entry.2)

/-! ## Coordinators -/

/-- The coordinator of a name. -/
def coordinator (w : World) (c : String) : Coordinator := (w.coordinators.get? c).getD {}

/-- Replaces a coordinator. -/
def setCoordinator (w : World) (c : String) (x : Coordinator) : World :=
  { w with coordinators := w.coordinators.set c x }

/-! ## Logs -/

/-- Writes an event for a service, if its severity is admitted. -/
def write (w : World) (logger service : String) (bound : LogRecord) (e : LogEvent) : World :=
  if w.logs.admits e.severity then
    w.enter (.log (e.record logger service bound w.contextFields w.currentContext))
  else w

/-- Logs an event under a logger's name, if the setup lets it through. -/
def log (w : World) (logger : String) (e : LogEvent) : World :=
  match w.logs.serviceOf? logger with
  | none => w
  | some service =>
    let w := { w with logs := w.logs.use logger }
    w.write logger service [] e

end World

namespace Act

/-- Raises an exception. -/
def raise {α : Type} (e : Fault) : Act α := throw e

/-- Runs a computation: what it returns or raises, and the world after. -/
def runIn {α : Type} (a : Act α) (w : World) : Except Fault α × World :=
  StateT.run (ExceptT.run a) w

end Act

end SpanLifecycle
