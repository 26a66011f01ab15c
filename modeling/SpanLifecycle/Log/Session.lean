import SpanLifecycle.Tracer
import SpanLifecycle.Log.Call

/-!
# A logging session

Loggers are asked for by name and used, bound to fields, and bound again, while the setup, the
fields of the context and the current span change around them.

A logger writes for the service that is configured when it is first used, and keeps it; before any
configuration it writes nothing and keeps nothing.  Binding counts as a use, and what it makes is
decided for good: a logger bound before any configuration never writes.

A call may fail, and then nothing is written; the logger has been used all the same.
-/

namespace SpanLifecycle

/-- Where the records of a logger go. -/
inductive Outlet where
  /-- The first use decides. -/
  | undecided
  /-- To one service for good, or nowhere. -/
  | decided (service : Option String)
  deriving Repr, DecidableEq, Inhabited

/-- A logger: its name, the fields bound to it, and its outlet. -/
structure Logger where
  name : String
  bound : LogRecord := []
  outlet : Outlet := .undecided
  deriving Repr, Inhabited

/-- One step of a logging session; loggers go by label. -/
inductive LogStep where
  | configure (service level : String)
  | get (label name : String)
  /-- Makes a logger with further fields. -/
  | bind (logger label : String) (fields : LogRecord)
  /-- Adds fields to the context. -/
  | addContext (fields : LogRecord)
  | clearContext
  /-- Starts a span and makes it current. -/
  | openSpan (headers : Headers)
  /-- Closes the scope opened last. -/
  | closeSpan
  | log (logger : String) (call : LogCall)
  deriving Repr, Inhabited

/-- The state between steps. -/
structure LogSession where
  world : World := {}
  loggers : Mapping String Logger := []
  /-- The scopes still open, newest first. -/
  opened : List Scope := []
  deriving Repr, Inhabited

/-! ## Loggers -/

namespace Logger

/-- A logger of a name; the logger without a name is the root of all. -/
def named (name : String) : Logger := { name := if name = "" then "root" else name }

/-- The logger after a use under a setup that writes for a service, if any. -/
def used (l : Logger) (service : Option String) : Logger :=
  match l.outlet, service with
  | .undecided, some s => { l with outlet := .decided (some s) }
  | _, _ => l

/-- The service that a use writes for. -/
def service? (l : Logger) (service : Option String) : Option String :=
  match l.outlet with
  | .undecided => service
  | .decided s => s

/-- What binding fields fails with: a field must not go by the name of an argument. -/
def bindFault? (l : Logger) (fields : LogRecord) : Option Fault :=
  if (Mapping.get? fields "self").isNone then none
  else
    let owner := match l.outlet with
      | .undecided => "BoundLoggerLazyProxy"
      | .decided (some _) => "BoundLogger"
      | .decided none => "BoundLoggerBase"
    some (.repeatedArgument (owner ++ ".bind") "self")

/-- The logger that binding further fields makes. -/
def bind (l : Logger) (service : Option String) (fields : LogRecord) : Logger :=
  { l with bound := Mapping.update l.bound fields, outlet := .decided (l.service? service) }

end Logger

/-! ## Steps -/

namespace LogSession

/-- Calls a logger. -/
def log (t : LogSession) (label : String) (l : Logger) (c : LogCall) : Option Fault × LogSession :=
  let service := t.world.logs.service
  let t := { t with loggers := t.loggers.set label (l.used service) }
  match c.fault? (l.service? service) l.bound t.world.contextFields, l.service? service with
  | some e, _ => (some e, t)
  | none, none => (none, t)
  | none, some s => (none, { t with world := t.world.write l.name s l.bound c.toEvent })

/-- Starts a span and makes it current.  Where the tracer's record cannot be written, the span is
started and forgotten. -/
def openSpan (t : LogSession) (headers : Headers) : Option Fault × LogSession :=
  match (Tracer.start headers "span" "GET" "/").runIn t.world with
  | (.error e, world) => (some e, { t with world })
  | (.ok id, w) =>
    let service := t.world.logs.serviceOf? Tracer.logger
    match LogEvent.fieldFault? default service [] t.world.contextFields with
    | some e => (some e, { t with world := { w with journal := t.world.journal } })
    | none =>
      let (scope, world) := w.activate id
      (none, { t with world, opened := scope :: t.opened })

/-- Makes one step: what it raises, and the state after. -/
def step (t : LogSession) : LogStep → Option Fault × LogSession
  | .configure service level =>
    let (result, logs) := t.world.logs.configure service level
    (match result with | .ok _ => none | .error e => some e,
      { t with world := { t.world with logs } })
  | .get label name => (none, { t with loggers := t.loggers.set label (.named name) })
  | .bind logger label fields =>
    match t.loggers.get? logger with
    | none => (none, t)
    | some l =>
      match l.bindFault? fields with
      | some e => (some e, t)
      | none =>
        let service := t.world.logs.service
        let loggers := t.loggers.set logger (l.used service)
        (none, { t with loggers := Mapping.set loggers label (l.bind service fields) })
  | .addContext fields =>
    let contextFields := Mapping.update t.world.contextFields fields
    (none, { t with world := { t.world with contextFields } })
  | .clearContext => (none, { t with world := { t.world with contextFields := [] } })
  | .openSpan headers => t.openSpan headers
  | .closeSpan =>
    match t.opened with
    | [] => (none, t)
    | scope :: opened => (none, { t with world := t.world.close scope, opened })
  | .log logger call =>
    match t.loggers.get? logger with
    | none => (none, t)
    | some l => t.log logger l call

end LogSession

end SpanLifecycle
