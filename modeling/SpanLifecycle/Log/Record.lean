import SpanLifecycle.Value
import SpanLifecycle.Mapping
import SpanLifecycle.Fault
import SpanLifecycle.TraceContext.Parent

/-!
# Log records

A record is an object.  An event's own fields win over fields bound to the logger, these over the
fields of the running context, and these over what every record gets: the service and the ids of
the current span.  Level and logger name are never overridden.
-/

namespace SpanLifecycle

/-- The fields of a log record. -/
abbrev LogRecord := Mapping String Value

/-- How serious an event is. -/
inductive Severity where
  | debug
  | info
  | warning
  | error
  | critical
  deriving Repr, DecidableEq, Inhabited

namespace Severity

/-- The level as records show it. -/
def label : Severity → String
  | debug => "debug"
  | info => "info"
  | warning => "warning"
  | error => "error"
  | critical => "critical"

/-- The number by which levels are compared. -/
def rank : Severity → Nat
  | debug => 10
  | info => 20
  | warning => 30
  | error => 40
  | critical => 50

end Severity

/-- What a piece of code says when it logs. -/
structure LogEvent where
  severity : Severity
  event : String
  fields : LogRecord := []
  fault : Option Fault := none
  deriving Repr, Inhabited

/-- An exception as a record shows it. -/
def Fault.toLogValue (e : Fault) : Value :=
  .object [("exc_type", .text e.kind.name), ("exc_value", .text e.text)]

/-- The ids of the current span, each filled in only where the record has none. -/
def LogRecord.withSpan (r : LogRecord) (current : Option SpanContext) : LogRecord :=
  match current with
  | none => r
  | some c =>
    ((r : Mapping String Value).setDefault "trace_id" (.text c.traceText)).setDefault "span_id"
      (.text c.spanText)

/-- The fields that an event brings along: `bound` holds the logger's own fields, `context` those of
the running context. -/
def LogEvent.merged (e : LogEvent) (bound context : LogRecord) : LogRecord :=
  let r : Mapping String Value := (bound.update e.fields).set "event" (.text e.event)
  context.foldl (fun (r : Mapping String Value) field => r.setDefault field.1 field.2) r

/-- The record of an event.  The time of a record is left out, and exceptions come from the event
alone. -/
def LogEvent.record (e : LogEvent) (logger service : String) (bound context : LogRecord)
    (current : Option SpanContext) : LogRecord :=
  let r : Mapping String Value := (e.merged bound context).set "level" (.text e.severity.label)
  let r : Mapping String Value := r.set "logger" (.text logger)
  let r : Mapping String Value := (r.erase "timestamp").setDefault "service" (.text service)
  let r : Mapping String Value := Mapping.erase (LogRecord.withSpan r current) "exc_info"
  match e.fault with
  | none => r
  | some f => r.set "exception" f.toLogValue

/-! ## Fields that cannot be written -/

namespace LogRecord

/-- The value of a field that is present and not null. -/
def present? (r : LogRecord) (field : String) : Option Value :=
  match Mapping.get? r field with
  | none | some .null => none
  | some v => some v

/-- What fails when fields are written for a service: an inner record is asked for a name. -/
def serviceFault? (r : LogRecord) : Option Fault :=
  (present? r "_record").map fun v => .noField v.kindName "name"

/-- A field that is appended to a line, and is no text. -/
def appendFault? (r : LogRecord) (field : String) : Option Fault :=
  match present? r field with
  | none | some (.text _) => none
  | some v => some (.notText v.kindName)

/-- What fails when fields are written to a console: a given stack and a given exception are
appended, unless they are made anew. -/
def consoleFault? (r : LogRecord) (fault : Option Fault) : Option Fault :=
  let isMadeAnew := ((present? r "stack_info").getD .null).truthy
  let stack := if isMadeAnew then none else appendFault? r "stack"
  stack.or (if fault.isSome then none else appendFault? r "exception")

end LogRecord

/-- What fails when an event is written, for a service or to a console. -/
def LogEvent.fieldFault? (e : LogEvent) (service : Option String) (bound context : LogRecord) :
    Option Fault :=
  let r := e.merged bound context
  match service with
  | some _ => LogRecord.serviceFault? r
  | none => LogRecord.consoleFault? r e.fault

end SpanLifecycle
