import SpanLifecycle.Log.Record
import SpanLifecycle.Text.Template

/-!
# Log calls

A call on a logger: a method, an event, arguments in order, and fields by name.  A logger that
writes for a service keeps the arguments as a field of the record; one that writes for none fills
them into the event, which has to be a template for them.  A field must not go by the name of an
argument of the call itself.
-/

namespace SpanLifecycle

/-- The methods of a logger. -/
inductive LogMethod where
  | debug
  | info
  | warning
  | error
  | critical
  /-- An error that a running handler reports. -/
  | exception
  deriving Repr, DecidableEq, Inhabited

namespace LogMethod

/-- The name of a method. -/
def name : LogMethod → String
  | debug => "debug"
  | info => "info"
  | warning => "warning"
  | error => "error"
  | critical => "critical"
  | exception => "exception"

/-- How serious the events of a method are. -/
def severity : LogMethod → Severity
  | debug => .debug
  | info => .info
  | warning => .warning
  | error | exception => .error
  | critical => .critical

end LogMethod

/-- One call on a logger. -/
structure LogCall where
  method : LogMethod
  event : String
  arguments : List Value := []
  fields : LogRecord := []
  fault : Option Fault := none
  deriving Repr, Inhabited

namespace LogCall

/-- The event that a call makes; arguments, if there are any, become a field. -/
def toEvent (c : LogCall) : LogEvent :=
  { severity := c.method.severity
    event := c.event
    fields := if c.arguments.isEmpty then c.fields
      else Mapping.set c.fields "positional_args" (.list c.arguments)
    fault := c.fault }

/-- The first field that goes by one of some names. -/
def fieldNamed? (c : LogCall) (names : List String) : Option String :=
  (c.fields.find? fun field => names.contains field.1).map (·.1)

/-- A field that goes by the name of an argument, which makes the call fail in the callee. -/
def repeated? (c : LogCall) (callee : String) (names : List String) : Option Fault :=
  (c.fieldNamed? names).map (.repeatedArgument callee)

/-- The arguments that every method has. -/
def ownArguments : List String := ["self", "event"]

/-- What a call on a logger that writes for a service fails with. -/
def serviceFault? (c : LogCall) : Option Fault :=
  (c.repeated? ("BoundLogger." ++ c.method.name) ownArguments).or
    (c.repeated? "BoundLogger._proxy_to_logger" ["method_name"])

/-- The name that a method goes by on a logger that writes for no service. -/
def consoleMethodName : LogMethod → String
  | .exception => "exception"
  | _ => "_make_filtering_bound_logger.<locals>.make_method.<locals>.meth"

/-- What filling the arguments into the event fails with, if there are any. -/
def templateFault? (c : LogCall) : Option Fault :=
  if c.arguments.isEmpty then none
  else
    match Template.check c.event c.arguments with
    | .ok () => none
    | .error e => some e.fault

/-- What a call on a logger that writes for no service fails with. -/
def consoleFault? (c : LogCall) : Option Fault :=
  ((c.repeated? (consoleMethodName c.method) ownArguments).or c.templateFault?).or
    (c.repeated? "BoundLoggerBase._proxy_to_logger" ["method_name"])

/-- What a call fails with: in itself, or in the fields that are then written. -/
def fault? (c : LogCall) (service : Option String) (bound context : LogRecord) : Option Fault :=
  let own := match service with
    | some _ => c.serviceFault?
    | none => c.consoleFault?
  own.or (c.toEvent.fieldFault? service bound context)

end LogCall

end SpanLifecycle
