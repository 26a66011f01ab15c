import SpanLifecycle.Settings.Basic

/-!
# What settings say about telemetry

The resource that spans are exported for, and the processors they pass through.
-/

namespace SpanLifecycle

/-- The version of the service. -/
def serviceVersion : String := "0.1.0"

/-- What is said about the service with every export. -/
structure TelemetryResource where
  serviceName : String
  serviceVersion : String
  deployment : Deployment
  deriving Repr, DecidableEq, Inhabited

/-- What ended spans pass through: batches written to the console. -/
inductive SpanProcessor where
  | consoleBatches
  deriving Repr, DecidableEq, Inhabited

namespace Settings

/-- The name of a service that has none: that it is unknown, and what it runs on. -/
def anonymousService : String := "unknown_service:python3"

/-- The resource of a service; a service without a name gets a stand-in. -/
def resource (s : Settings) : TelemetryResource :=
  { serviceName := if s.serviceName = "" then anonymousService else s.serviceName
    serviceVersion, deployment := s.env }

/-- The processors that the exporter setting asks for. -/
def processors (s : Settings) : List SpanProcessor :=
  match s.exporter with
  | .none => []
  | .console => [.consoleBatches]

end Settings

end SpanLifecycle
