import SpanLifecycle.Service.Session
import SpanLifecycle.Settings.Read
import SpanLifecycle.Settings.Telemetry

/-!
# Launching a service

What is needed to run the complete service from an environment: where to listen, what the service
is called, and a session at its start.
-/

namespace SpanLifecycle

/-- Why a service cannot be launched. -/
inductive LaunchError where
  | settings (e : SettingsFailure)
  | fault (e : Fault)
  deriving Repr, Inhabited

/-- The kind of an error and its text. -/
def LaunchError.report : LaunchError → String × String
  | settings e => e.report
  | fault e => (e.kind.name, e.text)

/-- A service that is ready to run. -/
structure Launch (ε : Type) where
  apiHost : String
  apiPort : Int
  title : String := "webtrace"
  version : String := serviceVersion
  session : ServiceSession ε

namespace Launch

variable {ε : Type}

/-- Opens a session with a service put together from settings and routes. -/
def openSession (composition : Composition) (backend : Backend) (environment : Environment)
    (keywords : Keywords) (own : List (RouteDraft (Page ε))) :
    Except LaunchError (ServiceSession ε) :=
  match Settings.read environment keywords with
  | .error e => .error (.settings e)
  | .ok settings =>
    (ServiceSession.start composition settings own backend).mapError .fault

/-- Launches the complete service from an environment. -/
def ofEnvironment (environment : Environment) : Except LaunchError (Launch ε) :=
  (openSession .complete .recording environment [] []).map fun session =>
    { apiHost := session.service.settings.apiHost
      apiPort := session.service.settings.apiPort, session }

end Launch

end SpanLifecycle
