import SpanLifecycle.Service.Page
import SpanLifecycle.Http.Traced
import SpanLifecycle.Http.Redispatch
import SpanLifecycle.Settings.Basic

/-!
# Services

A service is a table of routes behind layers.  Outermost, failures are answered; inside that, a
failed request is dispatched again to the error page; inside that, every request is traced.
Re-dispatching lies outside tracing, so a failed request passes through tracing a second time.
-/

namespace SpanLifecycle

/-- How a service is put together: with tracing and its own pages, with tracing alone, or without
either. -/
inductive Composition where
  | complete
  | instrumented
  | bare
  deriving Repr, DecidableEq, Inhabited

/-- A service; `ε` is what runs at the embedding program's endpoints. -/
structure Service (ε : Type) where
  composition : Composition := .complete
  settings : Settings := {}
  routes : List (Route (Page ε)) := []
  deriving Inhabited

/-- An application with tracing, and with its failures dispatched again inside the tracing. -/
def HttpApp.instrumented (c errorPath : String) (inner : HttpApp) : HttpApp :=
  (inner.traced c errorPath).redispatching errorPath

namespace Service

variable {ε : Type}

/-- The name of a service's coordinator. -/
def coordinatorName : String := "service"

/-- A service with the routes that it starts with, and then those given. -/
def compose (composition : Composition) (settings : Settings) (own : List (RouteDraft (Page ε))) :
    Except Fault (Service ε) :=
  let builtIn := match composition with
    | .complete => Page.builtIn ε settings.errorPath
    | .instrumented | .bare => []
  let drafts := RouteDraft.application .documented .documentation (builtIn ++ own)
  (RouteDraft.table drafts).map fun routes => { composition, settings, routes }

/-- A service with further routes. -/
def addRoutes (v : Service ε) (own : List (RouteDraft (Page ε))) : Except Fault (Service ε) :=
  (RouteDraft.table own).map fun routes => { v with routes := v.routes ++ routes }

/-- What lies inside the layers of a service. -/
def router (serve : ε → HttpApp) (v : Service ε) : HttpApp :=
  Route.dispatch (Page.app serve) v.routes

/-- The layers between the outermost and the router. -/
def layers (v : Service ε) (inner : HttpApp) : HttpApp :=
  match v.composition with
  | .bare => inner
  | .complete | .instrumented => inner.instrumented coordinatorName v.settings.errorPath

/-- A service as an application. -/
def app (serve : ε → HttpApp) (v : Service ε) : HttpApp := fun s w =>
  (v.layers (v.router serve)).answeringFailures.isolated
    { s with serves := hasRoute v.routes, wording := .documented } w

/-- The world that a service starts in: its logs set up, and its coordinator in place. -/
def firstWorld (settings : Settings) (backend : Backend) : Except Fault World :=
  let (result, logs) := ({} : LogSetup).configure settings.serviceName settings.logLevel
  result.map fun _ =>
    { backend, logs, coordinators := [(coordinatorName, { stem := settings.spanNameStem })] }

end Service

end SpanLifecycle
