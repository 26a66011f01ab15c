import SpanLifecycle.Service.Basic

/-!
# A session with a service

Requests reach a service one after another; in between, continuations are completed or abandoned
and routes are added.  A complete service logs when it starts up and shuts down; once it has shut
down, nothing is exported any more.
-/

namespace SpanLifecycle

/-- A request as it reaches a service, with the attributes it brings along. -/
structure HttpRequest where
  method : String := "GET"
  path : String
  query : String := ""
  headers : List (String × String) := []
  attributes : Attributes := []
  deriving Repr, Inhabited

/-- What comes of a request: the messages sent, the exception that left the service, and the
request's attributes in the end. -/
structure HttpReply where
  sent : List Message
  raised : Option Fault
  state : Mapping String AttributeView
  deriving Inhabited

/-- One step of a session. -/
inductive ServiceStep (ε : Type) where
  | request (r : HttpRequest)
  | socket (path : String) (attributes : Attributes)
  | complete (label : String) (status : Int) (failure : Option Fault)
  | abandonAsync (label : String)
  | addRoutes (routes : List (RouteDraft (Page ε)))
  /-- Runs steps between start-up and shut-down. -/
  | lifespan (steps : List (ServiceStep ε))
  deriving Inhabited

/-- What a step gives back. -/
inductive ServiceAnswer where
  | reply (r : HttpReply)
  | socket (sent : Except Fault (List SocketMessage)) (state : Mapping String AttributeView)
  | flag (b : Bool)
  | missing (kind : HandleKind)
  | raised (e : Fault)
  /-- Routes cannot be declared, which no session survives. -/
  | refused (e : Fault)
  | nothing
  | all (answers : List ServiceAnswer)
  deriving Inhabited

/-- The state between steps. -/
structure ServiceSession (ε : Type) where
  service : Service ε
  world : World
  /-- How many requests and web sockets have been served. -/
  served : Nat := 0

namespace ServiceAnswer

mutual

/-- The first refusal in an answer. -/
def refusal? : ServiceAnswer → Option Fault
  | refused e => some e
  | all answers => firstRefusal? answers
  | reply _ | socket .. | flag _ | missing _ | raised _ | nothing => none

/-- The first refusal in a list of answers. -/
def firstRefusal? : List ServiceAnswer → Option Fault
  | [] => none
  | a :: rest => a.refusal?.or (firstRefusal? rest)

end

end ServiceAnswer

namespace ServiceSession

variable {ε : Type}

/-- A session at its start, with a service put together from settings and routes. -/
def start (composition : Composition) (settings : Settings) (own : List (RouteDraft (Page ε)))
    (backend : Backend) : Except Fault (ServiceSession ε) := do
  let world ← Service.firstWorld settings backend
  let service ← Service.compose composition settings own
  return { service, world }

/-- The scope of a request. -/
def scopeOf (name : RequestName) (r : HttpRequest) : HttpScope :=
  { method := r.method, path := r.path, rawPath := r.path.toUTF8.toList, query := r.query
    headers := r.headers, request := name }

/-- Serves one request. -/
def serve (endpoints : ε → HttpApp) (t : ServiceSession ε) (r : HttpRequest) :
    HttpReply × ServiceSession ε :=
  let name := RequestName.numbered t.served
  let done := t.service.app endpoints (scopeOf name r) (t.world.setAttributes name r.attributes)
  ({ sent := done.sent, raised := done.raised
     state := done.world.viewAll (done.world.attributes name) },
    { t with world := done.world, served := t.served + 1 })

/-- Performs a call on a continuation, if there is one under the label. -/
def onContinuation (t : ServiceSession ε) (label : String) (call : Act Bool) :
    ServiceAnswer × ServiceSession ε :=
  if t.world.continuations.has label then
    match call.runIn t.world with
    | (.ok b, world) => (.flag b, { t with world })
    | (.error e, world) => (.raised e, { t with world })
  else (.missing .continuation, t)

/-- The name that a service logs under. -/
def logger : String := "webtrace.api.app"

/-- What a complete service does when it starts up. -/
def startUp (t : ServiceSession ε) : ServiceSession ε :=
  match t.service.composition with
  | .complete =>
    let s := t.service.settings
    { t with
      world := t.world.log logger
        { severity := .info, event := "startup"
          fields := [("env", .text s.env.name), ("exporter", .text s.exporter.name)] } }
  | .instrumented | .bare => t

/-- What a complete service does when it shuts down. -/
def shutDown (t : ServiceSession ε) : ServiceSession ε :=
  match t.service.composition with
  | .complete =>
    let w := { t.world with exporting := false }
    { t with world := w.log logger { severity := .info, event := "shutdown" } }
  | .instrumented | .bare => t

mutual

/-- Makes one step. -/
def step (endpoints : ε → HttpApp) (t : ServiceSession ε) :
    ServiceStep ε → ServiceAnswer × ServiceSession ε
  | .request r =>
    let (reply, t) := t.serve endpoints r
    (.reply reply, t)
  | .socket path attributes =>
    let name := RequestName.numbered t.served
    let w := t.world.setAttributes name attributes
    (.socket (Route.socketMessages t.service.routes path) (w.viewAll attributes),
      { t with world := w, served := t.served + 1 })
  | .complete label status failure =>
    t.onContinuation label (Continuation.complete label status failure)
  | .abandonAsync label => t.onContinuation label (Continuation.abandon label)
  | .addRoutes routes =>
    match t.service.addRoutes routes with
    | .ok service => (.nothing, { t with service })
    | .error e => (.refused e, t)
  | .lifespan steps =>
    let (answers, t) := run endpoints t.startUp steps
    (.all answers, t.shutDown)

/-- Makes steps in order. -/
def run (endpoints : ε → HttpApp) (t : ServiceSession ε) :
    List (ServiceStep ε) → List ServiceAnswer × ServiceSession ε
  | [] => ([], t)
  | s :: rest =>
    let (answer, t) := step endpoints t s
    let (answers, t) := run endpoints t rest
    (answer :: answers, t)

end

end ServiceSession

end SpanLifecycle
