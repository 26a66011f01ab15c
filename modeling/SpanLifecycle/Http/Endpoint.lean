import SpanLifecycle.Http.Refusal
import SpanLifecycle.Http.Address

/-!
# Endpoints

What runs at an endpoint, as data: a list of steps that gather a response.  The steps cover the
uses of the tracing that an endpoint can make, every way of answering, and every way of failing,
before the response is started or after.
-/

namespace SpanLifecycle

/-- One step of an endpoint. -/
inductive EndpointStep where
  /-- Sets the status of the response. -/
  | status (code : Int)
  | raise (e : Fault)
  | refuse (code : Int) (detail : Value)
  /-- A call on the bookkeeping of the request. -/
  | store (call : StoreCall)
  | startAsync (label : String)
  | complete (label : String) (status : Int) (failure : Option Fault)
  | abandonAsync (label : String)
  | current
  | errorPass
  | address
  | log (event : String)
  /-- Makes no span current, without a handle to undo it. -/
  | detach
  /-- Leaves work behind that fails after the response was sent. -/
  | background (e : Fault)
  /-- Answers with a stream, which may break off. -/
  | stream (chunks : List String) (failure : Option Fault)
  deriving Repr, Inhabited

/-- What an endpoint has gathered for its response. -/
structure Draft where
  status : Int := 200
  seen : List Seen := []
  background : Option Fault := none
  deriving Inhabited

/-- What an endpoint answers with. -/
inductive Reply where
  | whole (d : Draft)
  | stream (status : Int) (chunks : List String) (failure : Option Fault)
  | refusal (r : Refusal)
  deriving Inhabited

namespace Draft

/-- Adds something seen. -/
def see (d : Draft) (x : Seen) : Draft := { d with seen := d.seen ++ [x] }

end Draft

/-- The name that endpoints log under. -/
def endpointLogger : String := "app"

/-- The failure to start asynchronous work for a request that is not traced. -/
def Fault.notTraced : Fault :=
  { kind := .runtimeError
    message := some "TraceMiddleware is not installed on this application" }

namespace EndpointStep

/-- Performs a call on a continuation, if there is one under the label. -/
def onContinuation (label : String) (call : Act Bool) : Act Answer := do
  if (← get).continuations.has label then return .flag (← call) else return .missing .continuation

/-- The steps after which an endpoint goes on. -/
def perform (s : HttpScope) (d : Draft) : EndpointStep → Act Draft
  | .status code => return { d with status := code }
  | .store call => do
    let answer ← modifyGet fun w => w.store s.request call
    return d.see (.answer answer)
  | .startAsync label => do
    if s.coordinator.isNone then throw Fault.notTraced
    modify fun w => Continuation.start label s.request (w.openRequest s.request)
    return d
  | .complete label code failure => do
    let answer ← onContinuation label (Continuation.complete label code failure)
    return d.see (.answer answer)
  | .abandonAsync label => do
    let answer ← onContinuation label (Continuation.abandon label)
    return d.see (.answer answer)
  | .current => return d.see (.answer (.spanText ((← get).currentContext.map (·.spanText))))
  | .errorPass => return d.see (.errorPass s.error)
  | .address => return d.see (.address s.method (addressPath s.path))
  | .log event => do
    modify fun w => w.log endpointLogger { severity := .info, event }
    return d
  | .detach => do
    modify fun w => { w with current := none }
    return d
  | .background e => return { d with background := some e }
  | .raise e => throw e
  | .refuse .. | .stream .. => return d

/-- Performs steps until one answers, or none is left. -/
def run (s : HttpScope) (d : Draft) : List EndpointStep → Act Reply
  | [] => return .whole d
  | .refuse code detail :: _ => return .refusal (.ofCode code detail)
  | .stream chunks failure :: _ => return .stream d.status chunks failure
  | step :: rest => do run s (← step.perform s d) rest

end EndpointStep

/-- Sends what an endpoint answers with. -/
def Reply.send : Reply → HttpApp
  | .whole d => fun scope world =>
    if d.seen.all Seen.isBounded then
      { world, scope, sent := Message.response d.status (.seen d.seen), raised := d.background }
    else { world, scope, raised := some .notBounded }
  | .stream status chunks failure => fun scope world =>
    { world, scope, sent := .start status :: chunks.map fun c => .body (.text c)
      raised := failure }
  | .refusal r => r.respond

/-- An endpoint as an application. -/
def HttpApp.ofSteps (steps : List EndpointStep) : HttpApp := fun s w =>
  match (EndpointStep.run s {} steps).runIn w with
  | (.ok reply, w) => reply.send s w
  | (.error e, w) => { world := w, scope := s, raised := some e }

end SpanLifecycle
