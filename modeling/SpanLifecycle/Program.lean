import SpanLifecycle.Continuation

/-!
# Programs over traced requests

Everything that code can do with the tracing of requests, as data: an `Action` is one step, a
program is a list of them, and the chain of a handled exchange is again such a list.  `runActions`
performs a program by recursion on it; a raised exception ends the list it is raised in and passes
through every enclosing one, up to an `attempt` or a `handle` that keeps it.
-/

namespace SpanLifecycle

/-- The kinds of handle that an action may ask for in vain. -/
inductive HandleKind where
  | span
  | continuation
  | scope
  deriving Repr, DecidableEq, Inhabited

/-- One step of a program.  Spans go by number, requests, coordinators, continuations and scopes by
name. -/
inductive Action where
  /-- Handles an exchange with a program as its chain; what escapes is kept, or raised on. -/
  | handle (x : Exchange) (coordinator : String) (raiseOn : Bool) (chain : List Action)
  /-- Sets the status of the enclosing exchange. -/
  | status (code : Int)
  | raise (e : Fault)
  /-- Runs a program and keeps what it raises. -/
  | attempt (body : List Action)
  /-- A call on the bookkeeping of a request, by default the enclosing one. -/
  | store (request : Option RequestName) (call : StoreCall)
  | startAsync (label : String) (request : Option RequestName)
  | complete (label : String) (status : Int) (failure : Option Fault)
  | abandonAsync (label : String)
  | done (label : String)
  | start (headers : Headers) (name method path : String)
  | showSpan (id : SpanId)
  | activate (id : SpanId) (label : String)
  | close (label : String)
  | closed (label : String)
  /-- Runs a program while a span is current. -/
  | during (id : SpanId) (body : List Action)
  /-- Makes a span current without a handle to undo it. -/
  | attach (id : SpanId)
  | isCurrent (id : SpanId)
  | current
  | finalize (id : SpanId) (status : Int) (failure : Option Fault)
  | abandon (id : SpanId)
  | tag (id : SpanId) (key value : String)
  | hasErrorHandler (coordinator : String)
  | lookups (coordinator : String)
  | ownTracer
  | setFailures (f : Failures)
  deriving Inhabited

/-- What one step gives back. -/
inductive Answer where
  | nothing
  | flag (b : Bool)
  | number (n : Nat)
  | spanText (id : Option String)
  | span (s : Span)
  | attribute (a : Option AttributeView)
  | attributes (m : Mapping String AttributeView)
  | missing (kind : HandleKind)
  | attempted (results : List Answer) (caught : Option Fault)
  | during (results : List Answer) (closed : Bool)
  | handled (results : List Answer) (status : Int) (raised : Option Fault)
  deriving Inhabited

namespace World

/-- The reply of the bookkeeping as an answer. -/
def answerOf (w : World) : StoreReply → Answer
  | .nothing => .nothing
  | .flag b => .flag b
  | .attribute a => .attribute (a.map w.view)
  | .attributes m => .attributes (w.viewAll m)

/-- Performs one call on the bookkeeping of a request. -/
def store (w : World) (r : RequestName) (call : StoreCall) : Answer × World :=
  let w := w.openRequest r
  let (reply, m) := call.run (w.attributes r)
  (w.answerOf reply, w.setAttributes r m)

/-- The handle that an action needs and the world does not have. -/
def missing? (w : World) : Action → Option HandleKind
  | .showSpan id | .activate id _ | .during id _ | .attach id | .isCurrent id
  | .finalize id _ _ | .abandon id | .tag id _ _ | .store _ (.setActiveSpan (.span id))
  | .store _ (.setRaw _ (.span id)) =>
    if id < w.spans.length then none else some .span
  | .complete label _ _ | .abandonAsync label | .done label =>
    if w.continuations.has label then none else some .continuation
  | .close label | .closed label => if w.scopes.has label then none else some .scope
  | _ => none

end World

namespace Action

/-- The request that a store call or an asynchronous start is about. -/
def requestOr (enclosing : RequestName) (request : Option RequestName) : RequestName :=
  request.getD enclosing

/-- The steps without a program of their own, once their handles are known to exist. -/
def perform (enclosing : RequestName) : Action → Act Answer
  | .raise e => throw e
  | .store request call =>
    modifyGet fun w => w.store (requestOr enclosing request) call
  | .startAsync label request => do
    modify fun w => Continuation.start label (requestOr enclosing request)
      (w.openRequest (requestOr enclosing request))
    return .nothing
  | .complete label code failure => return .flag (← Continuation.complete label code failure)
  | .abandonAsync label => return .flag (← Continuation.abandon label)
  | .done label => return .flag (Continuation.isDone (← get) label)
  | .start headers name method path => do
    let id ← Tracer.start headers name method path
    return .span ((← get).span id)
  | .showSpan id => return .span ((← get).span id)
  | .activate id label => do
    modify fun w =>
      let (scope, w) := w.activate id
      { w with scopes := w.scopes.set label scope }
    return .nothing
  | .close label => do
    modify fun w =>
      match w.scopes.get? label with
      | none => w
      | some scope =>
        let w := w.close scope
        { w with scopes := w.scopes.set label { scope with closed := true } }
    return .flag true
  | .closed label => do
    return .flag ((((← get).scopes.get? label).map (·.closed)).getD false)
  | .attach id => do
    modify fun w => (w.activate id).2
    return .nothing
  | .isCurrent id => return .flag ((← get).isCurrent id)
  | .current => return .spanText ((← get).currentContext.map (·.spanText))
  | .finalize id code failure =>
    return .flag (← Tracer.finalize code (failure.map .fault) id)
  | .abandon id => return .flag (← Tracer.abandon id)
  | .tag id key value => do
    modify fun w => w.modifySpan id (·.tag key value)
    return .nothing
  | .hasErrorHandler c => return .flag (← Pass.hasErrorHandler c)
  | .lookups c => return .number ((← get).coordinator c).lookups
  | .ownTracer => return .flag true
  | .setFailures f => do
    modify fun w => { w with failures := f }
    return .nothing
  | .handle .. | .status _ | .attempt _ | .during .. => return .nothing

/-- A step that leaves the status of the enclosing exchange alone. -/
def performAt (enclosing : RequestName) (status : Int) (a : Action) (w : World) :
    ChainEnd Answer :=
  match (a.perform enclosing).runIn w with
  | (.ok answer, w) => { world := w, status, reply := answer }
  | (.error e, w) => { world := w, status, reply := .nothing, raised := some e }

end Action

mutual

/-- Performs one step inside an exchange: `enclosing` is its request, `status` its status so far. -/
def runAction (enclosing : RequestName) (status : Int) (a : Action) (w : World) :
    ChainEnd Answer :=
  match w.missing? a with
  | some kind => { world := w, status, reply := .missing kind }
  | none =>
    match a with
    | .handle x c raiseOn chain =>
      let done := x.handle c (fun w => runActions x.request x.status chain w) w
      { world := done.world
        status
        reply := .handled (done.reply.getD []) done.status done.raised
        raised := if raiseOn then done.raised else none }
    | .status code => { world := w, status := code, reply := .nothing }
    | .attempt body =>
      let done := runActions enclosing status body w
      { world := done.world, status := done.status, reply := .attempted done.reply done.raised }
    | .during id body =>
      let (scope, w) := w.activate id
      let done := runActions enclosing status body w
      { done with world := done.world.close scope, reply := .during done.reply true }
    | a => a.performAt enclosing status w

/-- Performs a program up to the first step that raises. -/
def runActions (enclosing : RequestName) (status : Int) (actions : List Action) (w : World) :
    ChainEnd (List Answer) :=
  match actions with
  | [] => { world := w, status, reply := [] }
  | a :: rest =>
    let step := runAction enclosing status a w
    match step.raised with
    | some _ => { step with reply := [] }
    | none =>
      let done := runActions enclosing step.status rest step.world
      { done with reply := step.reply :: done.reply }

end

/-- The request that calls are about outside any exchange. -/
def outerRequest : RequestName := .label "r"

/-- Performs one step outside any exchange. -/
def World.step (w : World) (a : Action) : ChainEnd Answer := runAction outerRequest 0 a w

end SpanLifecycle
