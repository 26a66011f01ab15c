import SpanLifecycle.Pass
import SpanLifecycle.Http.Scope
import SpanLifecycle.Http.Address

/-!
# Tracing an application

The layer that makes a pass out of every request: it builds the exchange, binds the request's path
and method to the log context, and hands the rest of the application to the pass as its chain.

The chain returns as soon as a response is started.  A failure before that is the chain's; a later
one is no concern of the pass and escapes with the messages sent so far.
-/

namespace SpanLifecycle

/-- What performs a pass over an exchange. -/
abbrev PassHandler :=
  (x : Exchange) → (coordinator : String) → Chain HttpEnd → World → ChainEnd (Option HttpEnd)

namespace PassHandler

/-- The pass of the tracing itself. -/
def tracing : PassHandler := Exchange.handle

/-- A pass that does nothing, and does not run the chain either. -/
def idle : PassHandler := fun x _ _ w => { world := w, status := x.status, reply := none }

end PassHandler

namespace Fault

/-- The failure of an application that sent nothing. -/
def noResponse : Fault := { kind := .runtimeError, message := some "No response returned." }

/-- The failure of a pass that ended well and has no response. -/
def passWithoutResponse : Fault :=
  { kind := .runtimeError, message := some "downstream app returned no response" }

end Fault

namespace HttpScope

/-- The exchange of a request: of a repeated header the first one counts, and an error pass has its
status from the start. -/
def exchange (s : HttpScope) : Exchange :=
  { method := s.method
    path := addressPath s.path
    headers := Mapping.ofPairs s.headers
    request := s.request
    status := (s.error.map (·.status)).getD 0 }

end HttpScope

namespace HttpApp

/-- An application as the chain of a pass. -/
def chain (inner : HttpApp) (s : HttpScope) (status : Int) : Chain HttpEnd := fun w =>
  let done := inner.isolated s w
  match done.started? with
  | some status => { world := done.world, status, reply := done }
  | none =>
    { world := done.world, status, reply := done, raised := some (done.raised.getD .noResponse) }

/-- Makes the outermost application known to the coordinator: whether there is an error handler is
whether that application has a route for the error path, as far as that can be said.  A mount that
has left itself in the scope of a failed serving does not matter. -/
def appoint (c : String) (errorPath : String) (s : HttpScope) (w : World) : World :=
  w.setCoordinator c { w.coordinator c with lookup := s.host errorPath }

/-- An application every request of which is passed over by a handler. -/
def tracedBy (handler : PassHandler) (c : String) (errorPath : String) (inner : HttpApp) :
    HttpApp := fun s w =>
  let s := { s with coordinator := some c }
  let x := s.exchange
  let w := (appoint c errorPath s w).openRequest s.request
  let fields := Mapping.update w.contextFields [("path", .text x.path), ("method", .text x.method)]
  let done := handler x c (inner.chain s x.status) { w with contextFields := fields }
  let scope := (done.reply.map (·.scope)).getD s
  let world := { done.world with contextFields := w.contextFields }
  match done.raised, done.reply with
  | some e, _ => { world, scope, raised := some e }
  | none, none => { world, scope, raised := some .passWithoutResponse }
  | none, some reply => { reply with world }

/-- An application every request of which is traced. -/
def traced (c : String) (errorPath : String) (inner : HttpApp) : HttpApp :=
  tracedBy .tracing c errorPath inner

end HttpApp

end SpanLifecycle
