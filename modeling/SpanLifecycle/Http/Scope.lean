import SpanLifecycle.Http.Message
import SpanLifecycle.Route.Table

/-!
# Applications

An application is a function on a request's scope and the world.  Layers are functions from
applications to applications: what a layer does to the scope is seen by the layers inside it, and
what they leave in the scope is seen by the layers outside.
-/

namespace SpanLifecycle

/-- What a scope carries under one of its further keys. -/
inductive ScopeItem where
  | value (v : Value)
  /-- An object of the program, under the name that it goes by; routes go by their paths. -/
  | object (name : String)
  deriving Repr, Inhabited

/-- What is known about a request while it is served. -/
structure HttpScope where
  method : String := "GET"
  path : String
  /-- The path as bytes. -/
  rawPath : List UInt8 := []
  query : String := ""
  headers : List (String × String) := []
  /-- The request whose attributes the scope carries. -/
  request : RequestName
  /-- The part of the path that mounts have taken off. -/
  root : String := ""
  /-- Which paths the innermost application has a route for. -/
  serves : String → Except Fault Bool := fun _ => .ok false
  /-- Which paths the outermost application has a route for, once a mount has taken its place. -/
  outermost : Option (String → Except Fault Bool) := none
  /-- How the innermost application words a refusal. -/
  wording : Framework := .documented
  /-- The coordinator of the passes over the request, if it is traced. -/
  coordinator : Option String := none
  /-- The failure that the request is about, in an error pass. -/
  error : Option ErrorPass := none
  /-- What the scope carries under any other key: what routing has found, and whatever the layers
  and the endpoints have put there. -/
  further : Mapping String ScopeItem := []
  deriving Inhabited

namespace HttpScope

/-- Which paths the outermost application has a route for. -/
def host (s : HttpScope) : String → Except Fault Bool := s.outermost.getD s.serves

/-- The keys that routing leaves what it has found under. -/
def routingKeys : List String := ["endpoint", "route", "path_params"]

/-- The parameters that were read from the path so far. -/
def params (s : HttpScope) : Mapping String Value :=
  match s.further.get? "path_params" with
  | some (.value (.object params)) => params
  | _ => []

end HttpScope

/-- How an application ended: the world and the scope it left, the messages it sent, and the
exception that escaped from it, if any. -/
structure HttpEnd where
  world : World
  scope : HttpScope
  sent : List Message := []
  raised : Option Fault := none

/-- An application, or a part of one. -/
abbrev HttpApp := HttpScope → World → HttpEnd

namespace HttpEnd

/-- The status of the response, if one was started. -/
def started? (e : HttpEnd) : Option Int := (Message.statuses e.sent).head?

/-- An ordinary exception that escaped before any response was started. -/
def failure? (e : HttpEnd) : Option Fault :=
  match e.raised, e.started? with
  | some f, none => if f.isOrdinary then some f else none
  | _, _ => none

end HttpEnd

namespace HttpApp

/-- Runs an application in a context of its own: what it makes current, and the log fields it adds,
last no longer than it does. -/
def isolated (inner : HttpApp) : HttpApp := fun s w =>
  let done := inner s w
  { done with
    world := { done.world with current := w.current, contextFields := w.contextFields } }

/-- Answers a failure that nothing inside has answered, and lets it pass. -/
def answeringFailures (inner : HttpApp) : HttpApp := fun s w =>
  let done := inner s w
  match done.failure? with
  | none => done
  | some _ =>
    { done with sent := done.sent ++ Message.response 500 (.text "Internal Server Error") }

end HttpApp

end SpanLifecycle
