import SpanLifecycle.Http.Scope
import SpanLifecycle.Text.Latin1

/-!
# Re-dispatching a failure

A request that failed before any response was started is served once more, on the path of the
application's error page, if the application has one.  Both servings share the request's
attributes.  The second serving is marked as an error pass, and one that is marked is never
followed by another.
-/

namespace SpanLifecycle

namespace HttpScope

/-- The scope of the error pass after a failure: another path, no query, and nothing of what routing
has found; all else is as the failed serving left it. -/
def toErrorPass (s : HttpScope) (path : String) (rawPath : List UInt8) (e : Fault) : HttpScope :=
  { s with
    path, rawPath
    query := ""
    further := s.further.filter (·.1 ∉ routingKeys)
    error := some { status := 500, fault := some e, failedPath := some s.path } }

end HttpScope

namespace HttpApp

/-- The name that re-dispatching logs under. -/
def redispatchLogger : String := "webtrace.observability.error_dispatch"

/-- What is logged about a re-dispatch. -/
def redispatchEvent (s : HttpScope) (errorPath : String) (e : Fault) : LogEvent :=
  { severity := .info, event := "error_redispatch"
    fields := [("path", .text s.path), ("error_path", .text errorPath),
      ("error", .text e.kind.name)] }

/-- Serves a request once more on the error page, after a serving that failed.  An error path that
cannot be written as bytes fails in place of the request. -/
def again (errorPath : String) (inner : HttpApp) (done : HttpEnd) (e : Fault) : HttpEnd :=
  let w := done.world.log redispatchLogger (redispatchEvent done.scope errorPath e)
  match Latin1.encode errorPath with
  | .error e => { done with world := w, raised := some e }
  | .ok rawPath =>
    let last := inner (done.scope.toErrorPass errorPath rawPath e) w
    { last with scope := done.scope, sent := done.sent ++ last.sent }

/-- An application whose failures are served again on its error page.  Where it cannot be said
whether there is one, that failure takes the place of the request's. -/
def redispatching (errorPath : String) (inner : HttpApp) : HttpApp := fun s w =>
  if s.error.isSome then inner s w
  else
    let done := inner s (w.openRequest s.request)
    match done.failure? with
    | none => done
    | some e =>
      match done.scope.serves errorPath with
      | .error e => { done with raised := some e }
      | .ok false => done
      | .ok true => again errorPath inner done e

end HttpApp

end SpanLifecycle
