import SpanLifecycle.Http.Endpoint
import SpanLifecycle.Http.Router

/-!
# Pages

What runs at the endpoints of a service: its documentation, its health page, its error page, and
whatever the embedding program adds.

The error page describes the failure that the request is about: the status of the error pass, the
class of the request's pending exception, and the path of the request that failed.  Asked for
directly it answers all the same, with status 500.
-/

namespace SpanLifecycle

/-- What runs at an endpoint of a service. -/
inductive Page (ε : Type) where
  | documentation
  | health
  | errors
  | own (e : ε)
  deriving Inhabited

namespace Page

/-- The health page. -/
def healthApp : HttpApp := fun scope world =>
  { world, scope, sent := Message.response 200 (.value (.object [("status", .text "ok")])) }

/-- What the error page says about a request with the given attributes. -/
def errorBody (s : HttpScope) (m : Attributes) : Value :=
  let pending := Attribute.present? m.pendingException
  .object
    [("status", .int ((s.error.map (·.status)).getD 500)),
      ("error", .text ((pending.map (·.kindName)).getD "Internal Server Error")),
      ("path", .text ((s.error.bind (·.failedPath)).getD (addressPath s.path)))]

/-- The error page. -/
def errorApp : HttpApp := fun scope world =>
  let world := world.openRequest scope.request
  let status := (scope.error.map (·.status)).getD 500
  { world, scope
    sent := Message.response status (.value (errorBody scope (world.attributes scope.request))) }

/-- A page as an application; `serve` says what the embedding program's pages do. -/
def app {ε : Type} (serve : ε → HttpApp) : Page ε → HttpApp
  | documentation => fun scope world => { world, scope, sent := Message.response 200 (.text "") }
  | health => healthApp
  | errors => errorApp
  | own e => serve e

/-- The methods that the error page answers. -/
def errorMethods : List String := ["GET", "HEAD", "POST", "PUT", "PATCH", "DELETE", "OPTIONS"]

/-- The routes that a service starts with, before those of the embedding program. -/
def builtIn (ε : Type) (errorPath : String) : List (RouteDraft (Page ε)) :=
  [.endpoint .documented "/healthz" ["GET"] .health,
    .endpoint .documented errorPath errorMethods .errors]

end Page

end SpanLifecycle
