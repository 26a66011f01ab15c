import SpanLifecycle.Route.Pattern

/-!
# Route tables

What an application serves: endpoints for some methods of a path, whole applications mounted at a
path, and web sockets.  `hasRoute` asks whether a path is served at all, whatever the method; a
mount serves every path below it, and a web socket serves no plain request.

Routes are asked in order and only as far as needed, so that one that cannot be asked matters only
if no route before it serves the path.
-/

namespace SpanLifecycle

/-- The kinds of application that can be mounted; they differ in how they word an error, in the
routes they bring along, and in what they accept as a route. -/
inductive Framework where
  | plain
  | documented
  deriving Repr, DecidableEq, Inhabited

/-- One route; endpoints carry what runs there. -/
inductive Route (ε : Type) where
  /-- An endpoint without methods answers to any. -/
  | endpoint (path : String) (pattern : PathPattern) (methods : List String) (body : ε)
  | mount (path : String) (pattern : PathPattern) (framework : Framework)
      (routes : List (Route ε))
  | webSocket (path : String) (pattern : PathPattern)
  /-- A group whose paths make no patterns, which shows when it is asked. -/
  | broken (e : Fault)
  deriving Inhabited

namespace Route

variable {ε : Type}

/-- Where a mount takes off a path, if it serves it. -/
def mountPoint? (pattern : PathPattern) (path : String) : Except Fault (Option Nat) :=
  (pattern.captures? path).map fun captures? => captures?.map (PathPattern.beforeLast path)

/-- Whether a route serves a path for some method. -/
def serves (path : String) : Route ε → Except Fault Bool
  | endpoint _ pattern _ _ | mount _ pattern _ _ => pattern.accepts path
  | webSocket .. => .ok false
  | broken e => .error e

/-- What asking a route fails with, if it is broken. -/
def brokenBy? : Route ε → Option Fault
  | broken e => some e
  | endpoint .. | mount .. | webSocket .. => none

/-- Whether a route answers to a method on its paths. -/
def admits (method : String) : Route ε → Bool
  | endpoint _ _ methods _ => methods.isEmpty || methods.contains method
  | mount .. => true
  | webSocket .. | broken _ => false

end Route

/-- Whether any of the routes serves a path. -/
def hasRoute {ε : Type} : List (Route ε) → (path : String) → Except Fault Bool
  | [], _ => .ok false
  | r :: rest, path =>
    match r.serves path with
    | .error e => .error e
    | .ok true => .ok true
    | .ok false => hasRoute rest path

end SpanLifecycle
