import SpanLifecycle.Route.Table
import SpanLifecycle.Text.Uppercase

/-!
# Drafts of routes

A table of routes is laid out from drafts, in which routes may be grouped under a stem that all
their paths get.  `RouteDraft.check` refuses a draft that cannot be declared at all.  Whether the
paths of a group still make patterns behind the stem is not asked when it is declared: such a group
is laid out as a route that is broken.  Only a group without a stem looks through the paths of the
groups in it, and is refused if one of them is broken.
-/

namespace SpanLifecycle

/-- A route as it is declared, or a group of such. -/
inductive RouteDraft (ε : Type) where
  | endpoint (framework : Framework) (path : String) (methods : List String) (body : ε)
  | mount (path : String) (framework : Framework) (routes : List (RouteDraft ε))
  | webSocket (path : String)
  | group (stem : String) (routes : List (RouteDraft ε))
  deriving Inhabited

/-- Why a draft is refused. -/
inductive DraftError where
  | pattern (e : PatternError)
  | pathWithoutSlash
  | stemWithoutSlash
  | stemWithLastSlash
  | noMethods
  /-- A group without a stem holds a route without a path. -/
  | noPath (name : String)
  /-- A group without a stem holds a group that is broken. -/
  | brokenGroup (e : Fault)
  deriving Repr, DecidableEq

/-- The exception that stands for a refusal. -/
def DraftError.fault : DraftError → Fault
  | pattern e => e.fault
  | pathWithoutSlash => { kind := .assertion, message := some "Routed paths must start with '/'" }
  | stemWithoutSlash => { kind := .assertion, message := some "A path prefix must start with '/'" }
  | stemWithLastSlash =>
    { kind := .assertion
      message := some
        "A path prefix must not end with '/', as the routes will start with '/'" }
  | noMethods => { kind := .assertion }
  | noPath name =>
    { kind := .badComposition
      message := some ("Prefix and path cannot be both empty (path operation: " ++ name ++ ")") }
  | brokenGroup e => e

namespace RouteDraft

variable {ε : Type}

/-! ## Paths and methods -/

/-- Removes the slashes at the end of a path. -/
def trimSlashes (path : String) : String :=
  String.ofList ((path.toList.reverse.dropWhile (· == '/')).reverse)

/-- The pattern of a path. -/
def pattern (path : String) : Except DraftError PathPattern :=
  (PathPattern.ofText path).mapError .pattern

/-- The pattern of a mount: behind its path, a slash and any text on one line. -/
def mountPattern (path : String) : Except DraftError PathPattern :=
  pattern (trimSlashes path ++ "/\x7bpath:path\x7d")

/-- Refuses a path that does not start with a slash. -/
def requireSlash (path : String) (e : DraftError) : Except DraftError Unit :=
  if path.toList.head? = some '/' then .ok () else .error e

/-- The methods that an endpoint answers to: in a plain application one that answers to `GET` does
so to `HEAD` too. -/
def methodsOf (framework : Framework) (methods : List String) : List String :=
  let methods := methods.map Uppercase.ofText
  match framework with
  | .documented => methods
  | .plain => if methods.contains "GET" then methods ++ ["HEAD"] else methods

/-! ## Laying out -/

mutual

/-- The routes that a draft makes behind a stem. -/
def lay (base : String) : RouteDraft ε → Except DraftError (List (Route ε))
  | endpoint framework path methods body => do
    return [.endpoint (base ++ path) (← pattern (base ++ path)) (methodsOf framework methods) body]
  | mount path framework routes => do
    let path := trimSlashes (base ++ path)
    return [.mount path (← mountPattern path) framework (← layAll "" routes)]
  | webSocket path => do
    return [.webSocket (base ++ path) (← pattern (base ++ path))]
  | group stem routes =>
    match layAll (base ++ stem) routes with
    | .ok routes => .ok routes
    | .error e => .ok [.broken e.fault]

/-- The routes that drafts make behind a stem. -/
def layAll (base : String) : List (RouteDraft ε) → Except DraftError (List (Route ε))
  | [] => .ok []
  | d :: rest => do
    let first ← lay base d
    return first ++ (← layAll base rest)

end

/-! ## Declaring -/

/-- The name that endpoints are declared under. -/
def endpointName : String := "ep"

/-- The name of a route that has no path, if it has none. -/
def nameWithoutPath? : RouteDraft ε → Option String
  | endpoint _ path _ _ => if path = "" then some endpointName else none
  | mount path _ _ => if trimSlashes path = "" then some "None" else none
  | webSocket _ | group .. => none

/-- Refuses a draft that does not fit into a group without a stem. -/
def checkWithoutStem (d : RouteDraft ε) : Except DraftError Unit :=
  match nameWithoutPath? d with
  | some name => .error (.noPath name)
  | none =>
    match d with
    | group .. => do
      match (← lay "" d).findSome? Route.brokenBy? with
      | some e => throw (.brokenGroup e)
      | none => pure ()
    | endpoint .. | mount .. | webSocket _ => .ok ()

/-- Refuses a stem that does not fit the routes of its group. -/
def checkStem (stem : String) (routes : List (RouteDraft ε)) : Except DraftError Unit := do
  if stem = "" then routes.forM checkWithoutStem
  else
    requireSlash stem .stemWithoutSlash
    if stem.toList.getLast? = some '/' then throw .stemWithLastSlash

mutual

/-- Refuses a draft that cannot be declared. -/
def check : RouteDraft ε → Except DraftError Unit
  | endpoint framework path methods _ =>
    match framework with
    | .plain => do
      requireSlash path .pathWithoutSlash
      discard (pattern path)
    | .documented => do
      discard (pattern path)
      if methods.isEmpty then throw .noMethods
  | mount path _ routes => do
    checkAll routes
    if path != "" then requireSlash path .pathWithoutSlash
    discard (mountPattern path)
  | webSocket path => do
    requireSlash path .pathWithoutSlash
    discard (pattern path)
  | group stem routes => do
    checkAll routes
    checkStem stem routes

/-- Refuses drafts of which one cannot be declared. -/
def checkAll : List (RouteDraft ε) → Except DraftError Unit
  | [] => .ok ()
  | d :: rest => do
    check d
    checkAll rest

end

/-! ## Tables -/

/-- The table of routes that drafts make. -/
def table (drafts : List (RouteDraft ε)) : Except Fault (List (Route ε)) :=
  (do checkAll drafts; layAll "" drafts : Except DraftError (List (Route ε))).mapError
    DraftError.fault

/-! ## Applications -/

/-- The routes that a documented application brings along; `page` is what runs there. -/
def documentation (page : ε) : List (RouteDraft ε) :=
  ["/openapi.json", "/docs", "/docs/oauth2-redirect", "/redoc"].map fun path =>
    endpoint .plain path ["GET"] page

/-- The routes of an application with routes of its own. -/
def application (framework : Framework) (page : ε) (own : List (RouteDraft ε)) :
    List (RouteDraft ε) :=
  match framework with
  | .plain => own
  | .documented => documentation page ++ own

/-- An application that is mounted at a path. -/
def mounted (path : String) (framework : Framework) (page : ε) (own : List (RouteDraft ε)) :
    RouteDraft ε :=
  mount path framework (application framework page own)

end RouteDraft

end SpanLifecycle
