import SpanLifecycle.Http.Refusal
import SpanLifecycle.Route.Draft

/-!
# Routing

The first route that fits path and method answers.  If there is none, a route for other methods of
the path makes the request refused; a path that would fit some route with its last slash added or
removed is redirected there; and any other path is not found.

A mount takes its part off the path and answers as an application of its own: it routes by its own
table, words refusals its own way, and answers its own failures.

The route that is found is noted in the scope, with the parameters that its pattern reads from the
path.  A route that cannot be asked fails the request, unless one before it answers.
-/

namespace SpanLifecycle

/-- How well a route fits a request. -/
inductive Fit where
  | full
  /-- The path fits, the method does not. -/
  | otherMethod
  | none
  deriving Repr, DecidableEq, Inhabited

/-- The kinds of message on a web socket. -/
inductive SocketMessage where
  | accept
  | send
  | close
  deriving Repr, DecidableEq, Inhabited

namespace HttpScope

/-- What is left of a path after a root, if the root ends where a segment does. -/
def pathBelow (root path : String) : String :=
  if root.toList.isPrefixOf path.toList then
    match path.toList.drop root.length with
    | [] => if root = "" then path else ""
    | '/' :: rest => String.ofList ('/' :: rest)
    | _ => path
  else path

/-- The path that the innermost application routes by. -/
def routePath (s : HttpScope) : String := pathBelow s.root s.path

/-- The scope inside a mounted application, whose mount takes off `taken` characters. -/
def enter {ε : Type} (s : HttpScope) (taken : Nat) (wording : Framework)
    (routes : List (Route ε)) : HttpScope :=
  { s with
    root := s.root ++ String.ofList (s.routePath.toList.take taken)
    serves := hasRoute routes
    outermost := some s.host
    wording }

/-- The path with its last slash removed, all of them if there are several, or one added. -/
def toggled (s : HttpScope) : HttpScope :=
  { s with
    path := if s.routePath.toList.getLast? = some '/' then RouteDraft.trimSlashes s.path
      else s.path ++ "/" }

end HttpScope

namespace Route

variable {ε : Type}

/-- What is noted in the scope about the route that was found for a request.  The parameter that
stands for the path below a mount is not. -/
def findings (s : HttpScope) : Route ε → Mapping String ScopeItem
  | endpoint path pattern .. =>
    [("endpoint", .object path), ("route", .object path),
      ("path_params", .value (.object (s.params.update (pattern.params s.routePath))))]
  | mount path pattern .. =>
    let params := Mapping.erase (pattern.params s.routePath) "path"
    [("endpoint", .object path), ("path_params", .value (.object (s.params.update params)))]
  | webSocket .. | broken _ => []

/-- The scope of a request that a route was found for. -/
def found (s : HttpScope) (r : Route ε) : HttpScope :=
  { s with further := s.further.update (r.findings s) }

/-- How well a route fits a request. -/
def fit (s : HttpScope) (r : Route ε) : Except Fault Fit :=
  match r.serves s.routePath with
  | .error e => .error e
  | .ok false => .ok .none
  | .ok true => .ok (if r.admits s.method then .full else .otherMethod)

/-- Whether a route fits the path of a request and not its method. -/
def isForOtherMethod (s : HttpScope) (r : Route ε) : Bool :=
  match r.fit s with
  | .ok .otherMethod => true
  | _ => false

/-- Fails a request. -/
def failing (e : Fault) : HttpApp := fun s w => { world := w, scope := s, raised := some e }

/-- Answers a request that no route fits in full. -/
def answerUnrouted (routes : List (Route ε)) : HttpApp := fun s w =>
  match routes.find? (isForOtherMethod s) with
  | some r => Refusal.methodNotAllowed.respond (r.found s) w
  | none =>
    if s.routePath = "/" then Refusal.notFound.respond s w
    else
      match hasRoute routes s.toggled.routePath with
      | .error e => failing e s w
      | .ok true => { world := w, scope := s, sent := Message.response 307 (.text "") }
      | .ok false => Refusal.notFound.respond s w

mutual

/-- Answers a request that a route fits in full; `serve` says what endpoints do. -/
def answer (serve : ε → HttpApp) : Route ε → HttpApp
  | endpoint path pattern methods body => fun s w =>
    serve body ((endpoint path pattern methods body).found s) w
  | mount path pattern wording routes => fun s w =>
    match mountPoint? pattern s.routePath with
    | .error e => failing e s w
    | .ok none => Refusal.notFound.respond s w
    | .ok (some taken) =>
      HttpApp.answeringFailures (fun s w =>
        match answerFirst serve routes s w with
        | some done => done
        | none => answerUnrouted routes s w)
        (((mount path pattern wording routes).found s).enter taken wording routes) w
  | webSocket .. => Refusal.notFound.respond
  | broken e => failing e

/-- Answers a request with the first route that fits it in full. -/
def answerFirst (serve : ε → HttpApp) : List (Route ε) → HttpScope → World → Option HttpEnd
  | [], _, _ => none
  | r :: rest, s, w =>
    match r.fit s with
    | .error e => some (failing e s w)
    | .ok .full => some (r.answer serve s w)
    | .ok .otherMethod | .ok .none => answerFirst serve rest s w

end

/-- The application that a table of routes makes. -/
def dispatch (serve : ε → HttpApp) (routes : List (Route ε)) : HttpApp := fun s w =>
  match answerFirst serve routes s w with
  | some done => done
  | none => answerUnrouted routes s w

/-! ## Web sockets -/

mutual

/-- Whether a route takes a web socket, if the path is its own.  A mount answers for every path
below it. -/
def socket? (root path : String) : Route ε → Except Fault (Option Bool)
  | endpoint .. => .ok none
  | mount _ pattern _ routes => do
    let below := HttpScope.pathBelow root path
    match ← mountPoint? pattern below with
    | none => return none
    | some taken =>
      let inner := root ++ String.ofList (below.toList.take taken)
      return some ((← firstSocket? inner path routes).getD false)
  | webSocket _ pattern => do
    if ← pattern.accepts (HttpScope.pathBelow root path) then return some true else return none
  | broken e => .error e

/-- What the first route says that the path belongs to. -/
def firstSocket? (root path : String) : List (Route ε) → Except Fault (Option Bool)
  | [] => .ok none
  | r :: rest => do
    match ← r.socket? root path with
    | some b => return some b
    | none => firstSocket? root path rest

end

/-- What is sent over a web socket at a path: one that no route takes is closed at once. -/
def socketMessages (routes : List (Route ε)) (path : String) : Except Fault (List SocketMessage) :=
  (firstSocket? "" path routes).map fun taken? =>
    if taken?.getD false then [.accept, .send, .close] else [.close]

end Route

end SpanLifecycle
