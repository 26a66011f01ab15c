import SpanLifecycle.Decimal.Nearest
import SpanLifecycle.Program

/-!
# Messages of a response

A response is what an application sends: a start that carries the status, then pieces of a body.
An endpoint that reports what it saw sends a list of `Seen` as its body.
-/

namespace SpanLifecycle

/-- What an error pass is told about the failure it is for: a status, and where known the exception
and the path of the request that failed. -/
structure ErrorPass where
  status : Int
  fault : Option Fault := none
  failedPath : Option String := none
  deriving Repr, DecidableEq, Inhabited

/-- One thing that an endpoint saw. -/
inductive Seen where
  | answer (a : Answer)
  | errorPass (e : Option ErrorPass)
  | address (method path : String)
  deriving Inhabited

/-- Whether what an endpoint saw can be written: an attribute has to be bounded. -/
def Seen.isBounded : Seen → Bool
  | answer (.attribute (some (.value v))) => v.isBounded
  | answer (.attributes seen) => seen.all fun
    | (_, .value v) => v.isBounded
    | _ => true
  | answer _ | errorPass _ | address .. => true

/-- A piece of a response body. -/
inductive Body where
  | text (s : String)
  | value (v : Value)
  | seen (items : List Seen)
  deriving Inhabited

/-- One message of a response. -/
inductive Message where
  | start (status : Int)
  | body (b : Body)
  deriving Inhabited

namespace Message

/-- The status that a message starts a response with. -/
def started? : Message → Option Int
  | start status => some status
  | body _ => none

/-- The statuses that responses were started with. -/
def statuses (sent : List Message) : List Int := sent.filterMap started?

/-- The pieces of body sent. -/
def bodies (sent : List Message) : List Body :=
  sent.filterMap fun | start _ => none | body b => some b

/-- A whole response of one piece. -/
def response (status : Int) (b : Body) : List Message := [start status, body b]

end Message

end SpanLifecycle
