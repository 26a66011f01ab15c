import SpanLifecycle.Request.Attribute

/-!
# The bookkeeping of a request

The typed reading of a request's attributes: its active span, how far it has come, five flags and
a pending exception.  Any number of readers may hold the same mapping; all of them see one state.

`StoreCall` lists every operation as data and `StoreCall.run` performs one, so that a sequence of
calls is a list.
-/

namespace SpanLifecycle

namespace Attributes

variable (m : Attributes)

/-- The attribute under one of the known keys. -/
def at? (k : Key) : Option Attribute := m.get? k.name

/-- Stores under one of the known keys. -/
def put (k : Key) (a : Attribute) : Attributes := m.set k.name a

/-- Forgets one of the known keys. -/
def drop (k : Key) : Attributes := m.erase k.name

/-! ## Active span -/

def activeSpan : Option Attribute := m.at? .activeSpan

def setActiveSpan (a : Attribute) : Attributes := m.put .activeSpan a

def clearActiveSpan : Attributes := m.drop .activeSpan

/-! ## Request state -/

/-- The stored state, fresh when there is none.  A foreign value is handed back as it is. -/
def requestState : Attribute := (m.at? .requestState).getD (.state .fresh)

/-- Whether the request is in the given state; a foreign value is in no state. -/
def inState (s : RequestState) : Bool :=
  match m.requestState with
  | .state t => t = s
  | _ => false

/-- A foreign value counts as continued. -/
def isSpanContinued : Bool := !m.inState .fresh

def isErrorHandled : Bool := m.inState .errorHandled

/-- A request that is no longer fresh keeps its state: an error-handled one never goes back. -/
def markSpanContinued : Attributes :=
  if m.inState .fresh then m.put .requestState (.state .continued) else m

def markErrorHandled : Attributes := m.put .requestState (.state .errorHandled)

/-! ## Flags -/

/-- A flag is set when something that counts as set is stored under it. -/
def flag (k : Key) : Bool :=
  match m.at? k with
  | none => false
  | some a => a.truthy

def raiseFlag (k : Key) : Attributes := m.put k (.value (.bool true))

def shouldClose : Bool := m.flag .shouldClose
def isSpanWithoutParent : Bool := m.flag .spanWithoutParent
def isAlreadyFinalized : Bool := m.flag .alreadyFinalized
def isErrorSpanReported : Bool := m.flag .errorSpanReported
def isAsyncStarted : Bool := m.flag .asyncStarted

/-! ## Pending exception -/

def pendingException : Option Attribute := m.at? .pendingException

def setPendingException (a : Attribute) : Attributes := m.put .pendingException a

def takePendingException : Option Attribute × Attributes :=
  (m.pendingException, m.drop .pendingException)

end Attributes

/-- One call on the bookkeeping, or a foreign write to the mapping behind it. -/
inductive StoreCall where
  | getActiveSpan
  | setActiveSpan (a : Attribute)
  | clearActiveSpan
  | requestState
  | markSpanContinued
  | isSpanContinued
  | markErrorHandled
  | isErrorHandled
  | requestClose
  | shouldClose
  | markSpanWithoutParent
  | isSpanWithoutParent
  | markAlreadyFinalized
  | isAlreadyFinalized
  | markErrorSpanReported
  | isErrorSpanReported
  | startAsync
  | isAsyncStarted
  | setPendingException (a : Attribute)
  | peekPendingException
  | takePendingException
  | attributes
  | setRaw (key : String) (a : Attribute)
  | deleteRaw (key : String)
  deriving Repr, BEq

/-- What a call on the bookkeeping gives back. -/
inductive StoreReply where
  | nothing
  | flag (b : Bool)
  | attribute (a : Option Attribute)
  | attributes (m : Attributes)
  deriving Repr, BEq, Inhabited

/-- Performs one call. -/
def StoreCall.run (c : StoreCall) (m : Attributes) : StoreReply × Attributes :=
  match c with
  | getActiveSpan => (.attribute m.activeSpan, m)
  | setActiveSpan a => (.nothing, m.setActiveSpan a)
  | clearActiveSpan => (.nothing, m.clearActiveSpan)
  | requestState => (.attribute (some m.requestState), m)
  | markSpanContinued => (.nothing, m.markSpanContinued)
  | isSpanContinued => (.flag m.isSpanContinued, m)
  | markErrorHandled => (.nothing, m.markErrorHandled)
  | isErrorHandled => (.flag m.isErrorHandled, m)
  | requestClose => (.nothing, m.raiseFlag .shouldClose)
  | shouldClose => (.flag m.shouldClose, m)
  | markSpanWithoutParent => (.nothing, m.raiseFlag .spanWithoutParent)
  | isSpanWithoutParent => (.flag m.isSpanWithoutParent, m)
  | markAlreadyFinalized => (.nothing, m.raiseFlag .alreadyFinalized)
  | isAlreadyFinalized => (.flag m.isAlreadyFinalized, m)
  | markErrorSpanReported => (.nothing, m.raiseFlag .errorSpanReported)
  | isErrorSpanReported => (.flag m.isErrorSpanReported, m)
  | startAsync => (.nothing, m.raiseFlag .asyncStarted)
  | isAsyncStarted => (.flag m.isAsyncStarted, m)
  | setPendingException a => (.nothing, m.setPendingException a)
  | peekPendingException => (.attribute m.pendingException, m)
  | takePendingException => let (a, m) := m.takePendingException; (.attribute a, m)
  | attributes => (.attributes m, m)
  | setRaw key a => (.nothing, m.set key a)
  | deleteRaw key => (.nothing, m.erase key)

end SpanLifecycle
