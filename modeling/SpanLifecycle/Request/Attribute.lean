import SpanLifecycle.Value
import SpanLifecycle.Mapping
import SpanLifecycle.Fault

/-!
# Request attributes

The mapping that travels with a request and that every pass over it shares.  Foreign code may
put anything under any key; the eight keys of `Key` are the ones the tracing reads and writes,
and their spelling is a public contract.
-/

namespace SpanLifecycle

/-- How far a request has come: fresh, continued by a further pass, handled by an error pass. -/
inductive RequestState where
  | fresh
  | continued
  | errorHandled
  deriving Repr, DecidableEq, Inhabited

/-- The state as answers show it. -/
def RequestState.label : RequestState → String
  | fresh => "FRESH"
  | continued => "CONTINUED"
  | errorHandled => "ERROR_HANDLED"

/-- A number for a traced span: the place in the order in which spans were started. -/
abbrev SpanId := Nat

/-- What may stand in a request's attributes.  A text that merely spells a request state is a
plain value, not a state. -/
inductive Attribute where
  | value (v : Value)
  | span (id : SpanId)
  | fault (e : Fault)
  | state (s : RequestState)
  deriving Repr, BEq, Inhabited

/-- How an attribute reads as a flag: spans, exceptions and request states count as set. -/
def Attribute.truthy : Attribute → Bool
  | value v => v.truthy
  | _ => true

/-- The name of an attribute's kind, as logs and failed field accesses show it. -/
def Attribute.kindName : Attribute → String
  | value v => v.kindName
  | span _ => "TracedSpan"
  | fault e => e.kind.name
  | state _ => "RequestState"

/-- An explicit null counts as nothing. -/
def Attribute.present? : Option Attribute → Option Attribute
  | some (value .null) => none
  | a => a

/-- The attributes of one request. -/
abbrev Attributes := Mapping String Attribute

/-- The keys with a meaning for tracing. -/
inductive Key where
  | activeSpan
  | requestState
  | shouldClose
  | spanWithoutParent
  | pendingException
  | alreadyFinalized
  | errorSpanReported
  | asyncStarted
  deriving Repr, DecidableEq

/-- The spelling of a key. -/
def Key.name : Key → String
  | activeSpan => "webtrace.active-span"
  | requestState => "webtrace.request-state"
  | shouldClose => "webtrace.should-close-span"
  | spanWithoutParent => "webtrace.span-without-parent"
  | pendingException => "webtrace.pending-exception"
  | alreadyFinalized => "webtrace.already-finalized"
  | errorSpanReported => "webtrace.error-span-reported"
  | asyncStarted => "webtrace.async-started"

/-- Different keys are spelled differently. -/
theorem Key.name_injective (k k' : Key) (h : k.name = k'.name) : k = k' := by
  cases k <;> cases k' <;> first | rfl | exact absurd h (by decide)

end SpanLifecycle
