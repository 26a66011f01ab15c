import SpanLifecycle.Pass

/-!
# Continuations

The handle by which a request that went on asynchronously is completed or abandoned later.  The
first call on a continuation takes the request's span; every later call, and a call that finds no
span, does nothing.
-/

namespace SpanLifecycle

namespace Continuation

/-- Marks a request as asynchronous and hands out a continuation under a label, which replaces an
older one of the same label. -/
def start (label : String) (r : RequestName) (w : World) : World :=
  let w := w.modifyAttributes r (·.raiseFlag .asyncStarted)
  { w with continuations := w.continuations.set label { request := r } }

/-- Whether the continuation of a label was used. -/
def isDone (w : World) (label : String) : Bool :=
  ((w.continuations.get? label).map (·.done)).getD false

/-- Takes the request's active span and forgets its pending exception, once. -/
def takeSpan (label : String) : Act (Option (RequestName × Attribute)) := do
  match (← get).continuations.get? label with
  | none => return none
  | some k =>
    if k.done then
      modify <| Pass.log { severity := .warning, event := "async_continuation_already_done" }
      return none
    modify fun w => { w with continuations := w.continuations.set label { k with done := true } }
    match Attribute.present? ((← get).attributes k.request).activeSpan with
    | none =>
      modify <| Pass.log { severity := .warning, event := "async_continuation_without_span" }
      return none
    | some a =>
      modify fun w => w.modifyAttributes k.request fun m =>
        Attributes.drop (Attributes.clearActiveSpan m) .pendingException
      return some (k.request, a)

/-- Finalizes the span taken.  A span that started without a parent carries the status of a
response that nothing was raised for. -/
def complete (label : String) (status : Int) (failure : Option Fault) : Act Bool := do
  match ← takeSpan label with
  | none => return false
  | some (r, a) =>
    let tagged := failure.isNone && ((← get).attributes r).isSpanWithoutParent && 100 ≤ status
    match a with
    | .span id =>
      if tagged then
        modify fun w => w.modifySpan id (·.tag httpStatusCode (toString status))
      let finalized ← Tracer.finalize status (failure.map .fault) id
      if finalized then
        modify fun w => w.modifyAttributes r (·.raiseFlag .alreadyFinalized)
      return finalized
    | a =>
      if tagged then throw (Fault.noField a.kindName "tag")
      Tracer.failIfTold .finalize
      throw (Fault.noField a.kindName "state")

/-- Abandons the span taken. -/
def abandon (label : String) : Act Bool := do
  match ← takeSpan label with
  | none => return false
  | some (_, .span id) => Tracer.abandon id
  | some (_, a) =>
    Tracer.failIfTold .abandon
    throw (Fault.noField a.kindName "state")

end Continuation

end SpanLifecycle
