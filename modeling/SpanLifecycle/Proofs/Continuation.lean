import SpanLifecycle.Proofs.Act
import SpanLifecycle.Proofs.Frame
import SpanLifecycle.Continuation

/-!
# Taking a request's span by a continuation

`takeSpan` goes one of four ways, each with its own equation: there is no such continuation, it was
used before, its request has no span, or the span is taken.
-/

namespace SpanLifecycle

namespace Continuation

variable {label : String} {k : Continuation} {w : World}

/-- The world in which a continuation counts as used. -/
def spent (label : String) (k : Continuation) (w : World) : World :=
  { w with continuations := w.continuations.set label { k with done := true } }

/-- The attributes of a request whose span was taken. -/
def taken (m : Attributes) : Attributes :=
  Attributes.drop (Attributes.clearActiveSpan m) .pendingException

@[simp] theorem taken_activeSpan (m : Attributes) : (taken m).activeSpan = none := by
  unfold taken
  simp

@[simp] theorem taken_isAsyncStarted (m : Attributes) :
    (taken m).isAsyncStarted = m.isAsyncStarted := by
  unfold taken
  simp

/-- What is logged about a continuation that was used before. -/
def doneEvent : LogEvent :=
  { severity := .warning, event := "async_continuation_already_done" }

/-- What is logged about a continuation that finds no span. -/
def bareEvent : LogEvent :=
  { severity := .warning, event := "async_continuation_without_span" }

theorem takeSpan_missing (h : w.continuations.get? label = none) :
    (takeSpan label).runIn w = (.ok none, w) := by
  unfold takeSpan
  simp [h]

theorem takeSpan_done (h : w.continuations.get? label = some k) (hk : k.done = true) :
    (takeSpan label).runIn w = (.ok none, Pass.log doneEvent w) := by
  unfold takeSpan
  simp [h, hk]
  rfl

theorem takeSpan_bare (h : w.continuations.get? label = some k) (hk : k.done = false)
    (ha : Attribute.present? (w.attributes k.request).activeSpan = none) :
    (takeSpan label).runIn w = (.ok none, Pass.log bareEvent (spent label k w)) := by
  have ha' : Attribute.present? ((spent label k w).attributes k.request).activeSpan = none := ha
  unfold spent at ha'
  unfold takeSpan
  simp only [Act.runIn_bind, Act.runIn_get, h, hk, Bool.false_eq_true, if_false,
    Act.runIn_modify, ha', Act.runIn_pure]
  rfl

theorem takeSpan_taken {a : Attribute} (h : w.continuations.get? label = some k)
    (hk : k.done = false)
    (ha : Attribute.present? (w.attributes k.request).activeSpan = some a) :
    (takeSpan label).runIn w =
      (.ok (some (k.request, a)), (spent label k w).modifyAttributes k.request taken) := by
  have ha' : Attribute.present? ((spent label k w).attributes k.request).activeSpan = some a := ha
  unfold spent at ha'
  unfold takeSpan
  simp only [Act.runIn_bind, Act.runIn_get, h, hk, Bool.false_eq_true, if_false,
    Act.runIn_modify, ha', Act.runIn_pure]
  rfl

end Continuation

end SpanLifecycle
