import SpanLifecycle.Proofs.Dispatch
import SpanLifecycle.Proofs.Frame

/-!
# Applications that keep out of the tracing

An orderly application answers or fails, and all that tracing keeps about requests is afterwards as
it was before.  A layer outside it may ask the scope what the application serves, so a failure that
no response was started for must leave that in the scope too.

A table of routes is orderly if its endpoints are (`dispatch_isOrderly`): a mount changes what the
scope serves, but it answers its own failures.
-/

namespace SpanLifecycle

/-- From one world to another nothing has changed that tracing keeps: what is current may have, and
the log. -/
structure World.Spares (w w' : World) : Prop where
  backend : w'.backend = w.backend
  exporting : w'.exporting = w.exporting
  failures : w'.failures = w.failures
  spans : w'.spans = w.spans
  attributes : ∀ r, w'.attributes r = w.attributes r
  coordinators : w'.coordinators = w.coordinators
  calls : w'.calls = w.calls
  exports : w'.exports = w.exports

theorem World.Spares.refl (w : World) : w.Spares w :=
  ⟨rfl, rfl, rfl, rfl, fun _ => rfl, rfl, rfl, rfl⟩

theorem World.Spares.openRequest (w : World) (r : RequestName) : w.Spares (w.openRequest r) :=
  ⟨rfl, rfl, rfl, rfl, fun q => w.attributes_openRequest r q, rfl, rfl, rfl⟩

namespace HttpEnd

/-- A serving has answered or failed, and has left the tracing alone. -/
structure IsOrderly (s : HttpScope) (w : World) (done : HttpEnd) : Prop where
  spares : w.Spares done.world
  request : done.scope.request = s.request
  answered : done.started? = none → done.raised.isSome = true
  serves : done.failure?.isSome = true → done.scope.serves = s.serves

variable {s s' : HttpScope} {w : World} {done : HttpEnd}

/-- Only the request of a scope matters, and what it serves. -/
theorem IsOrderly.of_scope (h : done.IsOrderly s' w) (hr : s'.request = s.request)
    (hs : s'.serves = s.serves) : done.IsOrderly s w where
  spares := h.spares
  request := h.request.trans hr
  answered := h.answered
  serves hf := (h.serves hf).trans hs

theorem response_isOrderly (s : HttpScope) (h : w.Spares done.world) (hs : done.scope = s)
    {status : Int} {b : Body} (hd : done.sent = Message.response status b) :
    done.IsOrderly s w := by
  have hstarted : done.started? = some status := by
    unfold started?
    rw [hd]
    rfl
  refine ⟨h, by rw [hs], ?_, fun _ => by rw [hs]⟩
  intro hn
  rw [hstarted] at hn
  cases hn

end HttpEnd

namespace HttpApp

/-- An application every serving of which is orderly. -/
def IsOrderly (app : HttpApp) : Prop := ∀ s w, (app s w).IsOrderly s w

/-- Failures are answered by messages only. -/
theorem answeringFailures_same (inner : HttpApp) (s : HttpScope) (w : World) :
    (inner.answeringFailures s w).world = (inner s w).world ∧
      (inner.answeringFailures s w).scope = (inner s w).scope := by
  unfold answeringFailures
  dsimp only
  split
  · exact ⟨rfl, rfl⟩
  · exact ⟨rfl, rfl⟩

/-- An application that answers its own failures may change what the scope serves. -/
theorem answeringFailures_isOrderly {inner : HttpApp} {s s' : HttpScope} {w : World}
    (h : (inner s' w).IsOrderly s' w) (hr : s'.request = s.request) :
    (inner.answeringFailures s' w).IsOrderly s w := by
  unfold answeringFailures
  dsimp only
  cases hf : (inner s' w).failure? with
  | none =>
    refine ⟨h.spares, h.request.trans hr, h.answered, ?_⟩
    intro hs
    rw [hf] at hs
    cases hs
  | some e =>
    have hstarted : (inner s' w).started? = none := by
      unfold HttpEnd.failure? at hf
      split at hf
      · assumption
      · cases hf
    have hanswer : HttpEnd.started?
        { inner s' w with
          sent := (inner s' w).sent ++ Message.response 500 (.text "Internal Server Error") } =
        some 500 := by
      unfold HttpEnd.started? Message.statuses at hstarted ⊢
      rw [List.filterMap_append, List.head?_append, hstarted]
      rfl
    refine ⟨h.spares, h.request.trans hr, ?_, ?_⟩
    · intro hn
      rw [hanswer] at hn
      cases hn
    · intro hs
      unfold HttpEnd.failure? at hs
      rw [hanswer] at hs
      split at hs
      · next heq => cases heq
      · cases hs

theorem isolated_isOrderly {inner : HttpApp} (h : inner.IsOrderly) : inner.isolated.IsOrderly := by
  intro s w
  obtain ⟨hspares, hrequest, hanswered, hserves⟩ := h s w
  exact ⟨⟨hspares.backend, hspares.exporting, hspares.failures, hspares.spans, hspares.attributes,
    hspares.coordinators, hspares.calls, hspares.exports⟩, hrequest, hanswered, hserves⟩

end HttpApp

theorem Refusal.respond_isOrderly (r : Refusal) : r.respond.IsOrderly := by
  intro s w
  unfold respond
  split
  · exact HttpEnd.response_isOrderly s (World.Spares.refl w) rfl rfl
  · exact ⟨World.Spares.refl w, rfl, fun _ => rfl, fun _ => rfl⟩

namespace Route

variable {ε : Type}

theorem failing_isOrderly (e : Fault) : (failing e).IsOrderly := by
  intro s w
  exact ⟨World.Spares.refl w, rfl, fun _ => rfl, fun _ => rfl⟩

/-! ## Tables of routes -/

theorem isOrderly_inherits : Inherits ε fun s w done => done.IsOrderly s w where
  failing e := failing_isOrderly e
  refusing r := r.respond_isOrderly
  answering s w _ _ := HttpEnd.response_isOrderly s (World.Spares.refl w) rfl rfl
  found _ _ _ _ h := h.of_scope rfl rfl
  mounted _ _ _ _ _ _ h := HttpApp.answeringFailures_isOrderly h rfl

theorem dispatch_isOrderly {serve : ε → HttpApp} (hs : ∀ body, (serve body).IsOrderly)
    (routes : List (Route ε)) : (dispatch serve routes).IsOrderly :=
  dispatch_inherits isOrderly_inherits hs routes

end Route

/-! ## Services -/

theorem Page.app_isOrderly {ε : Type} {serve : ε → HttpApp} (hs : ∀ e, (serve e).IsOrderly) :
    ∀ page : Page ε, (page.app serve).IsOrderly := by
  intro page s w
  cases page with
  | documentation => exact HttpEnd.response_isOrderly s (World.Spares.refl w) rfl rfl
  | health => exact HttpEnd.response_isOrderly s (World.Spares.refl w) rfl rfl
  | errors => exact HttpEnd.response_isOrderly s (World.Spares.openRequest w s.request) rfl rfl
  | own e => exact hs e s w

theorem Service.router_isOrderly {ε : Type} {serve : ε → HttpApp} (hs : ∀ e, (serve e).IsOrderly)
    (v : Service ε) : (v.router serve).IsOrderly :=
  Route.dispatch_isOrderly (Page.app_isOrderly hs) v.routes

end SpanLifecycle
