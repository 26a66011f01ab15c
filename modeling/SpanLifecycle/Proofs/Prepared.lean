import SpanLifecycle.Proofs.Serving
import SpanLifecycle.Proofs.Steady

/-!
# Services prepared for a failure

Whatever the requests to a service do to the trace, what the next one needs to reach the error page
is there: the tracer works, and the coordinator remembers that there is an error page or has not
asked yet.  Endpoints have to be steady for that (`HttpApp.IsSteady`), which all endpoints made of
steps are; `run_servesErrors` then follows a session through any steps.
-/

namespace SpanLifecycle

/-! ## Steady applications -/

/-- A serving has left to later ones what they rely on, and the scope is still about the same
outermost application. -/
structure HttpEnd.IsSteady (s : HttpScope) (w : World) (done : HttpEnd) : Prop where
  steady : w.Steady done.world
  host : done.scope.host = s.host

namespace HttpApp

/-- An application every serving of which is steady. -/
def IsSteady (app : HttpApp) : Prop := ∀ s w, (app s w).IsSteady s w

variable {inner : HttpApp} {c errorPath : String} {s : HttpScope} {w : World}

theorem isolated_isSteady (h : inner.IsSteady) : inner.isolated.IsSteady := by
  intro s w
  obtain ⟨hsteady, hhost⟩ := h s w
  exact ⟨⟨hsteady.failures, hsteady.answer⟩, hhost⟩

end HttpApp

namespace Route

variable {ε : Type}

theorem isSteady_inherits : Inherits ε fun s w done => done.IsSteady s w where
  failing _ _ w := ⟨.refl w, rfl⟩
  refusing r s w := by
    unfold Refusal.respond
    split
    · exact ⟨.refl w, rfl⟩
    · exact ⟨.refl w, rfl⟩
  answering _ w _ _ := ⟨.refl w, rfl⟩
  found _ _ _ _ h := ⟨h.steady, h.host⟩
  mounted inner s w taken wording routes h := by
    obtain ⟨hworld, hscope⟩ := inner.answeringFailures_same (s.enter taken wording routes) w
    refine ⟨?_, ?_⟩
    · rw [hworld]
      exact h.steady
    · rw [hscope, h.host]
      rfl

end Route

theorem Service.router_isSteady {ε : Type} {serve : ε → HttpApp} (hs : ∀ e, (serve e).IsSteady)
    (v : Service ε) : (v.router serve).IsSteady := by
  refine Route.dispatch_inherits Route.isSteady_inherits ?_ v.routes
  intro page s w
  cases page with
  | documentation => exact ⟨.refl w, rfl⟩
  | health => exact ⟨.refl w, rfl⟩
  | errors => exact ⟨⟨rfl, fun _ => rfl⟩, rfl⟩
  | own e => exact hs e s w

/-! ## Between servings -/

/-- The tracer works, and a coordinator remembers of an error page nothing but what is so. -/
structure World.IsPrepared (c : String) (found : Except Fault Bool) (w : World) : Prop where
  working : w.IsWorking
  known : ∀ b, (w.coordinator c).known = some b → found = .ok b

theorem World.IsPrepared.retained {c : String} {found : Except Fault Bool} {w w' : World}
    (hw : w.IsPrepared c found) (h : w.Retains w') : w'.IsPrepared c found where
  working := h.steady.isWorking hw.working
  known b hb := by
    unfold coordinator at hb
    rw [h.coordinators] at hb
    exact hw.known b hb

/-- What is prepared asks the right question, and a steady serving leaves it so. -/
theorem World.Steady.isPrepared {c : String} {found : Except Fault Bool} {w w' : World}
    (h : w.Steady w') (hw : w.IsWorking) (ha : (w.coordinator c).answer = found) :
    w'.IsPrepared c found where
  working := h.isWorking hw
  known b hb := by
    rw [← ha, ← h.answer c]
    unfold Coordinator.answer
    rw [hb]

/-- The reply of a pass is the one of its chain. -/
theorem Exchange.handle_reply {ρ : Type} {x : Exchange} {c : String} {w : World} {chain : Chain ρ}
    {reply : ρ} (h : (x.handle c chain w).reply = some reply) :
    ∃ v, x.chainStart? c w = some v ∧ reply = (chain v).reply := by
  cases hstart : x.chainStart? c w with
  | some v =>
    rw [Exchange.handle_eq hstart chain] at h
    cases h
    exact ⟨v, rfl, rfl⟩
  | none =>
    cases ha : Attribute.present? (w.attributes x.request).activeSpan with
    | none =>
      cases hf : w.failures.of? .create with
      | none =>
        obtain ⟨v, -, hv, -⟩ := Exchange.handle_begins (c := c) hf ha
        rw [hstart] at hv
        cases hv
      | some e =>
        obtain ⟨-, hreply, -⟩ := x.handle_unstarted (c := c) ha hf chain
        rw [hreply] at h
        cases h
    | some a =>
      unfold Exchange.chainStart? at hstart
      unfold Exchange.handle at h
      dsimp only at hstart h
      rw [World.attributes_openRequest, ha] at hstart h
      cases a with
      | span id => cases hstart
      | _ => cases h

namespace HttpApp

variable {inner : HttpApp} {c errorPath : String} {s : HttpScope} {w : World}

/-- An application whose servings leave a coordinator prepared, and the scope about the same
outermost application. -/
def Prepares (c errorPath : String) (app : HttpApp) : Prop :=
  ∀ s w, w.IsPrepared c (s.host errorPath) →
    (app s w).world.IsPrepared c (s.host errorPath) ∧ (app s w).scope.host = s.host

theorem admitted_isWorking (c errorPath : String) (s : HttpScope) (hw : w.IsWorking) :
    (admitted c errorPath s w).IsWorking := hw

theorem traced_prepares (c errorPath : String) (h : inner.IsSteady) :
    (inner.traced c errorPath).Prepares c errorPath := by
  intro s w hw
  have hinner := isolated_isSteady h
  have hpass : (admitted c errorPath s w).Steady (passOver c errorPath s w inner).world := by
    refine Exchange.handle_steady _ c _ _ fun v => ?_
    rw [(chain_reply (tracedScope c s) v inner s.exchange.status).2]
    exact (hinner (tracedScope c s) v).steady
  have hprepared := hpass.isPrepared (admitted_isWorking c errorPath s hw.working)
    (admitted_answer hw.known)
  rw [traced_eq]
  refine ⟨?_, ?_⟩
  · rw [passed_world]
    exact ⟨hprepared.working, hprepared.known⟩
  · cases hreply : (passOver c errorPath s w inner).reply with
    | none =>
      unfold passed
      rw [hreply]
      split <;> first | rfl | cases ‹none = some _›
    | some served =>
      obtain ⟨v, -, rfl⟩ := Exchange.handle_reply hreply
      rw [(passed_ends w.contextFields hreply).1,
        (chain_reply (tracedScope c s) v inner s.exchange.status).1]
      exact (hinner (tracedScope c s) v).host

theorem redispatching_prepares (h : inner.Prepares c errorPath) :
    (inner.redispatching errorPath).Prepares c errorPath := by
  intro s w hw
  have hfirst : (inner.firstCall s w).done.world.IsPrepared c (s.host errorPath) ∧
      (inner.firstCall s w).done.scope.host = s.host := by
    refine h s _ ?_
    split
    · exact hw
    · exact hw.retained ⟨rfl, rfl⟩
  rw [redispatching_eq]
  generalize (inner.firstCall s w).done = first at hfirst
  obtain ⟨hworld, hhost⟩ := hfirst
  unfold followUp
  split
  · exact ⟨hworld, hhost⟩
  · split
    · exact ⟨hworld, hhost⟩
    · next e _ =>
      split
      · exact ⟨hworld, hhost⟩
      · exact ⟨hworld, hhost⟩
      · have hlog := hworld.retained (.log first.world redispatchLogger
          (redispatchEvent first.scope errorPath e))
        unfold again
        dsimp only
        split
        · exact ⟨hlog, hhost⟩
        · next rawPath _ =>
          have hscope : (first.scope.toErrorPass errorPath rawPath e).host = s.host := hhost
          rw [← hscope] at hlog
          refine ⟨?_, hhost⟩
          rw [← hscope]
          exact (h _ _ hlog).1

theorem instrumented_prepares (c errorPath : String) (h : inner.IsSteady) :
    (inner.instrumented c errorPath).Prepares c errorPath :=
  redispatching_prepares (traced_prepares c errorPath h)

end HttpApp

/-! ## Sessions -/

/-- What a session needs to serve failed requests on an error page: the service is traced, the page
is in its table behind the earlier routes, and the coordinator is prepared to find it. -/
structure ServiceSession.ServesErrors {ε : Type} (settings : Settings)
    (earlier : List (Route (Page ε))) (page : Route (Page ε)) (t : ServiceSession ε) : Prop where
  traced : t.service.composition ≠ .bare
  settings : t.service.settings = settings
  routes : ∃ later, t.service.routes = earlier ++ page :: later
  prepared : t.world.IsPrepared Service.coordinatorName (.ok true)

/-- A table serves what its first part does not, if the next route does. -/
theorem hasRoute_append {ε : Type} {earlier : List (Route ε)} {page : Route ε} {path : String}
    (hpage : page.serves path = .ok true) (later : List (Route ε))
    (h : hasRoute earlier path = .ok false) :
    hasRoute (earlier ++ page :: later) path = .ok true := by
  induction earlier with
  | nil =>
    rw [List.nil_append]
    unfold hasRoute
    rw [hpage]
  | cons r rest ih =>
    unfold hasRoute at h
    rw [List.cons_append]
    unfold hasRoute
    split at h
    · cases h
    · cases h
    · exact ih h

namespace ServiceSession

namespace ServesErrors

variable {ε : Type} {endpoints : ε → HttpApp} {settings : Settings}
  {earlier : List (Route (Page ε))} {page : Route (Page ε)} {t : ServiceSession ε}

theorem hasRoute (h : t.ServesErrors settings earlier page)
    (hearlier : hasRoute earlier settings.errorPath = .ok false)
    (hpage : page.serves settings.errorPath = .ok true) :
    SpanLifecycle.hasRoute t.service.routes t.service.settings.errorPath = .ok true := by
  obtain ⟨later, hroutes⟩ := h.routes
  rw [hroutes, h.settings]
  exact hasRoute_append hpage later hearlier

/-- A change to the world only. -/
theorem of_world {w : World} {served : Nat} (h : t.ServesErrors settings earlier page)
    (hw : w.IsPrepared Service.coordinatorName (.ok true)) :
    ServesErrors settings earlier page { t with world := w, served } :=
  ⟨h.traced, h.settings, h.routes, hw⟩

theorem serve (h : t.ServesErrors settings earlier page) (hs : ∀ e, (endpoints e).IsSteady)
    (hearlier : SpanLifecycle.hasRoute earlier settings.errorPath = .ok false)
    (hpage : page.serves settings.errorPath = .ok true) (r : HttpRequest) :
    ServesErrors settings earlier page (t.serve endpoints r).2 := by
  have hfound : (t.scopeOfNext r).host t.service.settings.errorPath = .ok true :=
    h.hasRoute hearlier hpage
  have hworld := ServiceSession.serve_world endpoints h.traced r
  have hprepares := HttpApp.instrumented_prepares Service.coordinatorName
    t.service.settings.errorPath (Service.router_isSteady hs t.service)
    (t.scopeOfNext r) (t.world.setAttributes (.numbered t.served) r.attributes)
  rw [hfound, ← hworld] at hprepares
  exact h.of_world (hprepares (h.prepared.retained ⟨rfl, rfl⟩)).1

theorem onContinuation (h : t.ServesErrors settings earlier page) (label : String) {call : Act Bool}
    (hcall : call.Retains) :
    ServesErrors settings earlier page (t.onContinuation label call).2 := by
  have hworld := h.prepared.retained (hcall t.world)
  unfold ServiceSession.onContinuation
  split
  · revert hworld
    rcases call.runIn t.world with ⟨e | b, w⟩
    · exact fun hworld => h.of_world hworld
    · exact fun hworld => h.of_world hworld
  · exact h

theorem addRoutes (h : t.ServesErrors settings earlier page) {own : List (RouteDraft (Page ε))}
    {v : Service ε} (hv : t.service.addRoutes own = .ok v) :
    ServesErrors settings earlier page { t with service := v } := by
  obtain ⟨later, hroutes⟩ := h.routes
  unfold Service.addRoutes Except.map at hv
  split at hv
  · cases hv
  · next more _ =>
    cases hv
    refine ⟨h.traced, h.settings, ⟨later ++ more, ?_⟩, h.prepared⟩
    show t.service.routes ++ more = _
    rw [hroutes, List.append_assoc, List.cons_append]

theorem startUp (h : t.ServesErrors settings earlier page) :
    ServesErrors settings earlier page t.startUp := by
  unfold ServiceSession.startUp
  split
  · exact h.of_world (h.prepared.retained (.log t.world logger _))
  · exact h
  · exact h

theorem shutDown (h : t.ServesErrors settings earlier page) :
    ServesErrors settings earlier page t.shutDown := by
  unfold ServiceSession.shutDown
  split
  · have hoff : World.IsPrepared Service.coordinatorName (.ok true)
        { t.world with exporting := false } := h.prepared.retained ⟨rfl, rfl⟩
    exact h.of_world (hoff.retained (.log _ logger _))
  · exact h
  · exact h

end ServesErrors

section Run

variable {ε : Type} {endpoints : ε → HttpApp} {settings : Settings}
  {earlier : List (Route (Page ε))} {page : Route (Page ε)}

-- A lifespan holds further steps, so that steps and lists of steps are followed together.
mutual

theorem step_servesErrors (hs : ∀ e, (endpoints e).IsSteady)
    (hearlier : hasRoute earlier settings.errorPath = .ok false)
    (hpage : page.serves settings.errorPath = .ok true) :
    ∀ (step : ServiceStep ε) (t : ServiceSession ε), t.ServesErrors settings earlier page →
      ServesErrors settings earlier page (t.step endpoints step).2
  | .request r, t, h => by
    unfold step
    exact h.serve hs hearlier hpage r
  | .socket path attributes, t, h => by
    unfold step
    exact h.of_world (h.prepared.retained ⟨rfl, rfl⟩)
  | .complete label status failure, t, h => by
    unfold step
    exact h.onContinuation label (Continuation.complete_retains label status failure)
  | .abandonAsync label, t, h => by
    unfold step
    exact h.onContinuation label (Continuation.abandon_retains label)
  | .addRoutes routes, t, h => by
    unfold step
    split
    · next v hv => exact h.addRoutes hv
    · exact h
  | .lifespan steps, t, h => by
    unfold step
    exact (run_servesErrors hs hearlier hpage steps t.startUp h.startUp).shutDown

/-- What a session needs to serve failed requests on an error page is not lost by any steps. -/
theorem run_servesErrors (hs : ∀ e, (endpoints e).IsSteady)
    (hearlier : hasRoute earlier settings.errorPath = .ok false)
    (hpage : page.serves settings.errorPath = .ok true) :
    ∀ (steps : List (ServiceStep ε)) (t : ServiceSession ε), t.ServesErrors settings earlier page →
      ServesErrors settings earlier page (t.run endpoints steps).2
  | [], t, h => by
    unfold run
    exact h
  | step :: rest, t, h => by
    unfold run
    exact run_servesErrors hs hearlier hpage rest _
      (step_servesErrors hs hearlier hpage step t h)

end

end Run

end ServiceSession

end SpanLifecycle
