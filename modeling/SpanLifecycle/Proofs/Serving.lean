import SpanLifecycle.Proofs.Layers
import SpanLifecycle.Service.Session

/-!
# Serving requests one after another

Every request to a service with tracing creates one span, in its first serving.  That span is
finalized exactly once if it can be told whether the service has an error page, or if the failed
request is served once more all the same; otherwise it is lost.  The main statement is
`each_request_reported_once`.
-/

namespace SpanLifecycle

/-- By the calls of a first serving one span was created, by those of a second none, and by both
together the span was finalized: once if it is `reported`, and never if it is not. -/
structure Disposition (id : SpanId) (reported : Prop) (calls calls' : List TracerCall)
    (last : Span) : Prop where
  created : calls.filterMap (·.creates?) = [id]
  uncreated : calls'.filterMap (·.creates?) = []
  once : reported → (calls ++ calls').filterMap (·.finalizes?) = [id] ∧ last.state = .finalized
  lost : ¬ reported → (calls ++ calls').filterMap (·.finalizes?) = [] ∧ last.state ≠ .finalized

theorem ReportedOnce.disposition {id : SpanId} {cause : Option Attribute} {exported : Bool}
    {s : Span} {calls calls' : List TracerCall} {exports : List ExportedSpan} {reported : Prop}
    (h : ReportedOnce id cause exported s (calls ++ calls') exports) (hr : reported)
    (name : String) : Disposition id reported (.created id name :: calls) calls' s := by
  obtain ⟨hcreates, hcreates'⟩ := List.append_eq_nil_iff.mp
    ((List.filterMap_append ..).symm.trans h.uncreated)
  refine ⟨?_, hcreates', fun _ => ⟨h.once, h.state⟩, fun hn => absurd hr hn⟩
  exact congrArg (id :: ·) hcreates

theorem Unreported.disposition {id : SpanId} {s : Span} {calls : List TracerCall}
    {exports : List ExportedSpan} {reported : Prop} (h : Unreported s calls exports)
    (hr : ¬ reported) (name : String) :
    Disposition id reported (.created id name :: calls) [] s := by
  refine ⟨congrArg (id :: ·) h.uncreated, rfl, fun hp => absurd hp hr, fun _ => ⟨?_, h.state⟩⟩
  rw [List.append_nil]
  exact h.never

namespace HttpApp

variable {inner : HttpApp} {c errorPath : String} {s : HttpScope} {w : World}

/-- Whatever a first serving has left to a second one: the second one can tell. -/
theorem FirstServing.awaits {serves : Except Fault Bool} {id : SpanId} {done : HttpEnd}
    {calls : List TracerCall} {exports : List ExportedSpan}
    (h : FirstServing errorPath serves id done calls exports)
    (hr : IsRedispatched errorPath done) :
    ∃ failure final exported,
      AwaitsError id failure final (done.world.attributes done.scope.request) ∧
      (final = true →
        ReportedOnce id (failure.map .fault) exported (done.world.span id) calls exports) ∧
      (final = false → Unreported (done.world.span id) calls exports) := by
  cases h with
  | reported b cause exported hs hn h => exact absurd hr hn
  | handed failure final exported hr hm hf hu => exact ⟨failure, final, exported, hm, hf, hu⟩
  | failed failure e hs hm hu => exact ⟨failure, false, false, hm, nofun, fun _ => hu⟩

/-- The serving that follows a re-dispatch. -/
theorem instrumented_again {rawPath : List UInt8} {id : SpanId} {failure : Option Fault}
    {final : Bool} (h : inner.IsOrderly) (he : s.error = none)
    (hpath : Latin1.encode errorPath = .ok rawPath) :
    let first := inner.traced c errorPath s (w.openRequest s.request)
    let last := (inner.instrumented c errorPath s w).world
    IsRedispatched errorPath first → first.world.IsWorking → id < first.world.spans.length →
    AwaitsError id failure final (first.world.attributes first.scope.request) →
    (final = false → (first.world.span id).state ≠ .finalized) →
    ∃ calls exports, Adds first.world last calls exports ∧
      last.failures = first.world.failures ∧
      (last.coordinator c).known = (first.world.coordinator c).known ∧
      (final = true → calls = [] ∧ exports = [] ∧ last.span id = first.world.span id) ∧
      (final = false → ∃ exported,
        ReportedOnce id (failure.map .fault) exported (last.span id) calls exports) := by
  intro first last hr hw hid hm hopen
  obtain ⟨e, event, hlast⟩ := redispatching_again (w := w) (inner.traced c errorPath) he
    hpath hr
  change last = (inner.traced c errorPath (first.scope.toErrorPass errorPath rawPath e)
    (first.world.log redispatchLogger event)).world at hlast
  clear_value first last
  have hlog := Becomes.log first.scope.request id first.world redispatchLogger event
  have hattributes : (first.world.log redispatchLogger event).attributes first.scope.request =
      first.world.attributes first.scope.request := hlog.itsAttributes
  rw [← hattributes] at hm
  obtain ⟨calls, exports, hadds, -, hfailures, hknown, hdone, hlate⟩ :=
    traced_again (s := first.scope.toErrorPass errorPath rawPath e)
      (w := first.world.log redispatchLogger event) c errorPath h rfl (hlog.isWorking hw)
      (by rw [hlog.length]; exact hid) hm (by rw [hlog.itsSpan]; exact hopen)
  rw [← hlast] at hadds hfailures hknown hdone hlate
  refine ⟨calls, exports, ⟨?_, ?_⟩, hfailures.trans hlog.failures, ?_, ?_, hlate⟩
  · rw [hadds.calls, hlog.calls, List.append_nil]
  · rw [hadds.exports, hlog.exports, List.append_nil]
  · rw [hknown]
    unfold World.coordinator
    rw [World.log_coordinators]
  · intro hf
    obtain ⟨h₁, h₂, h₃⟩ := hdone hf
    exact ⟨h₁, h₂, h₃.trans hlog.itsSpan⟩

/-- What one request to an instrumented application comes to.  The coordinator still remembers
nothing but what the application serves. -/
theorem instrumented_serves {rawPath : List UInt8} (h : inner.IsOrderly) (he : s.error = none)
    (hpath : Latin1.encode errorPath = .ok rawPath) (hw : w.IsWorking)
    (hm : (w.attributes s.request).IsUntraced) (ho : s.outermost = none)
    (hknown : ∀ b, (w.coordinator c).known = some b → s.serves errorPath = .ok b) :
    let first := inner.traced c errorPath s (w.openRequest s.request)
    let last := (inner.instrumented c errorPath s w).world
    let found := ∃ b, s.serves errorPath = .ok b
    last.failures = w.failures ∧
    (∀ b, (last.coordinator c).known = some b → s.serves errorPath = .ok b) ∧
    (found → (first.world.span w.spans.length).state ≠ .finalized →
      IsRedispatched errorPath first) ∧
    ∃ calls calls', first.world.calls = w.calls ++ calls ∧
      last.calls = first.world.calls ++ calls' ∧
      (¬ IsRedispatched errorPath first → calls' = []) ∧
      Disposition w.spans.length (found ∨ IsRedispatched errorPath first) calls calls'
        (last.span w.spans.length) := by
  intro first last found
  obtain ⟨name, calls, exports, hadds, hlength, hfailures, hanswer, hrequest, hfirst⟩ :=
    traced_first (s := s) (w := w.openRequest s.request) c errorPath h hw
      (by rw [World.attributes_openRequest]; exact hm) ho hknown
  have hcalls : first.world.calls = w.calls ++ .created w.spans.length name :: calls :=
    hadds.calls
  change first.world.spans.length = _ at hlength
  change first.world.failures = _ at hfailures
  change (first.world.coordinator c).answer = _ at hanswer
  change FirstServing errorPath _ w.spans.length first _ _ at hfirst
  have hfirstKnown : ∀ b, (first.world.coordinator c).known = some b →
      s.serves errorPath = .ok b := by
    intro b hb
    rw [← hanswer]
    unfold Coordinator.answer
    rw [hb]
  by_cases hr : IsRedispatched errorPath first
  · obtain ⟨failure, final, exported, hm, hf, hu⟩ := hfirst.awaits hr
    obtain ⟨calls', exports', hadds', hfailures', hknown', hdone, hlate⟩ :=
      instrumented_again (c := c) (w := w) h he hpath hr
        (fun v => by rw [hfailures]; exact hw v) (by rw [hlength]; exact Nat.lt_succ_self _) hm
        (fun hn => (hu hn).state)
    refine ⟨hfailures'.trans hfailures, ?_, fun _ _ => hr, _, calls', hcalls, hadds'.calls,
      fun hn => absurd hr hn, ?_⟩
    · intro b hb
      rw [hknown'] at hb
      exact hfirstKnown b hb
    · cases final with
      | true =>
        obtain ⟨rfl, rfl, hspan⟩ := hdone rfl
        have hreported := hf rfl
        rw [← hspan, ← List.append_nil calls] at hreported
        exact hreported.disposition (.inr hr) name
      | false =>
        obtain ⟨exported, hreported⟩ := hlate rfl
        exact (hreported.after (hu rfl)).disposition (.inr hr) name
  · have hlast : last = first.world := redispatching_alone he hr
    rw [hlast]
    refine ⟨hfailures, hfirstKnown, ?_, _, [], hcalls, (List.append_nil _).symm,
      fun _ => rfl, ?_⟩
    · rintro ⟨b, hb⟩ hstate
      cases hfirst with
      | reported b cause exported hs hn h => exact absurd h.state hstate
      | handed failure final exported hr' hm hf hu => exact hr'
      | failed failure e hs hm hu =>
        rw [hs] at hb
        cases hb
    · cases hfirst with
      | reported b cause exported hs hn h =>
        rw [← List.append_nil calls] at h
        exact h.disposition (.inl ⟨b, hs⟩) name
      | handed failure final exported hr' hm hf hu => exact absurd hr' hr
      | failed failure e hs hm hu =>
        refine hu.disposition ?_ name
        rintro (⟨b, hb⟩ | hr')
        · rw [hs] at hb
          cases hb
        · exact hr hr'

end HttpApp

/-! ## Sessions -/

namespace ServiceSession

variable {ε : Type} {endpoints : ε → HttpApp} {t : ServiceSession ε} {r : HttpRequest}

/-- The scope in which a service serves its next request. -/
def scopeOfNext (t : ServiceSession ε) (r : HttpRequest) : HttpScope :=
  { scopeOf (.numbered t.served) r with
    serves := hasRoute t.service.routes, wording := .documented }

/-- The first serving of the next request. -/
def firstServing (endpoints : ε → HttpApp) (t : ServiceSession ε) (r : HttpRequest) : HttpEnd :=
  let name := RequestName.numbered t.served
  (t.service.router endpoints).traced Service.coordinatorName t.service.settings.errorPath
    (t.scopeOfNext r) ((t.world.setAttributes name r.attributes).openRequest name)

/-- A traced service is the instrumented router below its outermost layer. -/
theorem layers_traced {v : Service ε} (hc : v.composition ≠ .bare) (inner : HttpApp) :
    v.layers inner = inner.instrumented Service.coordinatorName v.settings.errorPath := by
  unfold Service.layers
  cases hcomposition : v.composition with
  | bare => exact absurd hcomposition hc
  | complete => rfl
  | instrumented => rfl

/-- Outside the re-dispatching, a traced service only answers what still fails: the layers inside
give back the context that a request is served in, so the outermost one has nothing to undo. -/
theorem app_traced {v : Service ε} (hc : v.composition ≠ .bare) (endpoints : ε → HttpApp) :
    v.app endpoints = fun s =>
      ((v.router endpoints).instrumented Service.coordinatorName
        v.settings.errorPath).answeringFailures
        { s with serves := hasRoute v.routes, wording := .documented } := by
  have hrestores := HttpApp.answeringFailures_restores (HttpApp.instrumented_restores
    Service.coordinatorName v.settings.errorPath (v.router endpoints))
  unfold Service.app
  rw [layers_traced hc, hrestores.isolated_eq]

/-- So the world is as the re-dispatching has left it. -/
theorem serve_world (endpoints : ε → HttpApp) (hc : t.service.composition ≠ .bare)
    (r : HttpRequest) :
    (t.serve endpoints r).2.world =
      ((t.service.router endpoints).instrumented Service.coordinatorName
        t.service.settings.errorPath (t.scopeOfNext r)
        (t.world.setAttributes (.numbered t.served) r.attributes)).world := by
  unfold serve
  rw [app_traced hc]
  exact (HttpApp.answeringFailures_same _ _ _).1

/-- And what was current before a request is current after it. -/
theorem serve_current (endpoints : ε → HttpApp) (hc : t.service.composition ≠ .bare)
    (r : HttpRequest) : (t.serve endpoints r).2.world.current = t.world.current := by
  rw [serve_world endpoints hc]
  exact (HttpApp.instrumented_restores _ _ _ _ _).current

/-- Between requests the tracer works, and the coordinator remembers of the error page nothing but
what the routes say. -/
structure IsReady (v : Service ε) (t : ServiceSession ε) : Prop where
  service : t.service = v
  working : t.world.IsWorking
  known : ∀ b, (t.world.coordinator Service.coordinatorName).known = some b →
    hasRoute v.routes v.settings.errorPath = .ok b

section Serve

variable {v : Service ε} {rawPath : List UInt8}

/-- One more request. -/
theorem IsReady.serve (h : IsReady v t) (hs : ∀ e, (endpoints e).IsOrderly)
    (hc : v.composition ≠ .bare) (hpath : Latin1.encode v.settings.errorPath = .ok rawPath)
    (hm : r.attributes.IsUntraced) :
    let id := t.world.spans.length
    let first := t.firstServing endpoints r
    let last := (t.serve endpoints r).2.world
    let found := ∃ b, hasRoute v.routes v.settings.errorPath = .ok b
    let again := HttpApp.IsRedispatched v.settings.errorPath first
    IsReady v (t.serve endpoints r).2 ∧
    (found → (first.world.span id).state ≠ .finalized → again) ∧
    ∃ calls calls', first.world.calls = t.world.calls ++ calls ∧
      last.calls = first.world.calls ++ calls' ∧ (¬ again → calls' = []) ∧
      Disposition id (found ∨ again) calls calls' (last.span id) := by
  intro id first last found again
  obtain ⟨rfl, hworking, hknown⟩ := h
  have hm₀ : ((t.world.setAttributes (.numbered t.served) r.attributes).attributes
      (.numbered t.served)).IsUntraced := by
    rw [World.attributes_setAttributes, if_pos rfl]
    exact hm
  obtain ⟨hfailures, hknown', hredispatch, calls, calls', hcalls, hcalls', halone, hdisposition⟩ :=
    HttpApp.instrumented_serves (c := Service.coordinatorName) (s := t.scopeOfNext r)
      (w := t.world.setAttributes (.numbered t.served) r.attributes)
      (t.service.router_isOrderly hs) rfl hpath hworking hm₀ rfl hknown
  have hlast : last = _ := serve_world endpoints hc r
  rw [← hlast] at hfailures hknown' hcalls' hdisposition
  refine ⟨⟨rfl, fun verb => ?_, hknown'⟩, hredispatch, calls, calls', hcalls, hcalls', halone,
    hdisposition⟩
  show last.failures.of? verb = none
  rw [hfailures]
  exact hworking verb

theorem IsReady.run (hs : ∀ e, (endpoints e).IsOrderly) (hc : v.composition ≠ .bare)
    (hpath : Latin1.encode v.settings.errorPath = .ok rawPath) (requests : List HttpRequest) :
    ∀ t, IsReady v t → (∀ r ∈ requests, r.attributes.IsUntraced) →
      IsReady v (t.run endpoints (requests.map .request)).2 := by
  induction requests with
  | nil =>
    intro t h _
    exact h
  | cons r rest ih =>
    intro t h hm
    have hserve := (h.serve hs hc hpath (hm r (List.mem_cons_self ..))).1
    exact ih (t.serve endpoints r).2 hserve fun q hq => hm q (List.mem_cons_of_mem r hq)

end Serve

/-- A session starts with the composed service, in the first world of its settings. -/
theorem start_ok {composition : Composition} {settings : Settings}
    {own : List (RouteDraft (Page ε))} {backend : Backend}
    (h : start composition settings own backend = .ok t) :
    ∃ logs, Service.compose composition settings own = .ok t.service ∧ t.served = 0 ∧
      t.world = {
        backend, logs
        coordinators := [(Service.coordinatorName, { stem := settings.spanNameStem })] } := by
  unfold start at h
  cases hw : Service.firstWorld settings backend with
  | error e =>
    rw [hw] at h
    cases h
  | ok w =>
    cases hv : Service.compose composition settings own with
    | error e =>
      rw [hw, hv] at h
      cases h
    | ok v =>
      rw [hw, hv] at h
      cases h
      unfold Service.firstWorld at hw
      generalize ({} : LogSetup).configure settings.serviceName settings.logLevel = out at hw
      obtain ⟨result | u, logs⟩ := out
      · cases hw
      · cases hw
        exact ⟨logs, rfl, rfl, rfl⟩

theorem start_isReady {composition : Composition} {settings : Settings}
    {own : List (RouteDraft (Page ε))} {backend : Backend}
    (h : start composition settings own backend = .ok t) :
    IsReady t.service t ∧ t.service.composition = composition ∧ t.service.settings = settings := by
  obtain ⟨logs, hv, -, hw⟩ := start_ok h
  have hready : IsReady t.service t := by
    refine ⟨rfl, ?_, ?_⟩
    · rw [hw]
      intro verb
      cases verb <;> rfl
    · rw [hw]
      intro b hb
      cases hb
  refine ⟨hready, ?_⟩
  unfold Service.compose Except.map at hv
  dsimp only at hv
  split at hv
  · cases hv
  · rw [← Except.ok.inj hv]
    exact ⟨rfl, rfl⟩

/-- Every request to a service with tracing, whatever came before it, creates one span and no other.
If it can be told whether there is a route for the error path, then the first serving leaves the
span unfinalized only to a second one, and between them they finalize it exactly once.  If it
cannot be told, the span is finalized exactly once where the request is served again nevertheless,
and never otherwise. -/
theorem each_request_reported_once (hs : ∀ e, (endpoints e).IsOrderly) {composition : Composition}
    {settings : Settings} {own : List (RouteDraft (Page ε))} {backend : Backend}
    (hstart : start composition settings own backend = .ok t) (hc : composition ≠ .bare)
    {rawPath : List UInt8} (hpath : Latin1.encode settings.errorPath = .ok rawPath)
    {before : List HttpRequest} (hbefore : ∀ q ∈ before, q.attributes.IsUntraced)
    (hm : r.attributes.IsUntraced) :
    let now := (t.run endpoints (before.map .request)).2
    let id := now.world.spans.length
    let first := now.firstServing endpoints r
    let last := (now.serve endpoints r).2.world
    let found := ∃ b, hasRoute t.service.routes settings.errorPath = .ok b
    let again := HttpApp.IsRedispatched settings.errorPath first
    (found → (first.world.span id).state ≠ .finalized → again) ∧
    ∃ calls calls', first.world.calls = now.world.calls ++ calls ∧
      last.calls = first.world.calls ++ calls' ∧ (¬ again → calls' = []) ∧
      Disposition id (found ∨ again) calls calls' (last.span id) := by
  obtain ⟨hready, rfl, rfl⟩ := start_isReady hstart
  exact ((IsReady.run hs hc hpath before t hready hbefore).serve hs hc hpath hm).2

/-- An endpoint that answers, and one that fails. -/
def demoEndpoint : Bool → HttpApp
  | true => fun scope world => { world, scope, sent := Message.response 200 (.text "welcome") }
  | false => Route.failing { kind := .valueError, message := some "boom" }

theorem demoEndpoint_isOrderly : ∀ answers, (demoEndpoint answers).IsOrderly
  | true => fun s w => HttpEnd.response_isOrderly s (World.Spares.refl w) rfl rfl
  | false => Route.failing_isOrderly _

/-- A page that answers, and one that fails. -/
def demoRoutes : List (RouteDraft (Page Bool)) :=
  [.endpoint .documented "/ok" ["GET"] (.own true),
    .endpoint .documented "/boom" ["GET"] (.own false)]

/-- A page that answers, and a group whose path names one field twice. -/
def brokenRoutes : List (RouteDraft (Page Bool)) :=
  [.endpoint .documented "/ok" ["GET"] (.own true),
    .group "/\x7ba\x7d" [.endpoint .documented "/\x7ba\x7d" ["GET"] (.own true)]]

theorem boom_reported_once :
    ∃ t : ServiceSession Bool, start .complete {} demoRoutes .recording = .ok t ∧
      let now := (t.run demoEndpoint [.request { path := "/ok" }]).2
      let first := now.firstServing demoEndpoint { path := "/boom" }
      let last := (now.serve demoEndpoint { path := "/boom" }).2.world
      ∃ calls calls', last.calls = first.world.calls ++ calls' ∧
        calls.filterMap (·.creates?) = [now.world.spans.length] ∧
        (calls ++ calls').filterMap (·.finalizes?) = [now.world.spans.length] := by
  have hfound : (start .complete {} demoRoutes .recording).toOption.map
      (fun t => (hasRoute t.service.routes "/error").toOption) = some (some true) := by
    decide +kernel
  cases hstart : start .complete {} demoRoutes .recording with
  | error e =>
    rw [hstart] at hfound
    cases hfound
  | ok t =>
    rw [hstart] at hfound
    have hroute : ∃ b, hasRoute t.service.routes "/error" = .ok b := by
      cases h : hasRoute t.service.routes "/error" with
      | ok b => exact ⟨b, rfl⟩
      | error e =>
        have hnone : some (hasRoute t.service.routes "/error").toOption = some (some true) := hfound
        rw [h] at hnone
        cases hnone
    have hpath : Latin1.encode ({} : Settings).errorPath = .ok [47, 101, 114, 114, 111, 114] := rfl
    have huntraced : ∀ k, Attributes.at? [] k = none := fun _ => rfl
    have hbefore : ∀ q ∈ [({ path := "/ok" } : HttpRequest)], q.attributes.IsUntraced := by
      intro q hq
      cases List.mem_singleton.mp hq
      exact huntraced
    obtain ⟨-, calls, calls', -, hcalls', -, hdisposition⟩ :=
      each_request_reported_once (r := { path := "/boom" }) demoEndpoint_isOrderly hstart
        (by decide) hpath hbefore huntraced
    exact ⟨t, rfl, calls, calls', hcalls', hdisposition.created,
      (hdisposition.once (.inl hroute)).1⟩

/-- Where it cannot be told whether there is an error page, even a request that is answered well
loses its span: nothing finalizes it, and the answer is replaced by a failure. -/
theorem brokenRoutes_lose_span :
    ((start .instrumented {} brokenRoutes .recording).toOption.map fun t =>
      let (reply, t') := t.serve demoEndpoint { path := "/ok" }
      (t'.world.calls.filterMap (·.creates?), t'.world.calls.filterMap (·.finalizes?),
        (t'.world.span 0).state, Message.statuses reply.sent)) =
      some ([0], [], .opened, [500]) := by
  decide +kernel

end ServiceSession

end SpanLifecycle
