import SpanLifecycle.Proofs.LocalSteps
import SpanLifecycle.Proofs.Serving

/-!
# The order of requests

A service with tracing keeps a cached answer, counters and a current span from request to request.
None of it shows: what comes of a request, but for ids, is what would come of it if it were the
first one (`serving_order`), as long as endpoints keep to their own request.  The invariant between
requests is `Continues`: what the coordinator remembers is what the routes say, nothing is current,
and the continuations left behind are those of earlier requests.
-/

namespace SpanLifecycle

/-- What comes of a request, but for ids: the reply, and the spans exported meanwhile. -/
structure Served where
  reply : HttpReply
  exports : List ExportedSpan
  deriving Inhabited

/-- A request that does not bring along the span of another one. -/
def HttpRequest.BringsNoSpan (r : HttpRequest) : Prop := ∀ key id, (key, .span id) ∉ r.attributes

theorem HttpRequest.BringsNoSpan.shift {r : HttpRequest} (h : r.BringsNoSpan) (n : Nat) :
    Attributes.shift n r.attributes = r.attributes := by
  have hsame : ∀ entry ∈ r.attributes, (entry.1, Attribute.shift n entry.2) = id entry := by
    rintro ⟨key, a⟩ hentry
    cases a with
    | span id => exact absurd hentry (h key id)
    | _ => rfl
  exact (List.map_congr_left hsame).trans (List.map_id _)

namespace ServiceSession

variable {ε : Type} {endpoints : ε → HttpApp} {t u : ServiceSession ε}

/-- What comes of the next request. -/
def outcome (endpoints : ε → HttpApp) (t : ServiceSession ε) (r : HttpRequest) : Served :=
  let (reply, last) := t.serve endpoints r
  { reply := reply.anonymous
    exports := (last.world.exports.drop t.world.exports.length).map ExportedSpan.anonymous }

/-- What comes of each request, one after another. -/
def outcomes (endpoints : ε → HttpApp) (t : ServiceSession ε) : List HttpRequest → List Served
  | [] => []
  | r :: rest => t.outcome endpoints r :: (t.serve endpoints r).2.outcomes endpoints rest

/-! ## Between requests -/

/-- The world of a session once its host is known to the coordinator. -/
def appointed (t : ServiceSession ε) (w : World) : World :=
  HttpApp.appoint Service.coordinatorName t.service.settings.errorPath (t.scopeOfNext default) w

/-- A later session, after some requests to a service. -/
structure Continues (t u : ServiceSession ε) : Prop where
  service : u.service = t.service
  setting : (t.appointed u.world).setting = (t.appointed t.world).setting
  current : u.world.current = none
  owner : ∀ label k, u.world.continuations.get? label = some k →
    ∃ n < u.served, k.request = .numbered n

/-- A session that has served nothing yet. -/
structure IsFresh (t : ServiceSession ε) : Prop where
  spans : t.world.spans = []
  exports : t.world.exports = []
  current : t.world.current = none
  continuations : t.world.continuations = []
  served : t.served = 0
  known : (t.world.coordinator Service.coordinatorName).known = none

theorem start_isFresh {composition : Composition} {settings : Settings}
    {own : List (RouteDraft (Page ε))} {backend : Backend}
    (h : start composition settings own backend = .ok t) : t.IsFresh := by
  obtain ⟨logs, -, hserved, hw⟩ := start_ok h
  exact
    { spans := congrArg World.spans hw
      exports := congrArg World.exports hw
      current := congrArg World.current hw
      continuations := congrArg World.continuations hw
      served := hserved
      known := congrArg (fun w => (w.coordinator Service.coordinatorName).known) hw }

theorem IsFresh.continues (h : t.IsFresh) : Continues t t where
  service := rfl
  setting := rfl
  current := h.current
  owner label k hk := by
    rw [h.continuations] at hk
    cases hk

/-- What the host says about the error path, the coordinator says. -/
theorem IsFresh.answer (h : t.IsFresh) :
    (t.appointed t.world).setting.answer Service.coordinatorName =
      hasRoute t.service.routes t.service.settings.errorPath := by
  show ((t.appointed t.world).coordinator Service.coordinatorName).answer = _
  unfold appointed HttpApp.appoint
  rw [World.coordinator_setCoordinator, if_pos rfl]
  unfold Coordinator.answer
  dsimp only
  rw [h.known]
  rfl

/-! ## One more request -/

/-- What tells a session after some requests from one at its start. -/
def offset (t u : ServiceSession ε) : Offset :=
  { setting := (t.appointed t.world).setting
    spans := u.world.spans.length
    exports := u.world.exports.map ExportedSpan.anonymous
    others := fun q => ∃ n < u.served, q = .numbered n
    here := .numbered u.served
    alone := .numbered t.served }

variable {r : HttpRequest}

/-- To the next request, a session after some requests is like one at its start. -/
theorem Continues.alike (h : Continues t u) (ht : t.IsFresh) (hr : r.BringsNoSpan) :
    (t.offset u).Alike
      (t.appointed (u.world.setAttributes (.numbered u.served) r.attributes))
      (t.appointed (t.world.setAttributes (.numbered t.served) r.attributes)) where
  setting := h.setting
  setting₀ := rfl
  length := by
    show u.world.spans.length = u.world.spans.length + t.world.spans.length
    rw [ht.spans]
    rfl
  span id := by
    have hu : u.world.span (u.world.spans.length + id) = default :=
      World.span_default (Nat.le_add_right _ _)
    have hnone : t.world.span id = default :=
      World.span_default (by rw [ht.spans]; exact Nat.zero_le id)
    exact congrArg Span.anonymous (hu.trans hnone.symm)
  current := by
    show u.world.current = t.world.current.map _
    rw [h.current, ht.current]
    rfl
  attributes := by
    show (u.world.setAttributes (.numbered u.served) r.attributes).attributes (.numbered u.served) =
      Attributes.shift u.world.spans.length
        ((t.world.setAttributes (.numbered t.served) r.attributes).attributes (.numbered t.served))
    rw [World.attributes_setAttributes, if_pos rfl, World.attributes_setAttributes, if_pos rfl]
    exact (hr.shift _).symm
  own label := by
    have hu : u.world.own? (.numbered u.served) label = none := by
      unfold World.own?
      cases hk : u.world.continuations.get? label with
      | none => rfl
      | some k =>
        obtain ⟨n, hn, hrequest⟩ := h.owner label k hk
        -- what is left under the label is an earlier request's
        have hother : ¬ k.request = .numbered u.served := by
          rw [hrequest]
          intro heq
          cases heq
          exact Nat.lt_irrefl _ hn
        rw [Option.filter_some_neg (by rw [decide_eq_false hother])]
        rfl
    have hnone : t.world.own? (.numbered t.served) label = none := by
      unfold World.own?
      rw [ht.continuations]
      rfl
    exact hu.trans hnone.symm
  held _ hl := absurd hl List.not_mem_nil
  owner label k hk := .inr (h.owner label k hk)
  exports := by
    show u.world.exports.map _ = u.world.exports.map _ ++ t.world.exports.map _
    rw [ht.exports]
    exact (List.append_nil _).symm

/-- The serving of the next request, inside the outermost layers. -/
theorem Continues.serves (h : Continues t u) (ht : t.IsFresh) (hc : t.service.composition ≠ .bare)
    (hlocal : ∀ e, (endpoints e).IsLocal) (hr : r.BringsNoSpan) :
    (t.offset u).ServesAlike (hasRoute t.service.routes)
      (u.service.app endpoints (scopeOf (.numbered u.served) r)
        (u.world.setAttributes (.numbered u.served) r.attributes))
      (t.service.app endpoints (scopeOf (.numbered t.served) r)
        (t.world.setAttributes (.numbered t.served) r.attributes)) := by
  have halike := h.alike ht hr
  have hhost : (t.scopeOfNext r).host t.service.settings.errorPath =
      (t.offset u).setting.answer Service.coordinatorName := ht.answer.symm
  have hlayered := HttpApp.instrumented_alike (t.service.router_isLocal hlocal) hhost halike
  rw [h.service, app_traced hc]
  exact HttpApp.answeringFailures_alike hlayered

/-- What comes of the next request does not depend on the requests before it. -/
theorem Continues.outcome (h : Continues t u) (ht : t.IsFresh)
    (hc : t.service.composition ≠ .bare) (hlocal : ∀ e, (endpoints e).IsLocal)
    (hr : r.BringsNoSpan) : u.outcome endpoints r = t.outcome endpoints r := by
  have hserves := h.serves ht hc hlocal hr
  obtain ⟨hworld, -, -, -, hsent, hraised⟩ := hserves
  have hreply : (u.serve endpoints r).1.anonymous = (t.serve endpoints r).1.anonymous :=
    (HttpReply.mk.injEq ..).mpr ⟨hsent, hraised, hworld.viewRequest⟩
  have hexports : ((u.serve endpoints r).2.world.exports.drop u.world.exports.length).map
      ExportedSpan.anonymous =
      ((t.serve endpoints r).2.world.exports.drop t.world.exports.length).map
        ExportedSpan.anonymous := by
    rw [List.map_drop, List.map_drop, ht.exports]
    refine (congrArg (List.drop _) hworld.exports).trans ?_
    exact List.drop_left' (List.length_map _)
  exact (Served.mk.injEq ..).mpr ⟨hreply, hexports⟩

/-- The invariant between requests. -/
theorem Continues.serve (h : Continues t u) (ht : t.IsFresh)
    (hc : t.service.composition ≠ .bare) (hlocal : ∀ e, (endpoints e).IsLocal)
    (hr : r.BringsNoSpan) : Continues t (u.serve endpoints r).2 := by
  have hserves := h.serves ht hc hlocal hr
  -- an answer that this request has left with the coordinator is the one the routes give
  have hanswer : (t.scopeOfNext default).host t.service.settings.errorPath =
      ((u.serve endpoints r).2.world.coordinator Service.coordinatorName).answer :=
    ht.answer.symm.trans (hserves.world.answer_eq _).symm
  have hcurrent := serve_current endpoints (by rw [h.service]; exact hc) (t := u) r
  refine ⟨h.service, ?_, hcurrent.trans h.current, ?_⟩
  · have happoint := HttpApp.appoint_becomes hanswer (.numbered 0) 0
    exact happoint.setting.trans hserves.world.setting
  · intro label k hk
    rcases hserves.world.owner label k hk with hown | ⟨n, hn, hother⟩
    · exact ⟨u.served, Nat.lt_succ_self _, hown⟩
    · exact ⟨n, Nat.lt_succ_of_lt hn, hother⟩

theorem Continues.outcomes (ht : t.IsFresh) (hc : t.service.composition ≠ .bare)
    (hlocal : ∀ e, (endpoints e).IsLocal) (requests : List HttpRequest) :
    ∀ u, Continues t u → (∀ r ∈ requests, r.BringsNoSpan) →
      u.outcomes endpoints requests = requests.map (t.outcome endpoints) := by
  induction requests with
  | nil =>
    intro u _ _
    rfl
  | cons r rest ih =>
    intro u hu hr
    have hhead := hu.outcome ht hc hlocal (hr r List.mem_cons_self)
    have hnext := hu.serve ht hc hlocal (hr r List.mem_cons_self)
    have hrest := ih _ hnext fun q hq => hr q (List.mem_cons_of_mem r hq)
    show u.outcome endpoints r :: (u.serve endpoints r).2.outcomes endpoints rest = _
    rw [hhead, hrest]
    rfl

/-- What comes of a request to a service with tracing, the reply and the exported spans but for ids,
is what comes of it when it is the first and only one, whatever was served before it.  So another
order of the same requests only reorders what comes of them. -/
theorem serving_order {composition : Composition} {settings : Settings}
    {own : List (RouteDraft (Page ε))} {backend : Backend}
    (hstart : start composition settings own backend = .ok t) (hc : composition ≠ .bare)
    (hlocal : ∀ e, (endpoints e).IsLocal) {requests : List HttpRequest}
    (hr : ∀ r ∈ requests, r.BringsNoSpan) :
    t.outcomes endpoints requests = requests.map (t.outcome endpoints) ∧
    ∀ requests', requests.Perm requests' →
      (t.outcomes endpoints requests).Perm (t.outcomes endpoints requests') := by
  obtain ⟨-, hcomposition, -⟩ := start_isReady hstart
  have hfresh := start_isFresh hstart
  have hall := Continues.outcomes hfresh (by rw [hcomposition]; exact hc) hlocal
  have hsame := hall requests t hfresh.continues hr
  refine ⟨hsame, fun requests' hperm => ?_⟩
  rw [hsame, hall requests' t hfresh.continues fun r hq => hr r (hperm.mem_iff.mpr hq)]
  exact hperm.map _

/-- An endpoint that goes on asynchronously and fails, and an error page that completes what the
failed serving has started. -/
def handoverEndpoint : Bool → HttpApp
  | true => .ofSteps [.startAsync "k", .raise { kind := .valueError, message := some "boom" }]
  | false => .ofHeld ["k"] [.status 500, .complete "k" 500 none, .current] [.status 404]

/-- The failing endpoint, and its error page. -/
def handoverRoutes : List (RouteDraft (Page Bool)) :=
  [.endpoint .documented "/work" ["GET"] (.own true),
    .endpoint .documented "/error" ["GET"] (.own false)]

theorem handover_reordered :
    ∃ t : ServiceSession Bool, start .instrumented {} handoverRoutes .recording = .ok t ∧
      (t.outcome handoverEndpoint { path := "/work" }).exports.length = 1 ∧
      t.outcomes handoverEndpoint [{ path := "/work" }, { path := "/error" }, { path := "/work" }] =
        [t.outcome handoverEndpoint { path := "/work" },
          t.outcome handoverEndpoint { path := "/error" },
          t.outcome handoverEndpoint { path := "/work" }] ∧
      (t.outcomes handoverEndpoint [{ path := "/work" }, { path := "/error" }]).Perm
        (t.outcomes handoverEndpoint [{ path := "/error" }, { path := "/work" }]) := by
  have hexported : (start .instrumented {} handoverRoutes .recording).toOption.map
      (fun t => (t.outcome handoverEndpoint { path := "/work" }).exports.length) = some 1 := by
    decide +kernel
  cases hstart : start .instrumented {} handoverRoutes .recording with
  | error e =>
    rw [hstart] at hexported
    cases hexported
  | ok t =>
    rw [hstart] at hexported
    have hlocal : ∀ e, (handoverEndpoint e).IsLocal
      | true => HttpApp.ofSteps_isLocal rfl
      | false => HttpApp.ofHeld_isLocal rfl rfl
    have horder := fun (requests : List HttpRequest) (h : ∀ r ∈ requests, r.attributes = []) =>
      serving_order hstart (by decide) hlocal (fun r hr key id hmem => by
        rw [h r hr] at hmem
        exact absurd hmem List.not_mem_nil : ∀ r ∈ requests, r.BringsNoSpan)
    exact ⟨t, rfl, Option.some.inj hexported, (horder _ (by simp)).1,
      (horder _ (by simp)).2 _ (.swap ..)⟩

end ServiceSession

end SpanLifecycle
