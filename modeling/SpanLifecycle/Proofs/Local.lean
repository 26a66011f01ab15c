import SpanLifecycle.Proofs.AlikePasses
import SpanLifecycle.Proofs.Layers

/-!
# Applications that keep to their own request

A local application comes to the same in worlds that are alike: it sends the same messages up to
ids, raises the same exception, and leaves worlds that are alike.  So it touches nothing but its own
request's trace state, and sees nothing else either.

Tables of routes are local if their endpoints are (`dispatch_isLocal`).  The tracing and the
re-dispatching of a local application come to the same in worlds that are alike, once the host
application is known to the coordinator in both (`instrumented_alike`): the answer that the crowded
world remembers is the one that the other world has yet to ask for.
-/

namespace SpanLifecycle

/-- Two servings have come to the same, each in its own world, and the host is the same still. -/
structure Offset.ServesAlike (o : Offset) (host : String → Except Fault Bool)
    (d d₀ : HttpEnd) : Prop where
  world : o.Alike d.world d₀.world
  scope : d.scope = { d₀.scope with request := o.here }
  request : d₀.scope.request = o.alone
  host : d₀.scope.host = host
  sent : d.sent.map Message.anonymous = d₀.sent.map Message.anonymous
  raised : d.raised = d₀.raised

/-- An application that touches and sees nothing but its own request, wherever that is served. -/
def HttpApp.IsLocal (app : HttpApp) : Prop :=
  ∀ (o : Offset) (s : HttpScope) (w w₀ : World), o.Alike w w₀ →
    o.ServesAlike s.host (app { s with request := o.here } w) (app { s with request := o.alone } w₀)

variable {o : Offset} {s : HttpScope} {w w₀ : World}

namespace Offset.ServesAlike

variable {host : String → Except Fault Bool} {d d₀ : HttpEnd}

theorem started (h : o.ServesAlike host d d₀) : d.started? = d₀.started? := by
  unfold HttpEnd.started?
  rw [← Message.statuses_anonymous d.sent, h.sent, Message.statuses_anonymous]

theorem failure (h : o.ServesAlike host d d₀) : d.failure? = d₀.failure? := by
  unfold HttpEnd.failure?
  rw [h.raised, h.started]

theorem forget {labels : List String}
    (h : { o with labels : Offset }.ServesAlike host d d₀)
    (hl : ∀ label ∈ o.labels, label ∈ labels) : o.ServesAlike host d d₀ :=
  { h with world := h.world.forget hl }

/-- A serving that adds nothing of its own to the scope. -/
theorem of_sent (h : o.Alike w w₀) (sent : List Message) (raised : Option Fault) :
    o.ServesAlike s.host { world := w, scope := { s with request := o.here }, sent, raised }
      { world := w₀, scope := { s with request := o.alone }, sent, raised } :=
  ⟨h, rfl, rfl, rfl, rfl, rfl⟩

end Offset.ServesAlike

/-! ## Routes -/

theorem Refusal.respond_isLocal (r : Refusal) : r.respond.IsLocal := by
  intro o s w w₀ h
  unfold respond
  dsimp only
  split
  · exact .of_sent h _ none
  · exact .of_sent h [] _

namespace HttpApp

variable {inner : HttpApp} {s s₀ : HttpScope} {host : String → Except Fault Bool}

theorem answeringFailures_alike (hd : o.ServesAlike host (inner s w) (inner s₀ w₀)) :
    o.ServesAlike host (inner.answeringFailures s w) (inner.answeringFailures s₀ w₀) := by
  unfold answeringFailures
  dsimp only
  rw [hd.failure]
  split
  · exact hd
  · refine { hd with sent := ?_ }
    rw [List.map_append, List.map_append, hd.sent]

theorem isolated_alike (hc : w.current = w₀.current.map (o.spans + ·))
    (hd : o.ServesAlike host (inner s w) (inner s₀ w₀)) :
    o.ServesAlike host (inner.isolated s w) (inner.isolated s₀ w₀) :=
  { hd with world := { hd.world with current := hc } }

theorem answeringFailures_isLocal (hi : inner.IsLocal) : inner.answeringFailures.IsLocal :=
  fun o s w w₀ h => answeringFailures_alike (hi o s w w₀ h)

theorem isolated_isLocal (hi : inner.IsLocal) : inner.isolated.IsLocal :=
  fun o s w w₀ h => isolated_alike h.current (hi o s w w₀ h)

end HttpApp

namespace Route

variable {ε : Type}

theorem failing_isLocal (e : Fault) : (failing e).IsLocal :=
  fun _ _ _ _ h => .of_sent h [] (some e)

/-! Which request a scope is about makes no difference to routing. -/

theorem routePath_about (s : HttpScope) (r : RequestName) :
    HttpScope.routePath { s with request := r } = s.routePath := rfl

theorem fit_about (route : Route ε) (s : HttpScope) (r : RequestName) :
    route.fit { s with request := r } = route.fit s := rfl

theorem found_about (route : Route ε) (s : HttpScope) (r : RequestName) :
    route.found { s with request := r } = { route.found s with request := r } := by
  cases route <;> rfl

theorem isForOtherMethod_about (s : HttpScope) (r : RequestName) :
    isForOtherMethod { s with request := r } = isForOtherMethod (ε := ε) s := rfl

theorem toggled_about (s : HttpScope) (r : RequestName) :
    (HttpScope.toggled { s with request := r }).routePath = s.toggled.routePath := rfl

theorem answerUnrouted_isLocal (routes : List (Route ε)) : (answerUnrouted routes).IsLocal := by
  intro o s w w₀ h
  unfold answerUnrouted
  rw [isForOtherMethod_about s o.here, isForOtherMethod_about s o.alone, routePath_about s o.here,
    routePath_about s o.alone, toggled_about s o.here, toggled_about s o.alone]
  split
  · next route _ =>
    rw [found_about route s o.here, found_about route s o.alone]
    exact Refusal.methodNotAllowed.respond_isLocal o (route.found s) w w₀ h
  · split
    · exact Refusal.notFound.respond_isLocal o s w w₀ h
    · split
      · exact failing_isLocal _ o s w w₀ h
      · exact .of_sent h _ none
      · exact Refusal.notFound.respond_isLocal o s w w₀ h

/-! ### Tables of routes -/

variable {serve : ε → HttpApp}

/-- Two ways of looking for the first route that answers: both find one, or neither does. -/
def FoundAlike (o : Offset) (s : HttpScope) (d d₀ : Option HttpEnd) : Prop :=
  Option.Rel (o.ServesAlike s.host) d d₀

/-- A table answers alike, by the route found or as one that has none. -/
theorem dispatch_found {routes : List (Route ε)} (h : o.Alike w w₀)
    (hd : FoundAlike o s (answerFirst serve routes { s with request := o.here } w)
      (answerFirst serve routes { s with request := o.alone } w₀)) :
    o.ServesAlike s.host (dispatch serve routes { s with request := o.here } w)
      (dispatch serve routes { s with request := o.alone } w₀) := by
  unfold dispatch
  generalize answerFirst serve routes { s with request := o.here } w = d at hd
  generalize answerFirst serve routes { s with request := o.alone } w₀ = d₀ at hd
  cases hd with
  | some hd => exact hd
  | none => exact answerUnrouted_isLocal routes o s w w₀ h

-- Along the routes and the mounted tables: a mount serves its table by the same search.
mutual

theorem answer_isLocal (hs : ∀ body, (serve body).IsLocal) :
    ∀ r : Route ε, (r.answer serve).IsLocal
  | endpoint path pattern methods body => by
    intro o s w w₀ h
    unfold answer
    exact hs body o ((endpoint path pattern methods body).found s) w w₀ h
  | mount path pattern wording routes => by
    intro o s w w₀ h
    unfold answer
    rw [routePath_about s o.here, routePath_about s o.alone]
    split
    · exact failing_isLocal _ o s w w₀ h
    · exact Refusal.notFound.respond_isLocal o s w w₀ h
    · next taken _ =>
      have hinner : (dispatch serve routes).IsLocal := fun o s w w₀ h =>
        dispatch_found h (answerFirst_isLocal hs routes o s w w₀ h)
      exact HttpApp.answeringFailures_isLocal hinner o
        (((mount path pattern wording routes).found s).enter taken wording routes) w w₀ h
  | webSocket path pattern => by
    intro o s w w₀ h
    unfold answer
    exact Refusal.notFound.respond_isLocal o s w w₀ h
  | broken e => by
    intro o s w w₀ h
    unfold answer
    exact failing_isLocal e o s w w₀ h

theorem answerFirst_isLocal (hs : ∀ body, (serve body).IsLocal) :
    ∀ (routes : List (Route ε)) (o : Offset) (s : HttpScope) (w w₀ : World), o.Alike w w₀ →
      FoundAlike o s (answerFirst serve routes { s with request := o.here } w)
        (answerFirst serve routes { s with request := o.alone } w₀)
  | [], o, s, w, w₀, _ => by
    unfold answerFirst
    exact .none
  | r :: rest, o, s, w, w₀, h => by
    unfold answerFirst
    rw [fit_about r s o.here, fit_about r s o.alone]
    split
    · exact .some (failing_isLocal _ o s w w₀ h)
    · exact .some (answer_isLocal hs r o s w w₀ h)
    · exact answerFirst_isLocal hs rest o s w w₀ h
    · exact answerFirst_isLocal hs rest o s w w₀ h

end

theorem dispatch_isLocal (hs : ∀ body, (serve body).IsLocal) (routes : List (Route ε)) :
    (dispatch serve routes).IsLocal :=
  fun o s w w₀ h => dispatch_found h (answerFirst_isLocal hs routes o s w w₀ h)

end Route

/-! ## Services -/

theorem Page.errorApp_isLocal : errorApp.IsLocal := by
  intro o s w w₀ h
  have hopen := h.openRequest o.here o.alone
  have hpending := hopen.present? .pendingException
  have hbody : errorBody { s with request := o.here } ((w.openRequest o.here).attributes o.here) =
      errorBody { s with request := o.alone } ((w₀.openRequest o.alone).attributes o.alone) := by
    unfold errorBody
    dsimp only [Attributes.pendingException]
    rw [hpending]
    cases Attribute.present?
        (((w₀.openRequest o.alone).attributes o.alone).at? .pendingException) with
    | none => rfl
    | some a =>
      show Value.object [_, ("error", .text (a.shift o.spans).kindName), _] = _
      rw [a.shift_kindName]
      rfl
  unfold errorApp
  dsimp only
  rw [hbody]
  exact .of_sent hopen _ none

theorem Page.app_isLocal {ε : Type} {serve : ε → HttpApp} (hs : ∀ e, (serve e).IsLocal) :
    ∀ page : Page ε, (page.app serve).IsLocal
  | documentation => fun _ _ _ _ h => .of_sent h _ none
  | health => fun _ _ _ _ h => .of_sent h _ none
  | errors => errorApp_isLocal
  | own e => hs e

theorem Service.router_isLocal {ε : Type} {serve : ε → HttpApp} (hs : ∀ e, (serve e).IsLocal)
    (v : Service ε) : (v.router serve).IsLocal :=
  Route.dispatch_isLocal (Page.app_isLocal hs) v.routes

/-! ## Layers -/

namespace HttpApp

variable {inner : HttpApp} {c errorPath : String}

theorem chain_alike (hi : inner.IsLocal) (h : o.Alike w w₀) (status : Int) :
    o.EndsAlike (o.ServesAlike s.host) (inner.chain { s with request := o.here } status w)
      (inner.chain { s with request := o.alone } status w₀) := by
  have hd := isolated_isLocal hi o s w w₀ h
  unfold chain
  dsimp only
  rw [hd.started, hd.raised]
  split
  · exact ⟨hd.world, rfl, hd, rfl⟩
  · exact ⟨hd.world, rfl, hd, rfl⟩

/-- A pass over a local application, once the coordinator knows the host in both worlds. -/
theorem traced_alike (hi : inner.IsLocal)
    (h : o.Alike (appoint c errorPath s w) (appoint c errorPath s w₀)) :
    o.ServesAlike s.host (inner.traced c errorPath { s with request := o.here } w)
      (inner.traced c errorPath { s with request := o.alone } w₀) := by
  have hopen := h.openRequest o.here o.alone
  have hadmitted : o.Alike (admitted c errorPath { s with request := o.here } w)
      (admitted c errorPath { s with request := o.alone } w₀) := { hopen with }
  have hpass := Exchange.handle_alike hadmitted c s.exchange fun v v₀ hv =>
    chain_alike (s := tracedScope c s) hi hv s.exchange.status
  rw [traced_eq, traced_eq]
  change o.ServesAlike s.host (passed { tracedScope c s with request := o.here } _ _)
    (passed { tracedScope c s with request := o.alone } _ _)
  change o.EndsAlike _ (passOver c errorPath { s with request := o.here } w inner)
    (passOver c errorPath { s with request := o.alone } w₀ inner) at hpass
  generalize passOver c errorPath { s with request := o.here } w inner = pass at hpass ⊢
  generalize passOver c errorPath { s with request := o.alone } w₀ inner = pass₀ at hpass ⊢
  obtain ⟨v, status, reply, raised⟩ := pass
  obtain ⟨v₀, status₀, reply₀, raised₀⟩ := pass₀
  obtain ⟨hworld, hstatus, hreply, hraised⟩ := hpass
  subst hraised
  have hv : o.Alike { v with contextFields := w.contextFields }
      { v₀ with contextFields := w₀.contextFields } := { hworld with }
  unfold passed
  dsimp only
  cases hreply with
  | none =>
    cases raised with
    | none => exact .of_sent (s := tracedScope c s) hv [] _
    | some e => exact .of_sent (s := tracedScope c s) hv [] _
  | @some d d₀ hd =>
    cases raised with
    | none => exact { hd with world := hv }
    | some e => exact { hd with world := hv, sent := rfl, raised := rfl }

/-- To a coordinator that remembers the host's answer, or has yet to ask for it, the host is no
news. -/
theorem appoint_becomes (hs : s.host errorPath = (w.coordinator c).answer) (r : RequestName)
    (id : SpanId) : Becomes r id w (appoint c errorPath s w)
      { span := w.span id, attributes := w.attributes r } := by
  refine Becomes.setCoordinator r id w c _ rfl ?_
  unfold Coordinator.answer at hs ⊢
  dsimp only
  split
  · rfl
  · next hk =>
    rw [hk] at hs
    exact hs

theorem appoint_alike (h : o.Alike w w₀) (hs : s.host errorPath = o.setting.answer c) :
    o.Alike (appoint c errorPath s w) (appoint c errorPath s w₀) :=
  (h.of_becomes (appoint_becomes (hs.trans (h.answer_eq c).symm)) rfl).of_becomes₀
    (appoint_becomes (hs.trans (h.answer_eq₀ c).symm)) rfl

theorem toErrorPass_about (s : HttpScope) (path : String) (rawPath : List UInt8) (e : Fault)
    (r : RequestName) : { s.toErrorPass path rawPath e with request := r } =
      HttpScope.toErrorPass { s with request := r } path rawPath e := rfl

/-- The second serving of a request. -/
theorem again_alike (hi : inner.IsLocal) {d d₀ : HttpEnd} (hd : o.ServesAlike s.host d d₀)
    (hs : s.host errorPath = o.setting.answer c) (e : Fault) :
    o.ServesAlike s.host (again errorPath (inner.traced c errorPath) d e)
      (again errorPath (inner.traced c errorPath) d₀ e) := by
  obtain ⟨w, scope, sent, raised⟩ := d
  obtain ⟨w₀, scope₀, sent₀, raised₀⟩ := d₀
  obtain ⟨hw, hscope, hrequest, hhost, hsent, hraised⟩ := hd
  dsimp only at hscope hrequest hhost hsent hraised
  have hlogged := hw.log redispatchLogger redispatchLogger (redispatchEvent scope errorPath e)
    (redispatchEvent scope₀ errorPath e)
  unfold again
  dsimp only
  split
  · exact ⟨hlogged, hscope, hrequest, hhost, hsent, rfl⟩
  · next rawPath _ =>
    -- the failed serving may have told the coordinator the answer, which is the host's all the same
    have hanswer : (scope₀.toErrorPass errorPath rawPath e).host errorPath = o.setting.answer c :=
      (congrFun hhost errorPath).trans hs
    have hagain := traced_alike hi (appoint_alike hlogged hanswer)
    have hsame : { scope₀ with request := o.alone } = scope₀ := by rw [← hrequest]
    rw [toErrorPass_about scope₀ _ _ _ o.here, toErrorPass_about scope₀ _ _ _ o.alone, hsame,
      ← hscope] at hagain
    refine ⟨hagain.world, hscope, hrequest, hhost, ?_, hagain.raised⟩
    rw [List.map_append, List.map_append, hsent, hagain.sent]

/-- The tracing and the re-dispatching of a local application, once the coordinator knows the host
in both worlds. -/
theorem instrumented_alike (hi : inner.IsLocal) (hs : s.host errorPath = o.setting.answer c)
    (h : o.Alike (appoint c errorPath s w) (appoint c errorPath s w₀)) :
    o.ServesAlike s.host (inner.instrumented c errorPath { s with request := o.here } w)
      (inner.instrumented c errorPath { s with request := o.alone } w₀) := by
  unfold instrumented redispatching
  dsimp only
  split
  · exact traced_alike hi h
  · have hopened : o.Alike (appoint c errorPath s (w.openRequest o.here))
        (appoint c errorPath s (w₀.openRequest o.alone)) := h.openRequest o.here o.alone
    have hd := traced_alike hi hopened
    generalize inner.traced c errorPath { s with request := o.here } (w.openRequest o.here) = d
      at hd ⊢
    generalize inner.traced c errorPath { s with request := o.alone } (w₀.openRequest o.alone) = d₀
      at hd ⊢
    have hserves : d.scope.serves = d₀.scope.serves := by rw [hd.scope]
    rw [hd.failure, hserves]
    split
    · exact hd
    · next e _ =>
      split
      · exact { hd with raised := rfl }
      · exact hd
      · exact again_alike hi hd hs e

end HttpApp

end SpanLifecycle
