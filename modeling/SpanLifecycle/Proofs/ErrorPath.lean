import SpanLifecycle.Proofs.Serving

/-!
# Error paths that cannot be dispatched to

The settings accept any error path that starts with a slash, and routes can be found for it; but to
serve a request on it, it has to be written as bytes, one for each character.  The main statement,
`dispatched_iff_encodable`, says what becomes of a failed request by whether that can be done: if it
cannot, there is no error pass, and the span that was left to it is never finalized.
-/

namespace SpanLifecycle

namespace HttpApp

variable {app : HttpApp} {c errorPath : String} {s : HttpScope} {w : World}

/-- Whatever the first pass over a failed request leaves of its span, the error pass finalizes
it. -/
theorem error_pass_finalizes {rawPath : List UInt8} (h : app.IsOrderly) (hs : s.error = none)
    (hpath : Latin1.encode errorPath = .ok rawPath) (hw : w.IsWorking)
    (hm : (w.attributes s.request).IsUntraced) (ho : s.outermost = none)
    (hknown : ∀ b, (w.coordinator c).known = some b → s.serves errorPath = .ok b)
    (hr : IsRedispatched errorPath (app.traced c errorPath s (w.openRequest s.request))) :
    ((app.instrumented c errorPath s w).world.span w.spans.length).state = .finalized := by
  obtain ⟨-, calls, exports, -, hlength, hfailures, -, -, hfirst⟩ :=
    traced_first (s := s) (w := w.openRequest s.request) c errorPath h hw
      (by rw [World.attributes_openRequest]; exact hm) ho hknown
  obtain ⟨failure, final, exported, hm', hf, hu⟩ := hfirst.awaits hr
  obtain ⟨_, _, -, -, -, hdone, hlate⟩ := instrumented_again (c := c) (w := w) h hs hpath hr
    (fun v => by rw [hfailures]; exact hw v) (by rw [hlength]; exact Nat.lt_succ_self _) hm'
    (fun hn => (hu hn).state)
  cases final with
  | true =>
    obtain ⟨-, -, hspan⟩ := hdone rfl
    exact (congrArg Span.state hspan).trans (hf rfl).state
  | false =>
    obtain ⟨exported, hreported⟩ := hlate rfl
    exact hreported.state

/-- What becomes of a request that failed before its response was started, for an application that
serves the error path.  If the path can be written as bytes, the application is called once more, on
that path and with the mark of the error pass, and its end is the request's.  Otherwise it is not:
the failure to write the path takes the place of the request's, and the span of a traced application
stays as the first pass left it. -/
theorem dispatched_iff_encodable (inner : HttpApp) (errorPath : String) (s : HttpScope) (w : World)
    {e : Fault} (hs : s.error = none) (hf : (inner s (w.openRequest s.request)).failure? = some e)
    (hserves : (inner s (w.openRequest s.request)).scope.serves errorPath = .ok true) :
    let first := inner s (w.openRequest s.request)
    let logged := first.world.log redispatchLogger (redispatchEvent first.scope errorPath e)
    let done := inner.redispatching errorPath s w
    let encodable := ∀ ch ∈ errorPath.toList, Latin1.fits ch = true
    (encodable → ∃ rawPath,
      let last := inner (first.scope.toErrorPass errorPath rawPath e) logged
      done = { last with scope := first.scope, sent := first.sent ++ last.sent }) ∧
    (¬ encodable → ∃ refusal, refusal.kind = .unicodeEncode ∧
      done = { first with world := logged, raised := some refusal }) ∧
    ∀ {app : HttpApp} {c : String}, inner = app.traced c errorPath → app.IsOrderly →
      w.IsWorking → (w.attributes s.request).IsUntraced → s.outermost = none →
      (∀ b, (w.coordinator c).known = some b → s.serves errorPath = .ok b) →
      ((done.world.span w.spans.length).state = .finalized ↔
        encodable ∨ (first.world.span w.spans.length).state = .finalized) := by
  intro first logged done encodable
  have hdone : done = again errorPath inner first e := redispatching_failed hs hf hserves
  have hcannot : ¬ encodable → ∃ refusal, refusal.kind = .unicodeEncode ∧
      done = { first with world := logged, raised := some refusal } := by
    intro h
    obtain ⟨refusal, hpath, hkind⟩ := Latin1.encode_error h
    exact ⟨refusal, hkind, hdone.trans (again_unencodable hpath first e)⟩
  refine ⟨fun h => ⟨_, hdone.trans (again_encodable (Latin1.encode_ok h) first e)⟩, hcannot, ?_⟩
  intro app c hinner happ hw hm ho hknown
  by_cases h : encodable
  · have hr : IsRedispatched errorPath (app.traced c errorPath s (w.openRequest s.request)) := by
      rw [← hinner]
      exact ⟨e, hf, hserves⟩
    have hfinal := error_pass_finalizes happ hs (Latin1.encode_ok h) hw hm ho hknown hr
    unfold instrumented at hfinal
    rw [← hinner] at hfinal
    exact ⟨fun _ => .inl h, fun _ => hfinal⟩
  · obtain ⟨refusal, -, hlast⟩ := hcannot h
    have hspan : done.world.span w.spans.length = first.world.span w.spans.length := by
      rw [hlast]
      exact (Becomes.log s.request w.spans.length first.world _ _).itsSpan
    rw [hspan]
    exact ⟨.inr, fun h' => h'.resolve_left h⟩

/-- The headers of a request that continues a trace. -/
def continuing : List (String × String) :=
  [("traceparent", "00-0af7651916cd43dd8448eb211c80319c-b7ad6b7169203331-01")]

theorem failingOnce_isOrderly : failingOnce.IsOrderly := by
  intro s w
  unfold failingOnce
  cases s.error with
  | none => exact ⟨World.Spares.refl w, rfl, fun _ => rfl, fun _ => rfl⟩
  | some mark => exact HttpEnd.response_isOrderly s (World.Spares.refl w) rfl rfl

/-- A request that continues a trace, to an application that serves no path but its error page. -/
def continuingScope : HttpScope := { doomedScope with headers := continuing }

theorem abandoned_finalized :
    let traced := failingOnce.traced "c" "/error"
    let first := traced continuingScope (({} : World).openRequest continuingScope.request)
    (first.world.span 0).state = .abandoned ∧
      ((traced.redispatching "/error" continuingScope {}).world.span 0).state = .finalized := by
  have hfirst : (failingOnce.traced "c" "/error" continuingScope
      (({} : World).openRequest continuingScope.request)).failure? =
        some { kind := .valueError, message := some "boom" } := by
    decide +kernel
  have hserves : (failingOnce.traced "c" "/error" continuingScope
      (({} : World).openRequest continuingScope.request)).scope.serves "/error" = .ok true := by
    decide +kernel
  have hworking : ({} : World).IsWorking := fun verb => by cases verb <;> rfl
  have huntraced : (({} : World).attributes continuingScope.request).IsUntraced := fun _ => rfl
  have hencodable : ∀ ch ∈ "/error".toList, Latin1.fits ch = true :=
    List.all_eq_true.mp (by decide)
  have h := (dispatched_iff_encodable _ "/error" continuingScope {} rfl hfirst hserves).2.2 rfl
    failingOnce_isOrderly hworking huntraced rfl nofun
  exact ⟨by decide +kernel, h.mpr (.inl hencodable)⟩

end HttpApp

/-- A service whose error page lies on a path that the settings accept and that has no bytes: its
routes serve the path, but no failed request gets there.  The client is told of the failure to write
the path, and the span stays abandoned. -/
theorem ServiceSession.checkmark_not_dispatched :
    Settings.readPath (.text "/✓") = .ok "/✓" ∧
    ((ServiceSession.start .complete { errorPath := "/✓" } demoRoutes .recording).toOption.map
      fun t =>
        let (reply, t') := t.serve demoEndpoint { path := "/boom", headers := HttpApp.continuing }
        ((hasRoute t.service.routes "/✓").toOption, reply.raised.map (·.kind),
          (t'.world.span 0).state)) =
      some (some true, some .unicodeEncode, .abandoned) := by
  decide +kernel

end SpanLifecycle
