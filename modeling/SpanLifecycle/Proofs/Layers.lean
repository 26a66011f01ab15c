import SpanLifecycle.Proofs.Current
import SpanLifecycle.Proofs.Passes
import SpanLifecycle.Proofs.Orderly
import SpanLifecycle.Proofs.Redispatch

/-!
# The layers around an application

Tracing makes one pass of each serving, and re-dispatching serves a failed request once more.  Both
ask what the application serves on the error path, independently: the pass asks its coordinator, the
dispatcher asks the scope that the failed serving left.  `traced_first` follows the first serving,
`traced_again` the second, and `redispatching_alone` and `redispatching_again` say when there is a
second one.

A traced application gives back the context that it was called in, however it ends, so that no
further layer has to (`instrumented_restores`, `Restores.isolated_eq`).
-/

namespace SpanLifecycle

theorem World.Spares.apart {w w' : World} (h : w.Spares w') (r : RequestName) (id : SpanId) :
    Apart r id w w' where
  exporting := h.exporting
  failures := h.failures
  length := Nat.le_of_eq (congrArg List.length h.spans.symm)
  span := by
    unfold World.span
    rw [h.spans]
  attributes := h.attributes r
  answer d := by
    unfold World.coordinator
    rw [h.coordinators]

/-- Two worlds have the same context: what is current, and the log fields. -/
structure World.SharesContext (w w' : World) : Prop where
  current : w'.current = w.current
  fields : w'.contextFields = w.contextFields

namespace World.SharesContext

theorem trans {w w' w'' : World} (h : w.SharesContext w') (g : w'.SharesContext w'') :
    w.SharesContext w'' := ⟨g.current.trans h.current, g.fields.trans h.fields⟩

theorem log (w : World) (logger : String) (e : LogEvent) :
    w.SharesContext (w.log logger e) := by
  obtain ⟨logs, rs, h⟩ := w.log_eq logger e
  rw [h]
  exact ⟨rfl, rfl⟩

end World.SharesContext

namespace HttpApp

variable {inner : HttpApp} (c errorPath : String) (s : HttpScope) (w : World)

/-! ## The chain of a pass -/

/-- What a pass sees of an orderly application: it fails as the application does, before a response
is started. -/
theorem chain_failure (h : inner.IsOrderly) (status : Int) :
    Pass.failureOf (inner.chain s status w).raised = (inner.isolated s w).failure? := by
  have hanswered := (isolated_isOrderly h s w).answered
  unfold chain HttpEnd.failure? Pass.failureOf
  dsimp only
  cases hs : (inner.isolated s w).started? with
  | some code => cases (inner.isolated s w).raised <;> rfl
  | none =>
    obtain ⟨e, he⟩ := Option.isSome_iff_exists.mp (hanswered hs)
    rw [he]
    rfl

theorem chain_reply (inner : HttpApp) (status : Int) :
    (inner.chain s status w).reply = inner.isolated s w ∧
      (inner.chain s status w).world = (inner.isolated s w).world := by
  unfold chain
  dsimp only
  split
  · exact ⟨rfl, rfl⟩
  · exact ⟨rfl, rfl⟩

/-! ## A serving as a pass -/

/-- The scope that the application inside the tracing is given. -/
def tracedScope : HttpScope := { s with coordinator := some c }

/-- The world in which the pass over a request begins. -/
def admitted : World :=
  { (appoint c errorPath s w).openRequest s.request with
    contextFields := Mapping.update w.contextFields
      [("path", .text s.exchange.path), ("method", .text s.exchange.method)] }

/-- The pass that a serving makes. -/
def passOver (inner : HttpApp) : ChainEnd (Option HttpEnd) :=
  s.exchange.handle c (inner.chain (tracedScope c s) s.exchange.status) (admitted c errorPath s w)

/-- How a serving ends, given the end of its pass. -/
def passed (s : HttpScope) (contextFields : LogRecord) (done : ChainEnd (Option HttpEnd)) :
    HttpEnd :=
  let scope := (done.reply.map (·.scope)).getD s
  let world := { done.world with contextFields }
  match done.raised, done.reply with
  | some e, _ => { world, scope, raised := some e }
  | none, none => { world, scope, raised := some .passWithoutResponse }
  | none, some reply => { reply with world }

theorem admitted_attributes (r : RequestName) :
    (admitted c errorPath s w).attributes r = w.attributes r :=
  (World.attributes_openRequest (appoint c errorPath s w) s.request r).trans rfl

theorem admitted_coordinator :
    (admitted c errorPath s w).coordinator c =
      { w.coordinator c with lookup := s.host errorPath } := by
  show (appoint c errorPath s w).coordinator c = _
  unfold appoint
  rw [World.coordinator_setCoordinator, if_pos rfl]

variable {c errorPath s w}

theorem traced_eq : inner.traced c errorPath s w =
    passed (tracedScope c s) w.contextFields (passOver c errorPath s w inner) := by
  show inner.tracedBy .tracing c errorPath s w = _
  unfold tracedBy passed
  rfl

theorem passed_world (contextFields : LogRecord) (done : ChainEnd (Option HttpEnd)) :
    (passed s contextFields done).world = { done.world with contextFields } := by
  unfold passed
  dsimp only
  split <;> rfl

/-- A serving whose chain ran leaves the scope as the application did, and fails as its pass did. -/
theorem passed_ends (contextFields : LogRecord) {done : ChainEnd (Option HttpEnd)}
    {reply : HttpEnd} (h : done.reply = some reply) :
    (passed s contextFields done).scope = reply.scope ∧
      (passed s contextFields done).failure? =
        done.raised.elim reply.failure? fun e => Pass.failureOf (some e) := by
  obtain ⟨world, status, _, raised⟩ := done
  cases h
  cases raised with
  | none => exact ⟨rfl, rfl⟩
  | some e => exact ⟨rfl, rfl⟩

/-- What a coordinator remembers is what the application serves, or else it asks. -/
theorem admitted_answer
    (h : ∀ b, (w.coordinator c).known = some b → s.host errorPath = .ok b) :
    ((admitted c errorPath s w).coordinator c).answer = s.host errorPath := by
  rw [admitted_coordinator]
  unfold Coordinator.answer
  dsimp only
  split
  · next b hb => exact (h b hb).symm
  · rfl

/-! ## The first serving -/

/-- The failure that a serving ended with is served once more, on the error page. -/
def IsRedispatched (errorPath : String) (done : HttpEnd) : Prop :=
  ∃ e, done.failure? = some e ∧ done.scope.serves errorPath = .ok true

/-- How a first serving leaves the span that it created: reported, with no further serving to come;
for a further serving to report, or reported before it; or open, as it cannot be told whether there
is an error page. -/
inductive FirstServing (errorPath : String) (serves : Except Fault Bool) (id : SpanId)
    (done : HttpEnd) (calls : List TracerCall) (exports : List ExportedSpan) : Prop where
  | reported (b : Bool) (cause : Option Attribute) (exported : Bool) (hs : serves = .ok b)
      (hr : ¬ IsRedispatched errorPath done)
      (h : ReportedOnce id cause exported (done.world.span id) calls exports)
  | handed (failure : Option Fault) (final exported : Bool) (hr : IsRedispatched errorPath done)
      (hm : AwaitsError id failure final (done.world.attributes done.scope.request))
      (hf : final = true →
        ReportedOnce id (failure.map .fault) exported (done.world.span id) calls exports)
      (hu : final = false → Unreported (done.world.span id) calls exports)
  | failed (failure : Option Fault) (e : Fault) (hs : serves = .error e)
      (hm : AwaitsError id failure false (done.world.attributes done.scope.request))
      (hu : Unreported (done.world.span id) calls exports)

/-- The pass that a first serving makes begins with a new span, and its chain runs the application. -/
theorem passOver_first (h : inner.IsOrderly) (hw : w.IsWorking)
    (hm : (w.attributes s.request).IsUntraced)
    (hknown : ∀ b, (w.coordinator c).known = some b → s.host errorPath = .ok b) :
    let pass := passOver c errorPath s w inner
    ∃ v served raised, s.exchange.Begins c (admitted c errorPath s w) v ∧
      HttpEnd.IsOrderly s v served ∧ pass.reply = some served ∧
      Pass.failureOf raised = served.failure? ∧
      Within s.request w.spans.length served.world pass.world ∧
      ∃ calls exports, Adds served.world pass.world calls exports ∧
        FirstPassEnd (s.host errorPath) raised s.request w.spans.length pass calls exports := by
  intro pass
  have hm₀ : ((admitted c errorPath s w).attributes s.request).IsUntraced := by
    rw [admitted_attributes]
    exact hm
  have hserved := fun v => isolated_isOrderly h (tracedScope c s) v
  have hend := fun v => chain_reply (tracedScope c s) v inner s.exchange.status
  have hc : ∀ v, Apart s.request w.spans.length v
      (inner.chain (tracedScope c s) s.exchange.status v).world := by
    intro v
    rw [(hend v).2]
    exact (hserved v).spares.apart s.request w.spans.length
  obtain ⟨v, hb, hreply, hwithin, -, calls, exports, hadds, hfirst⟩ :=
    Exchange.handle_first (x := s.exchange) (c := c) (w := admitted c errorPath s w)
      (inner.chain (tracedScope c s) s.exchange.status) hw hm₀ fun v _ => hc v
  rw [(hend v).1] at hreply
  rw [(hend v).2] at hadds hwithin
  rw [admitted_answer hknown] at hfirst
  exact ⟨v, inner.isolated (tracedScope c s) v, _, hb, (hserved v).of_scope rfl rfl, hreply,
    chain_failure (tracedScope c s) v h s.exchange.status, hwithin, calls, exports, hadds, hfirst⟩

/-- The first serving of a request creates one span. -/
theorem traced_first (c errorPath : String) (h : inner.IsOrderly) (hw : w.IsWorking)
    (hm : (w.attributes s.request).IsUntraced) (ho : s.outermost = none)
    (hknown : ∀ b, (w.coordinator c).known = some b → s.serves errorPath = .ok b) :
    let done := inner.traced c errorPath s w
    let id := w.spans.length
    ∃ name calls exports, Adds w done.world (.created id name :: calls) exports ∧
      done.world.spans.length = id + 1 ∧ done.world.failures = w.failures ∧
      (done.world.coordinator c).answer = s.serves errorPath ∧
      done.scope.request = s.request ∧
      FirstServing errorPath (s.serves errorPath) id done calls exports := by
  intro done id
  have hdone : done = passed (tracedScope c s) w.contextFields (passOver c errorPath s w inner) :=
    traced_eq
  have hhost : s.host = s.serves := by
    unfold HttpScope.host
    rw [ho]
    rfl
  rw [← hhost] at hknown ⊢
  have hanswer := admitted_answer hknown
  obtain ⟨v, served, raised, hb, hserved, hreply, hfailure, hwithin, calls, exports, hadds,
    hfirst⟩ := passOver_first h hw hm hknown
  generalize passOver c errorPath s w inner = pass at *
  obtain ⟨hscope, hfails⟩ := passed_ends (s := tracedScope c s) w.contextFields hreply
  have hworld := passed_world (s := tracedScope c s) w.contextFields pass
  rw [← hdone] at hscope hfails hworld
  refine ⟨((admitted c errorPath s w).coordinator c).stem ++ ":" ++ s.exchange.path, calls,
    exports, ⟨?_, ?_⟩, ?_, ?_, ?_, ?_, ?_⟩
  · rw [hworld]
    refine hadds.calls.trans ?_
    rw [hserved.spares.calls, hb.calls, List.append_assoc]
    rfl
  · rw [hworld]
    refine hadds.exports.trans ?_
    rw [hserved.spares.exports, hb.exports]
    rfl
  · rw [hworld]
    refine hwithin.length.trans ?_
    rw [hserved.spares.spans, hb.length]
    rfl
  · rw [hworld]
    refine hwithin.failures.trans ?_
    rw [hserved.spares.failures, hb.failures]
    rfl
  · rw [hworld]
    refine (hwithin.answer c).trans ?_
    rw [(hserved.spares.apart s.request id).answer, hb.answer]
    exact hanswer
  · rw [hscope]
    exact hserved.request
  · have hspan : done.world.span id = pass.world.span id := by
      rw [hworld]
      rfl
    have hattributes : done.world.attributes done.scope.request =
        pass.world.attributes s.request := by
      rw [hworld, hscope, hserved.request]
      rfl
    have hsame : pass.raised = raised → done.failure? = served.failure? := by
      intro hr
      rw [hfails, hr]
      cases raised with
      | none => rfl
      | some e => exact hfailure
    cases hfirst with
    | reported b exported ha hr hx hreported =>
      refine .reported b _ exported ha ?_ (by rw [hspan]; exact hreported)
      rintro ⟨e, he, hs⟩
      rw [hsame hr] at he
      rw [hscope, hserved.serves (by rw [he]; rfl), ← hhost, ha] at hs
      cases hs
      rw [hfailure, he] at hx
      cases hx
    | handed e final exported ha hr hx hm hf hu =>
      have he : served.failure? = some e := hfailure.symm.trans hx
      refine .handed (some e) final exported ⟨e, (hsame hr).trans he, ?_⟩ ?_ ?_ ?_
      · rw [hscope, hserved.serves (by rw [he]; rfl), ← hhost]
        exact ha
      · rw [hattributes]
        exact hm
      · rw [hspan]
        exact hf
      · rw [hspan]
        exact hu
    | failed e ha hr hm hu =>
      exact .failed _ e ha (by rw [hattributes]; exact hm) (by rw [hspan]; exact hu)

/-! ## The error pass -/

/-- A serving that is about a failure creates no span, and reports the one that the request brings
along, unless it was finalized before. -/
theorem traced_again (c errorPath : String) (h : inner.IsOrderly) {id : SpanId}
    {failure : Option Fault} {final : Bool}
    (hs : isSuccessfulStatus s.exchange.status = false) (hw : w.IsWorking)
    (hid : id < w.spans.length) (hm : AwaitsError id failure final (w.attributes s.request))
    (hopen : final = false → (w.span id).state ≠ .finalized) :
    let done := inner.traced c errorPath s w
    ∃ calls exports, Adds w done.world calls exports ∧
      done.world.spans.length = w.spans.length ∧ done.world.failures = w.failures ∧
      (done.world.coordinator c).known = (w.coordinator c).known ∧
      (final = true → calls = [] ∧ exports = [] ∧ done.world.span id = w.span id) ∧
      (final = false → ∃ exported,
        ReportedOnce id (failure.map .fault) exported (done.world.span id) calls exports) := by
  intro done
  have hm₀ : AwaitsError id failure final
      ((admitted c errorPath s w).attributes s.exchange.request) := by
    rw [show s.exchange.request = s.request from rfl, admitted_attributes]
    exact hm
  obtain ⟨v, scope, -, hcoordinators, hb, hrun⟩ :=
    Exchange.handle_resumes (x := s.exchange) (c := c) hm₀.active
  have hserved := isolated_isOrderly h (tracedScope c s) v
  have hchain := (chain_reply (tracedScope c s) v inner s.exchange.status).2
  have hpass : passOver c errorPath s w inner =
      Pass.runError s.exchange id scope (inner.chain (tracedScope c s) s.exchange.status) v :=
    hrun hs _
  have hworld : done.world =
      { (passOver c errorPath s w inner).world with contextFields := w.contextFields } := by
    rw [← passed_world (s := tracedScope c s), ← traced_eq]
  have hb := hb id
  have hspare := hserved.spares
  rw [← hchain] at hspare
  have hknown := Pass.runError_coordinators s.exchange id scope
    (inner.chain (tracedScope c s) s.exchange.status) v
  obtain ⟨hwithin, -, calls, exports, hadds, hdone, hlate⟩ := error_reports (x := s.exchange)
    scope (inner.chain (tracedScope c s) s.exchange.status) (hb.isWorking hw)
    (by rw [hb.length]; exact hid)
    (by rw [hb.itsAttributes]; exact hm₀.markSpanContinued)
    (by rw [hb.itsSpan]; exact hopen) (hspare.apart _ id)
  rw [← hpass] at hwithin hadds hdone hlate hknown
  rw [hspare.coordinators, hcoordinators] at hknown
  generalize passOver c errorPath s w inner = pass at *
  rw [hworld]
  refine ⟨calls, exports, ⟨?_, ?_⟩, ?_, ?_, ?_, ?_, ?_⟩
  · refine hadds.calls.trans ?_
    rw [hspare.calls, hb.calls, List.append_nil]
    rfl
  · refine hadds.exports.trans ?_
    rw [hspare.exports, hb.exports, List.append_nil]
    rfl
  · refine hwithin.length.trans ?_
    rw [hspare.spans, hb.length]
    rfl
  · refine hwithin.failures.trans ?_
    rw [hspare.failures, hb.failures]
    rfl
  · show (pass.world.coordinator c).known = _
    unfold World.coordinator at *
    rw [hknown]
    have hadmitted := admitted_coordinator c errorPath s w
    unfold World.coordinator at hadmitted
    rw [hadmitted]
  · intro hf
    obtain ⟨h₁, h₂, h₃⟩ := hdone hf
    exact ⟨h₁, h₂, h₃.trans hb.itsSpan⟩
  · intro hf
    exact ⟨_, hlate hf⟩

/-! ## Serving once more -/

/-- Without a re-dispatch, nothing comes after the first serving. -/
theorem redispatching_alone {s : HttpScope} (he : s.error = none)
    (h : ¬ IsRedispatched errorPath (inner s (w.openRequest s.request))) :
    (inner.redispatching errorPath s w).world = (inner s (w.openRequest s.request)).world := by
  unfold redispatching
  rw [he]
  generalize inner s (w.openRequest s.request) = done at h ⊢
  dsimp only
  cases hf : done.failure? with
  | none => rfl
  | some e =>
    cases hs : done.scope.serves errorPath with
    | error e => rfl
    | ok b =>
      cases b with
      | false => rfl
      | true => exact absurd ⟨e, hf, hs⟩ h

/-- A re-dispatch is a serving in the scope of the error pass. -/
theorem redispatching_again (inner : HttpApp) {s : HttpScope} {rawPath : List UInt8}
    (he : s.error = none)
    (hpath : Latin1.encode errorPath = .ok rawPath)
    (h : IsRedispatched errorPath (inner s (w.openRequest s.request))) :
    let done := inner s (w.openRequest s.request)
    ∃ e event, (inner.redispatching errorPath s w).world =
      (inner (done.scope.toErrorPass errorPath rawPath e)
        (done.world.log redispatchLogger event)).world := by
  intro done
  obtain ⟨e, hf, hs⟩ := h
  refine ⟨e, redispatchEvent done.scope errorPath e, ?_⟩
  rw [redispatching_failed he hf hs, again_encodable hpath]

/-! ## The context of a call -/

/-- An application that gives back the context it was called in: what is current, and the log
fields. -/
def Restores (app : HttpApp) : Prop := ∀ s (w : World), w.SharesContext (app s w).world

/-- There is nothing to undo for a layer that isolates it. -/
theorem Restores.isolated_eq (h : inner.Restores) : inner.isolated = inner := by
  funext s w
  obtain ⟨hcurrent, hfields⟩ := h s w
  unfold isolated
  generalize inner s w = done at *
  rw [← hcurrent, ← hfields]

/-- A traced application does, as a pass gives back what was current, and its layer the log
fields. -/
theorem traced_restores (c errorPath : String) (inner : HttpApp) :
    (inner.traced c errorPath).Restores := by
  intro s w
  have hpass : (passOver c errorPath s w inner).world.current = w.current := by
    unfold passOver
    rcases s.exchange.handle_ways c (inner.chain (tracedScope c s) s.exchange.status)
      (admitted c errorPath s w) with h | ⟨id, h⟩ | h
    · rw [h]
      exact Pass.first_current ..
    · rw [h]
      exact Pass.continued_current ..
    · rw [h]
      rfl
  rw [traced_eq, passed_world]
  exact ⟨hpass, rfl⟩

theorem redispatching_restores (h : inner.Restores) : (inner.redispatching errorPath).Restores := by
  intro s w
  have hfirst : w.SharesContext (inner.firstCall s w).done.world := by
    refine World.SharesContext.trans ?_ (h s _)
    split <;> exact ⟨rfl, rfl⟩
  rw [redispatching_eq]
  generalize (inner.firstCall s w).done = first at hfirst
  unfold followUp
  split
  · exact hfirst
  · split
    · exact hfirst
    · next e _ =>
      have hlog := hfirst.trans (.log first.world redispatchLogger
        (redispatchEvent first.scope errorPath e))
      split
      · exact hfirst
      · exact hfirst
      · unfold again
        dsimp only
        split
        · exact hlog
        · exact hlog.trans (h _ _)

theorem instrumented_restores (c errorPath : String) (inner : HttpApp) :
    (inner.instrumented c errorPath).Restores :=
  redispatching_restores (traced_restores c errorPath inner)

theorem answeringFailures_restores (h : inner.Restores) : inner.answeringFailures.Restores := by
  intro s w
  rw [(answeringFailures_same inner s w).1]
  exact h s w

end HttpApp

end SpanLifecycle
