import SpanLifecycle.Proofs.Settlement

/-!
# The two passes over a request

A pass over a request without a span gives it one (`Begins`), runs the chain and settles the span;
an error pass over a request that brings its span along runs the chain and concludes.  Both are
stated about the world in which the chain starts and the world in which it ends, whatever the chain
does in between: `handle_begins` and `runNormal_settles`, `handle_resumes` and `error_reports`.
`handle_first` puts a whole first pass together, and `FirstPassEnd` lists the ways in which it ends.
-/

namespace SpanLifecycle

/-- The attributes of a request that was just given its span. -/
def openingAttributes (id : SpanId) (root : Bool) (m : Attributes) : Attributes :=
  let m := m.setActiveSpan (.span id)
  if root then m.raiseFlag .spanWithoutParent else m

/-- To the world a new span was added, the active span of the exchange's request, and nothing else
has changed beyond what is current, the counters and the log. -/
structure Exchange.Begins (x : Exchange) (c : String) (w v : World) : Prop where
  span : Tracer.IsNew w.backend (SpanContext.ofHeaders? x.headers) (v.span w.spans.length)
  length : v.spans.length = w.spans.length + 1
  others : ∀ j, j ≠ w.spans.length → v.span j = w.span j
  attributes : v.attributes x.request = openingAttributes w.spans.length
    (v.span w.spans.length).isRoot (w.attributes x.request)
  otherAttributes : ∀ q, q ≠ x.request → v.attributes q = w.attributes q
  calls : v.calls =
    w.calls ++ [.created w.spans.length ((w.coordinator c).stem ++ ":" ++ x.path)]
  exports : v.exports = w.exports
  backend : v.backend = w.backend
  exporting : v.exporting = w.exporting
  failures : v.failures = w.failures
  continuations : v.continuations = w.continuations
  scopes : v.scopes = w.scopes
  contextFields : v.contextFields = w.contextFields
  stem : ∀ d, (v.coordinator d).stem = (w.coordinator d).stem
  answer : ∀ d, (v.coordinator d).answer = (w.coordinator d).answer

namespace Pass

theorem tracked_becomes (x : Exchange) (id : SpanId) (w : World) :
    Becomes x.request id w (tracked x id w)
      { span := w.span id
        attributes := openingAttributes id (w.span id).isRoot (w.attributes x.request) } := by
  have h := Becomes.modifyAttributes x.request id w (·.setActiveSpan (.span id))
  unfold tracked openingAttributes
  dsimp only
  rw [h.itsSpan]
  cases (w.span id).isRoot with
  | true => exact h.thenModifyAttributes (·.raiseFlag .spanWithoutParent)
  | false => exact h

/-- What is logged about an arrival changes nothing. -/
theorem arrived_becomes (x : Exchange) (r : RequestName) (id : SpanId) (w : World) :
    Becomes r id w (noteArrival x (w.openRequest x.request))
      { span := w.span id, attributes := w.attributes r } :=
  (Becomes.openRequest r id w x.request).thenLog logger _

theorem begins {x : Exchange} {c : String} {w v : World}
    (hv : Tracer.Started x.headers ((w.coordinator c).stem ++ ":" ++ x.path)
      (noteArrival x (w.openRequest x.request)) v) :
    x.Begins c w ((tracked x w.spans.length v).activate w.spans.length).2 := by
  generalize hid : w.spans.length = id
  generalize hu : noteArrival x (w.openRequest x.request) = u at hv
  have ha : ∀ q, Becomes q id w u { span := w.span id, attributes := w.attributes q } :=
    fun q => hu ▸ arrived_becomes x q id w
  have ht := (tracked_becomes x id v).thenSame
    (Becomes.setCurrent x.request id (tracked x id v) ((tracked x id v).anchor id))
  obtain ⟨s, hspans, hnew⟩ := hv.spans
  have hlen : u.spans.length = id := (ha x.request).length.trans hid
  have hspan := World.span_append hspans
  rw [hlen] at hspan
  have hattributes : ∀ q, v.attributes q = w.attributes q := by
    intro q
    unfold World.attributes
    rw [hv.requests]
    exact (ha q).itsAttributes
  have hcoordinator : ∀ d, v.coordinator d = u.coordinator d := by
    intro d
    unfold World.coordinator
    rw [hv.coordinators]
  exact
    { span := by
        rw [hid]
        refine ht.itsSpan ▸ ?_
        rw [hspan, if_pos rfl, ← (ha x.request).backend]
        exact hnew
      length := by
        rw [hid]
        refine ht.length.trans ?_
        rw [hspans, List.length_append, hlen]
        rfl
      others := fun j hj => by
        rw [hid] at hj
        refine (ht.span j hj).trans ?_
        rw [hspan, if_neg hj]
        exact (ha x.request).span j hj
      attributes := by
        rw [hid]
        refine ht.itsAttributes.trans ?_
        rw [hattributes]
        refine congrArg (fun t => openingAttributes id (Span.isRoot t) _) ?_
        exact ht.itsSpan.symm
      otherAttributes := fun q hq => (ht.attributes q hq).trans (hattributes q)
      calls := by
        rw [hid]
        refine ht.calls.trans ?_
        rw [hv.calls, (ha x.request).calls, hlen]
        simp
      exports := by
        refine ht.exports.trans ?_
        rw [hv.exports, (ha x.request).exports]
        simp
      backend := ht.backend.trans (hv.backend.trans (ha x.request).backend)
      exporting := ht.exporting.trans (hv.exporting.trans (ha x.request).exporting)
      failures := ht.failures.trans (hv.failures.trans (ha x.request).failures)
      continuations := ht.continuations.trans
        (hv.continuations.trans (ha x.request).continuations)
      scopes := ht.scopes.trans (hv.scopes.trans (ha x.request).scopes)
      contextFields := ht.contextFields.trans
        (hv.contextFields.trans (ha x.request).contextFields)
      stem := fun d => (ht.stem d).trans (by rw [hcoordinator]; exact (ha x.request).stem d)
      answer := fun d => (ht.answer d).trans (by rw [hcoordinator]; exact (ha x.request).answer d) }

end Pass

/-- A pass over a request without a span, if the tracer works. -/
theorem Exchange.handle_begins {x : Exchange} {c : String} {w : World}
    (hf : w.failures.of? .create = none)
    (ha : Attribute.present? (w.attributes x.request).activeSpan = none) :
    ∃ v scope, x.chainStart? c w = some v ∧ x.Begins c w v ∧
      ∀ {ρ : Type} (chain : Chain ρ),
        x.handle c chain w = Pass.runNormal c x w.spans.length scope chain v := by
  have hopen := Becomes.openRequest x.request 0 w x.request
  have harrive := Pass.arrived_becomes x x.request 0 w
  have hstem : ((w.openRequest x.request).coordinator c).stem = (w.coordinator c).stem :=
    hopen.stem c
  have ha' : Attribute.present? ((w.openRequest x.request).attributes x.request).activeSpan =
      none := by rw [hopen.itsAttributes]; exact ha
  obtain ⟨v, hv, h⟩ := Pass.startSpan_ok (w := Pass.noteArrival x (w.openRequest x.request))
    (by rw [harrive.failures]; exact hf) (w.coordinator c).stem x
  rw [harrive.length] at h
  refine ⟨_, ((Pass.tracked x w.spans.length v).activate w.spans.length).1, ?_,
    Pass.begins hv, fun chain => ?_⟩
  · unfold chainStart?
    simp only [ha', hstem, h]
  · unfold handle
    simp only [ha']
    exact Pass.first_started c x chain (by rw [hstem]; exact h)

/-! ## The end of a normal pass -/

namespace Pass

/-- The attributes in which the failure of a request is pending. -/
def notedAttributes (raised : Option Fault) (m : Attributes) : Attributes :=
  match failureOf raised with
  | some e => m.setPendingException (.fault e)
  | none => m

theorem noteFailure_becomes (x : Exchange) (raised : Option Fault) (id : SpanId) (w : World) :
    Becomes x.request id w (noteFailure x raised w)
      { span := w.span id, attributes := notedAttributes raised (w.attributes x.request) } := by
  unfold noteFailure notedAttributes failureOf
  cases raised with
  | none => exact Becomes.refl x.request id w
  | some e =>
    cases he : e.isOrdinary with
    | false =>
      simp only [Option.filter, he, Bool.false_eq_true, if_false]
      exact Becomes.refl x.request id w
    | true =>
      simp only [Option.filter, he, if_true]
      exact (Becomes.log x.request id w logger _).thenModifyAttributes _

theorem at?_notedAttributes (raised : Option Fault) (m : Attributes) {k : Key}
    (hk : k ≠ .pendingException) : (notedAttributes raised m).at? k = m.at? k := by
  unfold notedAttributes
  split
  · simp [hk]
  · rfl

theorem notedAttributes_flag (raised : Option Fault) (m : Attributes) {k : Key}
    (hk : k ≠ .pendingException) : (notedAttributes raised m).flag k = m.flag k := by
  unfold Attributes.flag
  rw [at?_notedAttributes raised m hk]

theorem notedAttributes_activeSpan (raised : Option Fault) (m : Attributes) :
    (notedAttributes raised m).activeSpan = m.activeSpan :=
  at?_notedAttributes raised m (by decide)

theorem notedAttributes_isAsyncStarted (raised : Option Fault) (m : Attributes) :
    (notedAttributes raised m).isAsyncStarted = m.isAsyncStarted :=
  notedAttributes_flag raised m (by decide)

variable {ρ : Type} {chain : Chain ρ} {v : World}

/-- A normal pass settles the span that its chain has left open. -/
theorem runNormal_settles (c : String) (x : Exchange) (id : SpanId) (b : Bool) (scope : Scope)
    (hw : (chain v).world.IsWorking)
    (ha : ((chain v).world.coordinator c).answer = .ok b)
    (hid : id < (chain v).world.spans.length)
    (hs : ((chain v).world.span id).state = .opened)
    (hasync : ((chain v).world.attributes x.request).isAsyncStarted = false) :
    let done := chain v
    let failure := failureOf done.raised
    let w := noteFailure x done.raised done.world
    (runNormal c x id scope chain v).raised = done.raised ∧
    Becomes x.request id done.world (runNormal c x id scope chain v).world
      (settled (outcome w x.request done.status id failure b).decide done.status failure id
        done.world.exporting (done.world.span id)
        (notedAttributes done.raised (done.world.attributes x.request))) := by
  intro done failure w
  have hn : Becomes x.request id done.world w _ := noteFailure_becomes x done.raised id done.world
  have hasync' : (w.attributes x.request).isAsyncStarted = false := by
    rw [hn.itsAttributes, notedAttributes_isAsyncStarted]
    exact hasync
  obtain ⟨w', h, hb⟩ := conclude_becomes x.request done.status failure (hn.isWorking hw)
    ((hn.answer c).trans ha) (by rw [hn.length]; exact hid) (by rw [hn.itsSpan]; exact hs) hasync'
  rw [runNormal_ok h]
  refine ⟨rfl, ?_⟩
  rw [hn.itsSpan, hn.itsAttributes, hn.exporting] at hb
  have hall := (hn.trans hb).thenSame (Becomes.close x.request id w' scope)
  simpa [Upshot.andThen] using hall

/-- A normal pass that cannot tell whether there is an error handler fails with what the lookup
raised, and leaves the span as its chain did. -/
theorem runNormal_raises {e : Fault} (c : String) (x : Exchange) (id : SpanId) (scope : Scope)
    (ha : ((chain v).world.coordinator c).answer = .error e)
    (hasync : ((chain v).world.attributes x.request).isAsyncStarted = false) :
    let done := chain v
    (runNormal c x id scope chain v).raised = some e ∧
    Becomes x.request id done.world (runNormal c x id scope chain v).world
      { span := done.world.span id
        attributes := notedAttributes done.raised (done.world.attributes x.request) } := by
  intro done
  have hn : Becomes x.request id done.world (noteFailure x done.raised done.world) _ :=
    noteFailure_becomes x done.raised id done.world
  have hasync' : ((noteFailure x done.raised done.world).attributes x.request).isAsyncStarted =
      false := by
    rw [hn.itsAttributes, notedAttributes_isAsyncStarted]
    exact hasync
  obtain ⟨w', h, hb⟩ := conclude_raises x.request done.status (failureOf done.raised) id
    ((hn.answer c).trans ha) hasync'
  rw [runNormal_error h]
  exact ⟨rfl, (hn.thenSame (hb id)).thenSame (Becomes.close x.request id w' scope)⟩

/-- A normal pass leaves the span of a request that has gone asynchronous as its chain did. -/
theorem runNormal_async (c : String) (x : Exchange) (id : SpanId) (scope : Scope)
    (chain : Chain ρ) (hasync : ((chain v).world.attributes x.request).isAsyncStarted = true) :
    let done := chain v
    (runNormal c x id scope chain v).raised = done.raised ∧
    ∀ j, Becomes x.request j done.world (runNormal c x id scope chain v).world
      { span := done.world.span j
        attributes := notedAttributes done.raised (done.world.attributes x.request) } := by
  intro done
  have hn := fun j => noteFailure_becomes x done.raised j done.world
  have hasync' : ((noteFailure x done.raised done.world).attributes x.request).isAsyncStarted =
      true := by
    rw [(hn id).itsAttributes, notedAttributes_isAsyncStarted]
    exact hasync
  obtain ⟨w', h, hb⟩ := conclude_async (c := c) x.request done.status (failureOf done.raised)
    (some id) hasync'
  rw [runNormal_ok h]
  exact ⟨rfl, fun j => ((hn j).thenSame (hb j)).thenSame (Becomes.close x.request j w' scope)⟩

end Pass

/-! ## The verdict on a new span -/

namespace Outcome

/-- A span nobody has dealt with is finalized, unless its failure goes to an error handler. -/
theorem decide_finalizes {o : Outcome} (ha : o.asyncStarted = false)
    (hf : o.alreadyFinalized = false) (he : o.errorHandled = false)
    (hx : (o.hasException && o.hasErrorHandler) = false) : o.decide.verdict = .finalize := by
  unfold decide
  simp only [ha, hf, he, hx, Bool.false_eq_true, if_false, Bool.not_false, Bool.and_true,
    Bool.false_and]
  split
  · rfl
  · split
    · rfl
    · split
      · rfl
      · next hb =>
        have hb : o.hasErrorHandler = true := by simpa using hb
        have hn : o.hasException = false := by simpa [hb] using hx
        simp only [hn, Bool.false_eq_true, if_false]

/-- A failure that goes to an error handler keeps the span as the active one, unless the span was to
be closed and there is no success to put that off. -/
theorem decide_keeps {o : Outcome} (ha : o.asyncStarted = false)
    (hc : o.shouldClose = true → (o.successful && !o.alreadyFinalized) = true)
    (hx : (o.hasException && o.hasErrorHandler) = true) : o.decide.clearActiveSpan = false := by
  obtain ⟨hex, heh⟩ := Bool.and_eq_true_iff.mp hx
  unfold decide
  simp only [ha, hex, heh, Bool.false_eq_true, if_false, Bool.and_self, if_true, Bool.not_true]
  split
  · rfl
  · next hs =>
    have hc : o.shouldClose = false := Bool.eq_false_iff.mpr fun h => hs (hc h)
    simp only [hc, Bool.false_or, Bool.not_false, Bool.and_true, Bool.false_eq_true, if_false]
    repeat' split
    all_goals rfl

end Outcome

/-! ## Reports -/

/-- From one world to another exactly these calls and exports were added. -/
structure Adds (w w' : World) (calls : List TracerCall) (exports : List ExportedSpan) : Prop where
  calls : w'.calls = w.calls ++ calls
  exports : w'.exports = w.exports ++ exports

/-- By these calls and exports a span was reported, once and for good, and no span was created. -/
structure ReportedOnce (id : SpanId) (cause : Option Attribute) (exported : Bool) (s : Span)
    (calls : List TracerCall) (exports : List ExportedSpan) : Prop where
  state : s.state = .finalized
  once : calls.filterMap (·.finalizes?) = [id]
  call : ∃ status, .finalized id status cause true ∈ calls
  uncreated : calls.filterMap (·.creates?) = []
  exports : exports = if exported then [s.toExported] else []

/-- By these calls a span was at most abandoned. -/
structure Unreported (s : Span) (calls : List TracerCall) (exports : List ExportedSpan) :
    Prop where
  state : s.state ≠ .finalized
  never : calls.filterMap (·.finalizes?) = []
  uncreated : calls.filterMap (·.creates?) = []
  exports : exports = []

theorem ReportedOnce.after {id : SpanId} {cause : Option Attribute} {exported : Bool} {s t : Span}
    {calls calls' : List TracerCall} {exports exports' : List ExportedSpan}
    (h : ReportedOnce id cause exported s calls' exports') (g : Unreported t calls exports) :
    ReportedOnce id cause exported s (calls ++ calls') (exports ++ exports') where
  state := h.state
  once := by rw [List.filterMap_append, g.never, h.once]; rfl
  call := h.call.imp fun _ hc => List.mem_append_right _ hc
  uncreated := by rw [List.filterMap_append, g.uncreated, h.uncreated]; rfl
  exports := by rw [g.exports, h.exports]; rfl

theorem reportedOnce_finalized (id : SpanId) (status : Int) (cause : Option Attribute)
    (exporting : Bool) (s : Span) (m : Attributes) :
    let u := Tracer.finalizedUpshot id status cause exporting s m
    ReportedOnce id cause (s.recording && exporting) u.span u.calls u.exports :=
  ⟨rfl, rfl, ⟨status, List.mem_singleton.mpr rfl⟩, rfl, rfl⟩

/-! ## Chains that keep to themselves -/

/-- Whatever else a chain does: the request, its span, the backend and what the coordinators answer
are as before. -/
structure Apart (r : RequestName) (id : SpanId) (w w' : World) : Prop where
  exporting : w'.exporting = w.exporting
  failures : w'.failures = w.failures
  length : w.spans.length ≤ w'.spans.length
  span : w'.span id = w.span id
  attributes : w'.attributes r = w.attributes r
  answer : ∀ c, (w'.coordinator c).answer = (w.coordinator c).answer

/-- The attributes of a request whose span is to be closed, if `closed` says so. -/
def askedAttributes (closed : Bool) (m : Attributes) : Attributes :=
  if closed then m.raiseFlag .shouldClose else m

theorem askedAttributes_activeSpan (closed : Bool) (m : Attributes) :
    (askedAttributes closed m).activeSpan = m.activeSpan := by
  unfold askedAttributes
  cases closed <;> simp

theorem askedAttributes_isAsyncStarted (closed : Bool) (m : Attributes) :
    (askedAttributes closed m).isAsyncStarted = m.isAsyncStarted := by
  unfold askedAttributes
  cases closed <;> simp

/-- A chain that keeps to itself, but for a request to close the span, if `closed` says so. -/
structure AskedToClose (r : RequestName) (id : SpanId) (closed : Bool) (w w' : World) : Prop where
  exporting : w'.exporting = w.exporting
  failures : w'.failures = w.failures
  length : w.spans.length ≤ w'.spans.length
  span : w'.span id = w.span id
  attributes : w'.attributes r = askedAttributes closed (w.attributes r)
  answer : ∀ c, (w'.coordinator c).answer = (w.coordinator c).answer

theorem Apart.asked {r : RequestName} {id : SpanId} {w w' : World} (h : Apart r id w w') :
    AskedToClose r id false w w' :=
  ⟨h.exporting, h.failures, h.length, h.span, h.attributes, h.answer⟩

theorem Apart.refl (r : RequestName) (id : SpanId) (w : World) : Apart r id w w :=
  ⟨rfl, rfl, Nat.le_refl _, rfl, rfl, fun _ => rfl⟩

theorem Apart.trans {r : RequestName} {id : SpanId} {w w' w'' : World}
    (h : Apart r id w w') (g : Apart r id w' w'') :
    Apart r id w w'' where
  exporting := g.exporting.trans h.exporting
  failures := g.failures.trans h.failures
  length := Nat.le_trans h.length g.length
  span := g.span.trans h.span
  attributes := g.attributes.trans h.attributes
  answer c := (g.answer c).trans (h.answer c)

/-- A request that may have failed and is passed over once more: its span is still the active one,
and the error pass has to report it unless it is finalized. -/
structure AwaitsError (id : SpanId) (failure : Option Fault) (final : Bool) (m : Attributes) :
    Prop where
  active : m.activeSpan = some (.span id)
  pending : m.pendingException = failure.map .fault
  notAsync : m.isAsyncStarted = false
  notReported : m.isErrorSpanReported = false
  finalized : m.isAlreadyFinalized = final

theorem AwaitsError.markSpanContinued {id : SpanId} {failure : Option Fault} {final : Bool}
    {m : Attributes} (h : AwaitsError id failure final m) :
    AwaitsError id failure final m.markSpanContinued := by
  obtain ⟨h₁, h₂, h₃, h₄, h₅⟩ := h
  unfold Attributes.markSpanContinued
  split
  · constructor <;> simpa
  · exact ⟨h₁, h₂, h₃, h₄, h₅⟩

section FirstPass

open Pass

variable {ρ : Type} {chain : Chain ρ} {x : Exchange} {c : String} {w v : World} {b : Bool}

/-- Giving a request its span changes none of the flags of a pass, but for the one that the span has
no parent. -/
theorem openingAttributes_flag (m : Attributes) (id : SpanId) (root : Bool) (k : Key)
    (h₁ : k ≠ .activeSpan) (h₂ : k ≠ .spanWithoutParent) :
    (openingAttributes id root m).flag k = m.flag k := by
  unfold openingAttributes
  cases root <;> simp [h₁, h₂]

theorem openingAttributes_activeSpan (id : SpanId) (root : Bool) (m : Attributes) :
    (openingAttributes id root m).activeSpan = some (.span id) := by
  unfold openingAttributes
  cases root <;> simp

theorem openingAttributes_isAsyncStarted (id : SpanId) (root : Bool) (m : Attributes) :
    (openingAttributes id root m).isAsyncStarted = m.isAsyncStarted := by
  unfold openingAttributes
  cases root <;> simp

/-- A request that was just given its span, and whose failure was noted, awaits an error pass. -/
theorem openingAttributes_awaits {m : Attributes} (hm : m.IsUntraced) (id : SpanId) (root : Bool)
    (closed : Bool) (raised : Option Fault) :
    AwaitsError id (failureOf raised) false
      (notedAttributes raised (askedAttributes closed (openingAttributes id root m))) := by
  have hpending : m.at? .pendingException = none := hm .pendingException
  unfold notedAttributes askedAttributes openingAttributes
  cases failureOf raised with
  | none => constructor <;> cases root <;> cases closed <;> simp [hm.flag, hpending]
  | some e => constructor <;> cases root <;> cases closed <;> simp [hm.flag]

/-- What its request says when the chain of a new span has ended. -/
theorem asked_flag {m : Attributes} (hm : m.IsUntraced) (closed : Bool) (raised : Option Fault)
    (id : SpanId) (root : Bool) (k : Key) (h₁ : k ≠ .activeSpan) (h₂ : k ≠ .spanWithoutParent)
    (h₃ : k ≠ .pendingException) :
    (notedAttributes raised (askedAttributes closed (openingAttributes id root m))).flag k =
      (closed && decide (k = .shouldClose)) := by
  have hopen := (openingAttributes_flag m id root k h₁ h₂).trans (hm.flag k)
  have hasked : (askedAttributes closed (openingAttributes id root m)).flag k =
      (closed && decide (k = .shouldClose)) := by
    unfold askedAttributes
    cases closed with
    | false => simpa using hopen
    | true => by_cases hk : k = .shouldClose <;> simp [hk, hopen, Attribute.truthy, Value.truthy]
  exact (notedAttributes_flag raised _ h₃).trans hasked

/-- A new span whose chain has at most asked for it to be closed is settled by the verdict on it. -/
theorem asked_settles {closed : Bool} (hb : x.Begins c w v) (hw : w.IsWorking)
    (ha : (w.coordinator c).answer = .ok b) (hm : (w.attributes x.request).IsUntraced)
    (hc : AskedToClose x.request w.spans.length closed v (chain v).world) (scope : Scope) :
    let done := chain v
    let id := w.spans.length
    let failure := failureOf done.raised
    ∃ o : Outcome, o.status = done.status ∧ o.asyncStarted = false ∧
      o.alreadyFinalized = false ∧ o.errorHandled = false ∧ o.shouldClose = closed ∧
      o.hasException = failure.isSome ∧ o.hasErrorHandler = b ∧
      (runNormal c x id scope chain v).raised = done.raised ∧
      Becomes x.request id done.world (runNormal c x id scope chain v).world
        (settled o.decide done.status failure id w.exporting (v.span id)
          (notedAttributes done.raised (askedAttributes closed
            (openingAttributes id (v.span id).isRoot (w.attributes x.request))))) := by
  intro done id failure
  have hattributes : done.world.attributes x.request = askedAttributes closed
      (openingAttributes id (v.span id).isRoot (w.attributes x.request)) :=
    hc.attributes.trans (congrArg (askedAttributes closed) hb.attributes)
  have hnoted : ((noteFailure x done.raised done.world).attributes x.request) =
      notedAttributes done.raised (askedAttributes closed
        (openingAttributes id (v.span id).isRoot (w.attributes x.request))) := by
    rw [(noteFailure_becomes x done.raised id done.world).itsAttributes, hattributes]
  have hflag := asked_flag hm closed done.raised id (v.span id).isRoot
  rw [← hnoted] at hflag
  have hstate : ((noteFailure x done.raised done.world).attributes x.request).isErrorHandled =
      false := by
    rw [hnoted]
    unfold notedAttributes askedAttributes openingAttributes
    split <;> cases closed <;> cases (v.span id).isRoot <;> simp [hm.inState]
  have hasync : (done.world.attributes x.request).isAsyncStarted = false := by
    rw [hattributes, askedAttributes_isAsyncStarted]
    exact (openingAttributes_flag _ id _ .asyncStarted (by decide) (by decide)).trans
      (hm.flag .asyncStarted)
  have hlength : w.spans.length < (chain v).world.spans.length := by
    have hgrown := hc.length
    rw [hb.length] at hgrown
    omega
  obtain ⟨hraised, hbecomes⟩ := runNormal_settles c x id b scope
    (fun verb => by rw [hc.failures, hb.failures]; exact hw verb)
    ((hc.answer c).trans ((hb.answer c).trans ha)) hlength
    (by rw [hc.span]; exact hb.span.state) hasync
  rw [hc.exporting, hb.exporting, hc.span, hattributes] at hbecomes
  refine ⟨_, rfl, rfl, ?_, hstate, ?_, rfl, rfl, hraised, hbecomes⟩
  · refine (hflag .alreadyFinalized (by decide) (by decide) (by decide)).trans ?_
    exact Bool.and_false closed
  · refine (hflag .shouldClose (by decide) (by decide) (by decide)).trans ?_
    exact Bool.and_true closed

/-- Whether a new span of an exchange is sampled: a root is, a child is if its parent was. -/
def Exchange.isSampled (x : Exchange) (w : World) : Bool :=
  Tracer.records w.backend (SpanContext.ofHeaders? x.headers)

/-- A request that did not fail, or has no error handler to fail to, is reported by its first
pass. -/
theorem asked_reports {closed : Bool} (hb : x.Begins c w v) (hw : w.IsWorking)
    (ha : (w.coordinator c).answer = .ok b) (hm : (w.attributes x.request).IsUntraced)
    (hc : AskedToClose x.request w.spans.length closed v (chain v).world) (scope : Scope)
    (hx : ((failureOf (chain v).raised).isSome && b) = false) :
    let last := (runNormal c x w.spans.length scope chain v).world
    Within x.request w.spans.length (chain v).world last ∧
    ∃ calls exports, Adds (chain v).world last calls exports ∧
      ReportedOnce w.spans.length ((failureOf (chain v).raised).map .fault)
        (x.isSampled w && w.exporting) (last.span w.spans.length) calls exports := by
  intro last
  obtain ⟨o, -, h₁, h₂, h₃, -, h₅, h₆, -, hbecomes⟩ := asked_settles hb hw ha hm hc scope
  have hverdict : o.decide.verdict = .finalize :=
    Outcome.decide_finalizes h₁ h₂ h₃ (by rw [h₅, h₆]; exact hx)
  refine ⟨hbecomes.toWithin, _, _, ⟨hbecomes.calls, hbecomes.exports⟩, ?_⟩
  rw [hbecomes.itsSpan]
  unfold settled
  simp only [hverdict]
  generalize hs : (if o.decide.tagStatus then _ else _) = s
  have hrecording : s.recording = x.isSampled w := by
    rw [← hs]
    cases o.decide.tagStatus <;> exact hb.span.recording
  rw [← hrecording]
  exact reportedOnce_finalized ..

theorem first_reports (hb : x.Begins c w v) (hw : w.IsWorking)
    (ha : (w.coordinator c).answer = .ok b) (hm : (w.attributes x.request).IsUntraced)
    (hc : Apart x.request w.spans.length v (chain v).world) (scope : Scope)
    (hx : ((failureOf (chain v).raised).isSome && b) = false) :
    let last := (runNormal c x w.spans.length scope chain v).world
    Within x.request w.spans.length (chain v).world last ∧
    ∃ calls exports, Adds (chain v).world last calls exports ∧
      ReportedOnce w.spans.length ((failureOf (chain v).raised).map .fault)
        (x.isSampled w && w.exporting) (last.span w.spans.length) calls exports :=
  asked_reports hb hw ha hm hc.asked scope hx

/-- A request that failed under an error handler is reported by its first pass, or not at all, and
the error pass can tell, unless the span was to be closed after no success. -/
theorem asked_hands {closed : Bool} (hb : x.Begins c w v) (hw : w.IsWorking)
    (ha : (w.coordinator c).answer = .ok true) (hm : (w.attributes x.request).IsUntraced)
    (hc : AskedToClose x.request w.spans.length closed v (chain v).world) (scope : Scope)
    {e : Fault} (hx : failureOf (chain v).raised = some e)
    (hclosed : closed = true → isSuccessfulStatus (chain v).status = true) :
    let last := (runNormal c x w.spans.length scope chain v).world
    Within x.request w.spans.length (chain v).world last ∧
    ∃ final calls exports, Adds (chain v).world last calls exports ∧
      AwaitsError w.spans.length (some e) final (last.attributes x.request) ∧
      (final = true → ReportedOnce w.spans.length (some (.fault e)) (x.isSampled w && w.exporting)
        (last.span w.spans.length) calls exports) ∧
      (final = false → Unreported (last.span w.spans.length) calls exports ∧
        (last.span w.spans.length).recording = x.isSampled w) := by
  intro last
  obtain ⟨o, h₀, h₁, h₂, h₃, h₄, h₅, h₆, -, hbecomes⟩ := asked_settles hb hw ha hm hc scope
  have hkeeps : o.decide.clearActiveSpan = false := by
    refine Outcome.decide_keeps h₁ (fun hclose => ?_) (by rw [h₅, h₆, hx]; rfl)
    have hstatus := hclosed (h₄.symm.trans hclose)
    unfold Outcome.successful
    rw [h₀, hstatus, h₂]
    rfl
  have hawaits := openingAttributes_awaits hm w.spans.length (v.span w.spans.length).isRoot closed
    (chain v).raised
  rw [hx] at hawaits
  generalize notedAttributes _ _ = m at hawaits hbecomes
  have hfinal : AwaitsError w.spans.length (some e) true (m.raiseFlag .alreadyFinalized) :=
    ⟨by simpa using hawaits.active, by simpa using hawaits.pending,
      by simpa using hawaits.notAsync, by simpa using hawaits.notReported,
      by simp [Attribute.truthy, Value.truthy]⟩
  unfold settled at hbecomes
  simp only [hkeeps, hx, Bool.false_eq_true, if_false, Option.isNone_some, Option.map_some]
    at hbecomes
  generalize hs : (if o.decide.tagStatus then _ else _ : Span) = s at hbecomes
  have hstate : s.state = .opened := by
    rw [← hs]
    cases o.decide.tagStatus <;> exact hb.span.state
  have hrecording : s.recording = x.isSampled w := by
    rw [← hs]
    cases o.decide.tagStatus <;> exact hb.span.recording
  refine ⟨hbecomes.toWithin, ?_⟩
  cases hverdict : o.decide.verdict with
  | finalize =>
    simp only [hverdict] at hbecomes
    refine ⟨true, _, _, ⟨hbecomes.calls, hbecomes.exports⟩, ?_, fun _ => ?_, nofun⟩
    · rw [hbecomes.itsAttributes]
      exact hfinal
    · rw [hbecomes.itsSpan, ← hrecording]
      exact reportedOnce_finalized ..
  | abandon =>
    simp only [hverdict] at hbecomes
    refine ⟨false, _, _, ⟨hbecomes.calls, hbecomes.exports⟩, ?_, nofun, fun _ => ⟨?_, ?_⟩⟩
    · rw [hbecomes.itsAttributes]
      exact hawaits
    · rw [hbecomes.itsSpan]
      exact ⟨nofun, rfl, rfl, rfl⟩
    · rw [hbecomes.itsSpan]
      exact hrecording
  | defer =>
    simp only [hverdict] at hbecomes
    refine ⟨false, _, _, ⟨hbecomes.calls, hbecomes.exports⟩, ?_, nofun, fun _ => ⟨?_, ?_⟩⟩
    · rw [hbecomes.itsAttributes]
      exact hawaits
    · rw [hbecomes.itsSpan]
      exact ⟨by rw [hstate]; decide, rfl, rfl, rfl⟩
    · rw [hbecomes.itsSpan]
      exact hrecording

theorem first_hands (hb : x.Begins c w v) (hw : w.IsWorking)
    (ha : (w.coordinator c).answer = .ok true) (hm : (w.attributes x.request).IsUntraced)
    (hc : Apart x.request w.spans.length v (chain v).world) (scope : Scope) {e : Fault}
    (hx : failureOf (chain v).raised = some e) :
    let last := (runNormal c x w.spans.length scope chain v).world
    Within x.request w.spans.length (chain v).world last ∧
    ∃ final calls exports, Adds (chain v).world last calls exports ∧
      AwaitsError w.spans.length (some e) final (last.attributes x.request) ∧
      (final = true → ReportedOnce w.spans.length (some (.fault e)) (x.isSampled w && w.exporting)
        (last.span w.spans.length) calls exports) ∧
      (final = false → Unreported (last.span w.spans.length) calls exports ∧
        (last.span w.spans.length).recording = x.isSampled w) :=
  asked_hands hb hw ha hm hc.asked scope hx nofun

/-- A pass that cannot tell whether there is an error handler leaves the span open, and an error
pass over it has to report it. -/
theorem first_fails {e : Fault} (hb : x.Begins c w v)
    (ha : (w.coordinator c).answer = .error e) (hm : (w.attributes x.request).IsUntraced)
    (hc : Apart x.request w.spans.length v (chain v).world) (scope : Scope) :
    let last := (runNormal c x w.spans.length scope chain v).world
    (runNormal c x w.spans.length scope chain v).raised = some e ∧
    Within x.request w.spans.length (chain v).world last ∧ Adds (chain v).world last [] [] ∧
    last.span w.spans.length = v.span w.spans.length ∧
    AwaitsError w.spans.length (failureOf (chain v).raised) false
      (last.attributes x.request) := by
  intro last
  have hattributes := hc.attributes.trans hb.attributes
  have hflag : ∀ k, k ≠ .activeSpan → k ≠ .spanWithoutParent →
      ((chain v).world.attributes x.request).flag k = false := by
    intro k h₁ h₂
    rw [hattributes]
    exact (openingAttributes_flag _ w.spans.length _ k h₁ h₂).trans (hm.flag k)
  obtain ⟨hraised, hbecomes⟩ := runNormal_raises c x w.spans.length scope
    ((hc.answer c).trans ((hb.answer c).trans ha)) (hflag .asyncStarted (by decide) (by decide))
  refine ⟨hraised, hbecomes.toWithin, ⟨hbecomes.calls, hbecomes.exports⟩,
    hbecomes.itsSpan.trans hc.span, ?_⟩
  rw [hbecomes.itsAttributes, hattributes]
  exact openingAttributes_awaits hm w.spans.length _ false (chain v).raised

/-- How a first pass ends, by what the coordinator answers: it reports the span, or keeps it for the
error pass after a failure under an error handler, or fails as the lookup did. -/
inductive FirstPassEnd (answer : Except Fault Bool) (raised : Option Fault) (r : RequestName)
    (id : SpanId) (done : ChainEnd (Option ρ)) (calls : List TracerCall)
    (exports : List ExportedSpan) : Prop where
  | reported (b exported : Bool) (ha : answer = .ok b) (hr : done.raised = raised)
      (hx : ((failureOf raised).isSome && b) = false)
      (h : ReportedOnce id ((failureOf raised).map .fault) exported (done.world.span id) calls
        exports)
  | handed (e : Fault) (final exported : Bool) (ha : answer = .ok true)
      (hr : done.raised = raised) (hx : failureOf raised = some e)
      (hm : AwaitsError id (some e) final (done.world.attributes r))
      (hf : final = true →
        ReportedOnce id (some (.fault e)) exported (done.world.span id) calls exports)
      (hu : final = false → Unreported (done.world.span id) calls exports)
  | failed (e : Fault) (ha : answer = .error e) (hr : done.raised = some e)
      (hm : AwaitsError id (failureOf raised) false (done.world.attributes r))
      (hu : Unreported (done.world.span id) calls exports)

/-- A first pass over a request creates its span, and ends in one of these ways, if the chain leaves
both alone. -/
theorem Exchange.handle_first {x : Exchange} {c : String} {w : World} (chain : Chain ρ)
    (hw : w.IsWorking) (hm : (w.attributes x.request).IsUntraced)
    (hc : ∀ v, x.Begins c w v → Apart x.request w.spans.length v (chain v).world) :
    let done := x.handle c chain w
    ∃ v, x.Begins c w v ∧ done.reply = some (chain v).reply ∧
      Within x.request w.spans.length (chain v).world done.world ∧
      (∀ a, (done.world.attributes x.request).activeSpan = some a → a = .span w.spans.length) ∧
      ∃ calls exports, Adds (chain v).world done.world calls exports ∧
        FirstPassEnd (w.coordinator c).answer (chain v).raised x.request w.spans.length done
          calls exports := by
  intro done
  obtain ⟨v, scope, -, hb, hrun⟩ := Exchange.handle_begins (c := c) (hw .create) hm.inactive
  have hdone : done = runNormal c x w.spans.length scope chain v := hrun chain
  clear_value done
  subst hdone
  refine ⟨v, hb, rfl, ?_⟩
  have hc := hc v hb
  cases ha : (w.coordinator c).answer with
  | error e =>
    obtain ⟨hraised, hwithin, hadds, hspan, hawaits⟩ := first_fails hb ha hm hc scope
    refine ⟨hwithin, ?_, [], [], hadds, .failed e rfl hraised hawaits ⟨?_, rfl, rfl, rfl⟩⟩
    · intro a h
      rw [hawaits.active] at h
      cases h
      rfl
    · rw [hspan, hb.span.state]
      decide
  | ok b =>
    obtain ⟨o, -, -, -, -, -, -, -, hraised, hbecomes⟩ :=
      asked_settles hb hw ha hm hc.asked scope
    have hactive : ∀ a, ((runNormal c x w.spans.length scope chain v).world.attributes
        x.request).activeSpan = some a → a = .span w.spans.length := by
      intro a h
      rw [hbecomes.itsAttributes] at h
      rcases settled_activeSpan o.decide (chain v).status (failureOf (chain v).raised)
        w.spans.length w.exporting (v.span w.spans.length) (notedAttributes (chain v).raised
          (askedAttributes false (openingAttributes w.spans.length (v.span w.spans.length).isRoot
            (w.attributes x.request)))) with hkept | hnone
      · rw [hkept, notedAttributes_activeSpan, askedAttributes_activeSpan,
          openingAttributes_activeSpan] at h
        cases h
        rfl
      · rw [hnone] at h
        cases h
    cases hx : (failureOf (chain v).raised).isSome && b with
    | false =>
      obtain ⟨hwithin, calls, exports, hadds, h⟩ := first_reports hb hw ha hm hc scope hx
      exact ⟨hwithin, hactive, calls, exports, hadds, .reported b _ rfl hraised hx h⟩
    | true =>
      obtain ⟨hsome, rfl⟩ := Bool.and_eq_true_iff.mp hx
      obtain ⟨e, he⟩ := Option.isSome_iff_exists.mp hsome
      obtain ⟨hwithin, final, calls, exports, hadds, hawaits, hf, hu⟩ :=
        first_hands hb hw ha hm hc scope he
      exact ⟨hwithin, hactive, calls, exports, hadds,
        .handed e final _ rfl hraised he hawaits hf fun h => (hu h).1⟩

end FirstPass

/-! ## The error pass -/

namespace Pass

theorem resumed_coordinators (x : Exchange) (w : World) (id : SpanId) :
    (resumed x w id).coordinators = w.coordinators := by
  have hrecalled : (recalled x w id).coordinators = w.coordinators :=
    World.log_coordinators _ logger _
  have harrived : (noteArrival x ((recalled x w id).activate id).2).coordinators =
      w.coordinators := (World.log_coordinators _ logger _).trans hrecalled
  unfold resumed
  dsimp only
  split
  · exact (World.log_coordinators _ logger _).trans harrived
  · exact (World.log_coordinators _ logger _).trans harrived

theorem runError_coordinators {ρ : Type} (x : Exchange) (id : SpanId) (scope : Scope)
    (chain : Chain ρ) (v : World) :
    (runError x id scope chain v).world.coordinators = (chain v).world.coordinators := by
  have h := (concludeError_retains x.request (chain v).status id (chain v).world).coordinators
  have hclose : ∀ w : World, (w.close scope).coordinators = w.coordinators := by
    intro w
    unfold World.close
    split <;> rfl
  rw [← finishWith_snd _ (chain v).raised] at h
  exact (hclose _).trans h

/-- An error pass over a request that has gone asynchronous only remembers that it was there. -/
theorem runError_async {ρ : Type} {v : World} (x : Exchange) (id : SpanId) (scope : Scope)
    (chain : Chain ρ) (hasync : ((chain v).world.attributes x.request).isAsyncStarted = true) :
    ∀ j, Becomes x.request j (chain v).world (runError x id scope chain v).world
      { span := (chain v).world.span j
        attributes := ((chain v).world.attributes x.request).markErrorHandled } := by
  obtain ⟨w', h, hb⟩ := concludeError_idle x.request (chain v).status id (chain v).world
    (.inl hasync)
  intro j
  rw [runError_ok h]
  exact (hb j).thenSame (Becomes.close x.request j w' scope)

end Pass

/-- A request that brings its span along is passed over without another one. -/
theorem Exchange.handle_resumes {x : Exchange} {c : String} {w : World} {id : SpanId}
    (ha : (w.attributes x.request).activeSpan = some (.span id)) :
    ∃ v scope, x.chainStart? c w = some v ∧ v.coordinators = w.coordinators ∧
      (∀ j, Becomes x.request j w v
        { span := w.span j, attributes := (w.attributes x.request).markSpanContinued }) ∧
      (isSuccessfulStatus x.status = false → ∀ {ρ : Type} (chain : Chain ρ),
        x.handle c chain w = Pass.runError x id scope chain v) := by
  have hopen := fun j => Becomes.openRequest x.request j w x.request
  have ha' : Attribute.present?
      ((w.openRequest x.request).attributes x.request).activeSpan = some (.span id) := by
    rw [(hopen 0).itsAttributes, ha]
    rfl
  refine ⟨Pass.resumed x (w.openRequest x.request) id,
    ((Pass.recalled x (w.openRequest x.request) id).activate id).1, ?_,
    Pass.resumed_coordinators x _ id, fun j => ?_, fun hs ρ chain => ?_⟩
  · unfold chainStart?
    simp only [ha']
  · have hmark := (hopen j).thenModifyAttributes (·.markSpanContinued)
    have hrecall : Becomes x.request j w (Pass.recalled x (w.openRequest x.request) id) _ :=
      hmark.thenLog Pass.logger _
    have hactive := hrecall.thenSame (Becomes.setCurrent x.request j
      (Pass.recalled x (w.openRequest x.request) id)
      ((Pass.recalled x (w.openRequest x.request) id).anchor id))
    have harrive : Becomes x.request j w (Pass.noteArrival x
        ((Pass.recalled x (w.openRequest x.request) id).activate id).2) _ :=
      hactive.thenLog Pass.logger _
    unfold Pass.resumed
    dsimp only
    split
    · exact harrive.thenLog Pass.logger _
    · exact harrive.thenLog Pass.logger _
  · unfold handle
    simp only [ha']
    rw [Pass.continued_eq, hs, if_neg Bool.false_ne_true]

/-- An error pass reports the span, unless it was finalized before. -/
theorem error_reports {ρ : Type} {x : Exchange} {v : World} {id : SpanId}
    {failure : Option Fault} {final : Bool} (scope : Scope) (chain : Chain ρ) (hw : v.IsWorking)
    (hid : id < v.spans.length)
    (hm : AwaitsError id failure final (v.attributes x.request))
    (hs : final = false → (v.span id).state ≠ .finalized)
    (hc : Apart x.request id v (chain v).world) :
    let last := (Pass.runError x id scope chain v).world
    Within x.request id (chain v).world last ∧
    (last.attributes x.request).activeSpan = some (.span id) ∧
    ∃ calls exports, Adds (chain v).world last calls exports ∧
      (final = true → calls = [] ∧ exports = [] ∧ last.span id = v.span id) ∧
      (final = false → ReportedOnce id (failure.map .fault)
        ((v.span id).recording && v.exporting) (last.span id) calls exports) := by
  intro last
  rw [← hc.attributes] at hm
  have hclose : ∀ {w' : World} {u : Upshot},
      (Pass.concludeError x.request (chain v).status id).runIn (chain v).world = (.ok (), w') →
      Becomes x.request id (chain v).world w' u → Becomes x.request id (chain v).world last u := by
    intro w' u h hb
    have hlast : last = w'.close scope := congrArg ChainEnd.world (Pass.runError_ok h)
    rw [hlast]
    exact hb.thenSame (Becomes.close x.request id w' scope)
  cases final with
  | true =>
    obtain ⟨w', h, hb⟩ := Pass.concludeError_idle x.request (chain v).status id (chain v).world
      (.inr (.inr hm.finalized))
    have hall := hclose h (hb id)
    refine ⟨hall.toWithin, ?_, _, _, ⟨hall.calls, hall.exports⟩, fun _ => ⟨rfl, rfl, ?_⟩, nofun⟩
    · rw [hall.itsAttributes]
      simpa using hm.active
    · rw [hall.itsSpan]
      exact hc.span
  | false =>
    have hpending : Attribute.present? ((chain v).world.attributes x.request).pendingException =
        failure.map .fault := by
      rw [hm.pending]
      cases failure <;> rfl
    obtain ⟨w', h, hb⟩ := Pass.concludeError_becomes x.request (chain v).status
      (fun verb => by rw [hc.failures]; exact hw verb) (Nat.lt_of_lt_of_le hid hc.length)
      (by rw [hc.span]; exact hs rfl) hm.notAsync hm.notReported hm.finalized
      (by rw [hpending]; exact Pass.not_refused _ failure)
    rw [hpending, hc.span, hc.exporting] at hb
    have hall := hclose h hb
    refine ⟨hall.toWithin, ?_, _, _, ⟨hall.calls, hall.exports⟩, nofun, fun _ => ?_⟩
    · rw [hall.itsAttributes]
      simpa [Tracer.finalizedUpshot] using hm.active
    · rw [hall.itsSpan]
      exact reportedOnce_finalized ..

end SpanLifecycle
