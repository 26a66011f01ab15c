import SpanLifecycle.Proofs.Current
import SpanLifecycle.Proofs.OneReport

/-!
# Requests to close the span

A chain may ask for its span to be closed whatever the response, by a flag in the attributes that
nothing takes back.  A pass that follows the flag finalizes its span and forgets it
(`runNormal_closes`).  If it has failed under an error handler as well, and not after a success, then
the error pass finds no span, starts a second one, and the flag makes it finalize that one too.  The
main statement, `spans_of_closing_passes`, says that there is no other way to a second span.
-/

namespace SpanLifecycle

/-- All that a chain does to what is traced is to ask for its request's span to be closed, if `closed`
says so. -/
structure Asks (r : RequestName) (closed : Bool) (w w' : World) : Prop where
  backend : w'.backend = w.backend
  exporting : w'.exporting = w.exporting
  failures : w'.failures = w.failures
  spans : w'.spans = w.spans
  current : w'.current = w.current
  attributes : w'.attributes r = askedAttributes closed (w.attributes r)
  answer : ∀ c, (w'.coordinator c).answer = (w.coordinator c).answer
  calls : w'.calls = w.calls
  exports : w'.exports = w.exports

namespace Asks

variable {r : RequestName} {closed : Bool} {w w' : World}

theorem span (h : Asks r closed w w') (id : SpanId) : w'.span id = w.span id := by
  unfold World.span
  rw [h.spans]

theorem isCurrent (h : Asks r closed w w') (id : SpanId) : w'.isCurrent id = w.isCurrent id := by
  unfold World.isCurrent World.anchor
  rw [h.current, h.span]

theorem asked (h : Asks r closed w w') (id : SpanId) : AskedToClose r id closed w w' where
  exporting := h.exporting
  failures := h.failures
  length := Nat.le_of_eq (congrArg List.length h.spans.symm)
  span := h.span id
  attributes := h.attributes
  answer := h.answer

/-- A chain that asks for nothing keeps to itself. -/
theorem apart (h : Asks r false w w') (id : SpanId) : Apart r id w w' :=
  ⟨h.exporting, h.failures, (h.asked id).length, h.span id, h.attributes, h.answer⟩

end Asks

/-- A failure after a success is left to an error handler: a close request does not come before. -/
def Outcome.isDeferred (o : Outcome) : Bool :=
  o.successful && !o.alreadyFinalized && (o.hasException && o.hasErrorHandler)

/-- A current span that is to be closed is finalized and forgotten, or the decision is put off. -/
theorem Outcome.decide_closing {o : Outcome} (ha : o.asyncStarted = false)
    (hc : o.shouldClose = true) (hcurrent : o.stillCurrent = true) :
    o.decide.verdict = (if o.isDeferred then .defer else .finalize) ∧
      o.decide.clearActiveSpan = !o.isDeferred := by
  unfold decide isDeferred
  simp only [ha, hc, hcurrent, Bool.false_eq_true, if_false, Bool.not_true, Bool.and_false,
    Bool.true_or, Bool.and_true, if_true]
  cases o.successful && !o.alreadyFinalized with
  | false => exact ⟨rfl, rfl⟩
  | true => cases o.hasException && o.hasErrorHandler <;> exact ⟨rfl, rfl⟩

/-- The attributes of a request whose span was closed when that was asked for. -/
structure Attributes.IsClosed (m : Attributes) : Prop where
  bare : m.activeSpan = none
  closing : m.shouldClose = true
  final : m.isAlreadyFinalized = true
  notAsync : m.isAsyncStarted = false

namespace Pass

variable {ρ : Type} {chain : Chain ρ} {v : World}

/-- A pass whose span is to be closed, and is still current, finalizes and forgets it. -/
theorem runNormal_closes (c : String) (x : Exchange) (id : SpanId) (b : Bool) (scope : Scope)
    (hw : (chain v).world.IsWorking) (ha : ((chain v).world.coordinator c).answer = .ok b)
    (hid : id < (chain v).world.spans.length) (hs : ((chain v).world.span id).state = .opened)
    (hasync : ((chain v).world.attributes x.request).isAsyncStarted = false)
    (hclose : ((chain v).world.attributes x.request).shouldClose = true)
    (hcurrent : (chain v).world.isCurrent id = true)
    (hdone : isSuccessfulStatus (chain v).status = true →
      ((chain v).world.attributes x.request).isAlreadyFinalized = true) :
    let done := chain v
    let last := runNormal c x id scope chain v
    last.raised = done.raised ∧ Within x.request id done.world last.world ∧
    (last.world.attributes x.request).IsClosed ∧
    ∃ calls exports, Adds done.world last.world calls exports ∧
      ReportedOnce id ((failureOf done.raised).map .fault)
        ((done.world.span id).recording && done.world.exporting) (last.world.span id) calls
        exports := by
  intro done last
  obtain ⟨hraised, hbecomes⟩ := runNormal_settles c x id b scope hw ha hid hs hasync
  generalize ho : (outcome (noteFailure x done.raised done.world) x.request done.status id
    (failureOf done.raised) b) = o at hbecomes
  have hnote := noteFailure_becomes x done.raised id done.world
  have hnoted : ∀ k, k ≠ .pendingException →
      (notedAttributes done.raised (done.world.attributes x.request)).flag k =
        (done.world.attributes x.request).flag k := fun _ hk => notedAttributes_flag _ _ hk
  have hdeferred : o.isDeferred = false := by
    have hsuccess : (isSuccessfulStatus done.status &&
        !((noteFailure x done.raised done.world).attributes x.request).isAlreadyFinalized) =
        false := by
      rw [hnote.itsAttributes]
      cases hstatus : isSuccessfulStatus done.status with
      | false => rfl
      | true => simp [hnoted, show (done.world.attributes x.request).flag .alreadyFinalized = true
          from hdone hstatus]
    rw [← ho]
    unfold Outcome.isDeferred
    exact Bool.and_eq_false_imp.mpr fun h => absurd (hsuccess.symm.trans h) Bool.false_ne_true
  have hshould : o.shouldClose = true := by
    rw [← ho]
    show ((noteFailure x done.raised done.world).attributes x.request).shouldClose = true
    rw [hnote.itsAttributes]
    exact (hnoted .shouldClose (by decide)).trans hclose
  have hstill : o.stillCurrent = true := by
    rw [← ho]
    exact (noteFailure_isCurrent x done.world done.raised id).trans hcurrent
  obtain ⟨hverdict, hclear⟩ := Outcome.decide_closing (by rw [← ho]; rfl) hshould hstill
  rw [hdeferred] at hverdict hclear
  unfold settled at hbecomes
  simp only [hverdict, hclear] at hbecomes
  generalize hspan : (if o.decide.tagStatus then _ else _ : Span) = s at hbecomes
  have hrecording : s.recording = (done.world.span id).recording := by
    rw [← hspan]
    cases o.decide.tagStatus <;> rfl
  have hclosing := (hnoted .shouldClose (by decide)).trans hclose
  have hnotAsync := (hnoted .asyncStarted (by decide)).trans hasync
  refine ⟨hraised, hbecomes.toWithin, ?_, _, _, ⟨hbecomes.calls, hbecomes.exports⟩, ?_⟩
  · rw [hbecomes.itsAttributes]
    change Attributes.IsClosed (if (failureOf done.raised).isNone then _ else _)
    generalize notedAttributes done.raised (done.world.attributes x.request) = m at *
    cases failureOf done.raised <;> constructor <;>
      simp [hclosing, hnotAsync, Attribute.truthy, Value.truthy]
  · rw [hbecomes.itsSpan, ← hrecording]
    exact reportedOnce_finalized ..

end Pass

/-! ## What the passes make -/

/-- From one world to another these spans were created, for the exchanges beside them; all of them
are finalized, and those that are sampled were exported, one after the other. -/
structure Makes (w w' : World) (made : List (SpanId × Exchange)) : Prop where
  created : ∃ calls, w'.calls = w.calls ++ calls ∧
    calls.filterMap (·.creates?) = made.map (·.1)
  exported : w'.exports = w.exports ++ (made.filter fun m => m.2.isSampled w && w.exporting).map
    fun m => (w'.span m.1).toExported
  finalized : ∀ m ∈ made, (w'.span m.1).state = .finalized

/-- A span that was created and then reported once. -/
theorem ReportedOnce.makes {w w' : World} {x : Exchange} {id : SpanId} {name : String}
    {cause : Option Attribute} {calls : List TracerCall} {exports : List ExportedSpan}
    (hcalls : w'.calls = w.calls ++ .created id name :: calls)
    (hexports : w'.exports = w.exports ++ exports)
    (h : ReportedOnce id cause (x.isSampled w && w.exporting) (w'.span id) calls exports) :
    Makes w w' [(id, x)] where
  created := ⟨_, hcalls, congrArg (id :: ·) h.uncreated⟩
  exported := by
    rw [hexports, h.exports]
    cases hx : x.isSampled w && w.exporting <;> simp [hx]
  finalized m hm := by
    rw [List.mem_singleton.mp hm]
    exact h.state

/-- What is made later comes after what was made before. -/
theorem Makes.trans {w w' w'' : World} {made made' : List (SpanId × Exchange)}
    (h : Makes w w' made) (g : Makes w' w'' made') (hbackend : w'.backend = w.backend)
    (hexporting : w'.exporting = w.exporting)
    (hspan : ∀ m ∈ made, w''.span m.1 = w'.span m.1) : Makes w w'' (made ++ made') where
  created := by
    obtain ⟨calls, hcalls, hmade⟩ := h.created
    obtain ⟨calls', hcalls', hmade'⟩ := g.created
    refine ⟨calls ++ calls', by rw [hcalls', hcalls, List.append_assoc], ?_⟩
    rw [List.filterMap_append, List.map_append, hmade, hmade']
  exported := by
    have hsampled : (fun m : SpanId × Exchange => m.2.isSampled w' && w'.exporting) =
        fun m => m.2.isSampled w && w.exporting := by
      funext m
      unfold Exchange.isSampled
      rw [hbackend, hexporting]
    rw [g.exported, h.exported, hsampled, List.filter_append, List.map_append, List.append_assoc]
    congr 2
    refine List.map_congr_left fun m hm => ?_
    rw [hspan m (List.mem_filter.mp hm).1]
  finalized m hm := by
    rcases List.mem_append.mp hm with hm | hm
    · rw [hspan m hm]
      exact h.finalized m hm
    · exact g.finalized m hm

section Passes

open Pass

variable {ρ : Type} {chain : Chain ρ} {x x' : Exchange} {c : String} {w v : World}
  {b closed : Bool}

/-- A pass over a request without a span by which the new span was closed as asked. -/
structure ClosingPass (x : Exchange) (w w' : World) : Prop where
  makes : Makes w w' [(w.spans.length, x)]
  closed : (w'.attributes x.request).IsClosed
  length : w'.spans.length = w.spans.length + 1
  others : ∀ j, j ≠ w.spans.length → w'.span j = w.span j
  backend : w'.backend = w.backend
  exporting : w'.exporting = w.exporting
  failures : w'.failures = w.failures
  answer : ∀ c, (w'.coordinator c).answer = (w.coordinator c).answer

/-- The span of a pass is closed as asked, unless its success is still to be dealt with. -/
theorem closingPass (hw : w.IsWorking) (ha : (w.coordinator c).answer = .ok b)
    (hactive : Attribute.present? (w.attributes x.request).activeSpan = none)
    (hasync : (w.attributes x.request).isAsyncStarted = false)
    (hchain : ∀ v, x.chainStart? c w = some v → Asks x.request closed v (chain v).world)
    (hclose : closed = true ∨ (w.attributes x.request).shouldClose = true)
    (hdone : isSuccessfulStatus (x.handle c chain w).status = true →
      (w.attributes x.request).isAlreadyFinalized = true) :
    ClosingPass x w (x.handle c chain w).world := by
  obtain ⟨v, scope, hv, hb, hrun⟩ := Exchange.handle_begins (c := c) (hw .create) hactive
  have hc := hchain v hv
  have hflag : ∀ k, k ≠ .activeSpan → k ≠ .spanWithoutParent → k ≠ .shouldClose →
      ((chain v).world.attributes x.request).flag k = (w.attributes x.request).flag k := by
    intro k h₁ h₂ h₃
    have hopen := openingAttributes_flag (w.attributes x.request) w.spans.length
      (v.span w.spans.length).isRoot k h₁ h₂
    rw [hc.attributes, hb.attributes]
    unfold askedAttributes
    cases closed with
    | false => exact hopen
    | true => simpa [h₃] using hopen
  have hclosing : ((chain v).world.attributes x.request).shouldClose = true := by
    have hopen := openingAttributes_flag (w.attributes x.request) w.spans.length
      (v.span w.spans.length).isRoot .shouldClose (by decide) (by decide)
    rw [hc.attributes, hb.attributes]
    unfold askedAttributes
    cases closed with
    | false => exact hopen.trans (hclose.resolve_left Bool.false_ne_true)
    | true => simp [Attribute.truthy, Value.truthy]
  have hcurrent : (chain v).world.isCurrent w.spans.length = true := by
    have hstart := x.chainStart?_isCurrent w hv
    unfold Exchange.spanIn at hstart
    rw [hactive] at hstart
    exact (hc.isCurrent _).trans hstart
  rw [hrun chain] at hdone ⊢
  obtain ⟨-, hwithin, hclosed, calls, exports, hadds, hreported⟩ := runNormal_closes c x
    w.spans.length b scope
    (fun verb => by rw [hc.failures, hb.failures]; exact hw verb)
    ((hc.answer c).trans ((hb.answer c).trans ha))
    (by rw [hc.spans, hb.length]; exact Nat.lt_succ_self _)
    (by rw [hc.span]; exact hb.span.state)
    ((hflag .asyncStarted (by decide) (by decide) (by decide)).trans hasync) hclosing hcurrent
    (fun hs => (hflag .alreadyFinalized (by decide) (by decide) (by decide)).trans (hdone hs))
  rw [hc.span, hb.span.recording, hc.exporting, hb.exporting] at hreported
  have hcalls := hadds.calls
  rw [hc.calls, hb.calls, List.append_assoc] at hcalls
  refine ⟨hreported.makes hcalls ?_, hclosed, ?_, fun j hj => ?_, ?_, ?_, ?_, fun d => ?_⟩
  · rw [hadds.exports, hc.exports, hb.exports]
  · rw [hwithin.length, hc.spans, hb.length]
  · rw [hwithin.span j hj, hc.span, hb.others j hj]
  · exact hwithin.backend.trans (hc.backend.trans hb.backend)
  · exact hwithin.exporting.trans (hc.exporting.trans hb.exporting)
  · exact hwithin.failures.trans (hc.failures.trans hb.failures)
  · exact (hwithin.answer d).trans ((hc.answer d).trans (hb.answer d))

/-- A failed request whose span was not closed as asked has one span after its error pass. -/
theorem makes_handed {ρ' : Type} (chain' : Chain ρ') {e : Fault} (hb : x.Begins c w v)
    (hw : w.IsWorking) (ha : (w.coordinator c).answer = .ok true)
    (hm : (w.attributes x.request).IsUntraced)
    (hc : Asks x.request closed v (chain v).world) (scope : Scope)
    (hx : failureOf (chain v).raised = some e)
    (hclosed : closed = true → isSuccessfulStatus (chain v).status = true)
    (hrequest : x'.request = x.request) (hstatus : isSuccessfulStatus x'.status = false) :
    let first := (runNormal c x w.spans.length scope chain v).world
    (∀ v', x'.chainStart? c first = some v' → Asks x.request false v' (chain' v').world) →
    Makes w (x'.handle c chain' first).world [(w.spans.length, x)] := by
  intro first hchain'
  obtain ⟨hwithin, final, calls, exports, hadds, hawaits, hreported, hunreported⟩ :=
    asked_hands hb hw ha hm (hc.asked w.spans.length) scope hx hclosed
  change Within _ _ _ first at hwithin
  change Adds _ first _ _ at hadds
  change AwaitsError _ _ _ (first.attributes _) at hawaits
  obtain ⟨v', scope', hv', -, hb', hrun'⟩ := Exchange.handle_resumes (x := x') (c := c)
    (by rw [hrequest]; exact hawaits.active)
  have hb' := hb' w.spans.length
  have hc' := hchain' v' hv'
  have hawaits' : AwaitsError w.spans.length (some e) final (v'.attributes x'.request) := by
    rw [hb'.itsAttributes, hrequest]
    exact hawaits.markSpanContinued
  have hfailures : v'.failures = w.failures :=
    hb'.failures.trans (hwithin.failures.trans (hc.failures.trans hb.failures))
  have hexporting : v'.exporting = w.exporting :=
    hb'.exporting.trans (hwithin.exporting.trans (hc.exporting.trans hb.exporting))
  have hlength : w.spans.length < v'.spans.length := by
    rw [hb'.length, hwithin.length, hc.spans, hb.length]
    exact Nat.lt_succ_self _
  obtain ⟨-, -, calls', exports', hadds', hdone, hlate⟩ := error_reports scope' chain'
    (fun verb => by rw [hfailures]; exact hw verb) hlength hawaits'
    (fun hf => by rw [hb'.itsSpan]; exact (hunreported hf).1.state)
    (by rw [hrequest]; exact hc'.apart _)
  rw [← hrun' hstatus chain'] at hadds' hdone hlate
  have hall : ReportedOnce w.spans.length (some (.fault e)) (x.isSampled w && w.exporting)
      ((x'.handle c chain' first).world.span w.spans.length) (calls ++ calls')
      (exports ++ exports') := by
    cases final with
    | true =>
      obtain ⟨rfl, rfl, hspan⟩ := hdone rfl
      rw [List.append_nil, List.append_nil, hspan, hb'.itsSpan]
      exact hreported rfl
    | false =>
      obtain ⟨hun, hrecording⟩ := hunreported rfl
      have hlate := hlate rfl
      rw [hb'.itsSpan, hrecording, hexporting] at hlate
      exact hlate.after hun
  have hcalls := hadds'.calls
  rw [hc'.calls, hb'.calls, List.append_nil, hadds.calls, hc.calls, hb.calls, List.append_assoc,
    List.append_assoc] at hcalls
  refine hall.makes hcalls ?_
  rw [hadds'.exports, hc'.exports, hb'.exports, List.append_nil, hadds.exports, hc.exports,
    hb.exports, List.append_assoc]

/-- One whose span was closed as asked has a second one: the flag that asked for the first span to
be closed asks it of the next one too. -/
theorem makes_again {ρ' : Type} {w' : World} (chain' : Chain ρ') (h : ClosingPass x w w')
    (hw : w.IsWorking) (ha : (w.coordinator c).answer = .ok b) (hrequest : x'.request = x.request)
    (hchain' : ∀ v, x'.chainStart? c w' = some v → Asks x.request false v (chain' v).world) :
    Makes w (x'.handle c chain' w').world [(w.spans.length, x), (w.spans.length + 1, x')] := by
  have hm := h.closed
  rw [← hrequest] at hm hchain'
  have hagain : ClosingPass x' w' (x'.handle c chain' w').world :=
    closingPass (fun verb => by rw [h.failures]; exact hw verb) ((h.answer c).trans ha)
      (by rw [hm.bare]; rfl) hm.notAsync hchain' (.inr hm.closing) fun _ => hm.final
  have hall := h.makes.trans hagain.makes h.backend h.exporting fun m hmade => by
    rw [List.mem_singleton.mp hmade]
    exact hagain.others _ (by rw [h.length]; exact Nat.ne_of_lt (Nat.lt_succ_self _))
  rw [h.length] at hall
  exact hall

end Passes

/-! ## Programs that ask -/

/-- One step of a chain that asks for its span to be closed, or sets a status. -/
inductive CloseStep where
  | close
  | status (code : Int)

namespace CloseStep

/-- A step as an action of a program. -/
def action : CloseStep → Action
  | close => .store none .requestClose
  | status code => .status code

/-- Whether a step asks for the span to be closed. -/
def isClose : CloseStep → Bool
  | close => true
  | status _ => false

/-- A chain that makes steps, and then returns or raises. -/
def chain (r : RequestName) (status : Int) (steps : List CloseStep) (raised : Option Fault) :
    Chain (List Answer) :=
  runActions r status (steps.map action ++ (raised.map .raise).toList)

end CloseStep

namespace Asks

variable {r : RequestName} {w w' w'' : World}

theorem refl (r : RequestName) (w : World) : Asks r false w w :=
  ⟨rfl, rfl, rfl, rfl, rfl, rfl, fun _ => rfl, rfl, rfl⟩

/-- Asking twice is asking once. -/
theorem trans {closed closed' : Bool} (h : Asks r closed w w') (g : Asks r closed' w' w'') :
    Asks r (closed || closed') w w'' where
  backend := g.backend.trans h.backend
  exporting := g.exporting.trans h.exporting
  failures := g.failures.trans h.failures
  spans := g.spans.trans h.spans
  current := g.current.trans h.current
  attributes := by
    rw [g.attributes, h.attributes]
    unfold askedAttributes
    cases closed <;> cases closed' <;> simp [Attributes.put, Mapping.set_set]
  answer c := (g.answer c).trans (h.answer c)
  calls := g.calls.trans h.calls
  exports := g.exports.trans h.exports

theorem requestClose (r : RequestName) (w : World) :
    Asks r true w (w.store r .requestClose).2 where
  backend := rfl
  exporting := rfl
  failures := rfl
  spans := rfl
  current := rfl
  attributes := by
    show ((w.openRequest r).setAttributes r _).attributes r = _
    rw [World.attributes_setAttributes, if_pos rfl, World.attributes_openRequest]
    rfl
  answer _ := rfl
  calls := rfl
  exports := rfl

end Asks

/-- A chain that is made of such steps asks for its span to be closed if one of them does, does
nothing else to what is traced, and raises what it is to raise. -/
theorem CloseStep.chain_asks (r : RequestName) (steps : List CloseStep) (raised : Option Fault) :
    ∀ (status : Int) (w : World),
      (chain r status steps raised w).raised = raised ∧
        Asks r (steps.any isClose) w (chain r status steps raised w).world := by
  induction steps with
  | nil =>
    intro status w
    cases raised with
    | none =>
      unfold chain
      exact ⟨rfl, Asks.refl r w⟩
    | some e =>
      show (runActions r status [.raise e] w).raised = some e ∧ _
      unfold runActions runAction
      exact ⟨rfl, Asks.refl r w⟩
  | cons s rest ih =>
    intro status w
    unfold chain
    show (runActions r status (s.action :: _) w).raised = raised ∧
      Asks r (s.isClose || rest.any isClose) w (runActions r status (s.action :: _) w).world
    unfold runActions
    cases s with
    | close =>
      obtain ⟨hraised, hrest⟩ := ih status (w.store r .requestClose).2
      exact ⟨hraised, (Asks.requestClose r w).trans hrest⟩
    | status code =>
      obtain ⟨hraised, hrest⟩ := ih code w
      exact ⟨hraised, (Asks.refl r w).trans hrest⟩

/-! ## Main statement -/

/-- A request with no attributes of its own yet is handled by a chain that does nothing to what is
traced but ask for its span to be closed, if `closed` says so; and if that failed and there is an
error handler, it is handled once more by an error pass whose chain does nothing to what is traced.
Exactly one span is created for it, finalized, and exported once if it is sampled; and a second one
exactly if it failed under an error handler, was to be closed, and its response was no success. -/
theorem spans_of_closing_passes {ρ ρ' : Type} {w : World} {x x' : Exchange} {c : String}
    {b closed : Bool} (chain : Chain ρ) (chain' : Chain ρ') (hw : w.IsWorking)
    (ha : (w.coordinator c).answer = .ok b) (hm : (w.attributes x.request).IsUntraced)
    (hchain : ∀ v, x.chainStart? c w = some v → Asks x.request closed v (chain v).world)
    (hrequest : x'.request = x.request) (hstatus : isSuccessfulStatus x'.status = false)
    (hchain' : ∀ v, x'.chainStart? c (x.handle c chain w).world = some v →
      Asks x.request false v (chain' v).world) :
    let first := x.handle c chain w
    let failed := (Pass.failureOf first.raised).isSome && b
    let last := if failed then (x'.handle c chain' first.world).world else first.world
    let twice := failed && closed && !isSuccessfulStatus first.status
    Makes w last (if twice then [(w.spans.length, x), (w.spans.length + 1, x')]
      else [(w.spans.length, x)]) := by
  have hactive : Attribute.present? (w.attributes x.request).activeSpan = none := by
    rw [show (w.attributes x.request).activeSpan = none from hm .activeSpan]
    rfl
  obtain ⟨v, scope, hv, hb, hrun⟩ := Exchange.handle_begins (c := c) (hw .create) hactive
  have hc := hchain v hv
  obtain ⟨-, -, -, -, -, -, -, -, hraised, -⟩ :=
    asked_settles hb hw ha hm (hc.asked w.spans.length) scope
  intro first failed last twice
  have hfirst : first = Pass.runNormal c x w.spans.length scope chain v := hrun chain
  have hfailure : failed = ((Pass.failureOf (chain v).raised).isSome && b) := by
    rw [← hraised, ← hfirst]
  cases hf : failed with
  | false =>
    have hlast : last = first.world := if_neg (by rw [hf]; exact Bool.false_ne_true)
    have htwice : twice = false := by
      show (failed && closed && _) = false
      rw [hf]
      rfl
    obtain ⟨-, calls, exports, hadds, hreported⟩ := asked_reports hb hw ha hm
      (hc.asked w.spans.length) scope (hfailure.symm.trans hf)
    have hcalls := hadds.calls
    rw [hc.calls, hb.calls, List.append_assoc] at hcalls
    rw [hlast, htwice, if_neg Bool.false_ne_true, hfirst]
    exact hreported.makes hcalls (by rw [hadds.exports, hc.exports, hb.exports])
  | true =>
    have hlast : last = (x'.handle c chain' first.world).world := if_pos hf
    obtain ⟨hsome, rfl⟩ := Bool.and_eq_true_iff.mp (hfailure.symm.trans hf)
    obtain ⟨e, he⟩ := Option.isSome_iff_exists.mp hsome
    have htwice : twice = (closed && !isSuccessfulStatus first.status) := by
      show (failed && closed && _) = _
      rw [hf, Bool.true_and]
    rw [hlast]
    cases ht : closed && !isSuccessfulStatus first.status with
    | false =>
      rw [htwice, ht, if_neg Bool.false_ne_true]
      have hclosed : closed = true → isSuccessfulStatus (chain v).status = true := by
        intro h
        rw [h, Bool.true_and, Bool.not_eq_false', hfirst] at ht
        exact ht
      have hhanded := makes_handed chain' hb hw ha hm hc scope he hclosed hrequest
        hstatus
      rw [← hfirst] at hhanded
      exact hhanded hchain'
    | true =>
      rw [htwice, ht, if_pos rfl]
      obtain ⟨hclosed, hstatus'⟩ := Bool.and_eq_true_iff.mp ht
      have hpass : ClosingPass x w first.world := closingPass hw ha hactive
        (hm.flag .asyncStarted) hchain (.inl hclosed) fun hs => by
          rw [show (x.handle c chain w).status = first.status from rfl] at hs
          rw [hs] at hstatus'
          cases hstatus'
      exact makes_again chain' hpass hw ha hrequest hchain'

/-- The first pass over a request whose chain asks for its span to be closed, sets a status and fails. -/
def closingFirst (status : Int) : ChainEnd (Option (List Answer)) :=
  (visit 0).handle "c"
    (CloseStep.chain outerRequest 0 [.close, .status status] (some { kind := .valueError }))
    handlingWorld

/-- The error pass after it. -/
def closingLast (status : Int) : ChainEnd (Option (List Answer)) :=
  (visit 500).handle "c" (CloseStep.chain outerRequest 500 [.status 500] none)
    (closingFirst status).world

/-- After a success that failed all the same, there is one span. -/
theorem closing_success_makes_one :
    ((closingFirst 200).raised.isSome = true ∧ (closingFirst 200).status = 200) ∧
      Makes handlingWorld (closingLast 200).world [(0, visit 0)] := by
  have hw : handlingWorld.IsWorking := by
    intro verb
    cases verb <;> rfl
  have h := spans_of_closing_passes (x := visit 0) (c := "c")
    (CloseStep.chain outerRequest 0 [.close, .status 200] (some { kind := .valueError }))
    (CloseStep.chain outerRequest 500 [.status 500] none) hw rfl (fun _ => rfl)
    (fun v _ => (CloseStep.chain_asks outerRequest [.close, .status 200] _ 0 v).2)
    (show (visit 500).request = (visit 0).request from rfl) rfl
    (fun v _ => (CloseStep.chain_asks outerRequest [.status 500] none 500 v).2)
  have hfailed : ((Pass.failureOf (closingFirst 200).raised).isSome && true) = true := by
    decide +kernel
  have honce : ¬ ((((Pass.failureOf (closingFirst 200).raised).isSome && true) && true &&
      !isSuccessfulStatus (closingFirst 200).status) = true) := by
    decide +kernel
  refine ⟨by decide +kernel, ?_⟩
  change Makes handlingWorld (if ((Pass.failureOf (closingFirst 200).raised).isSome && true) = true
    then (closingLast 200).world else (closingFirst 200).world)
    (if (((Pass.failureOf (closingFirst 200).raised).isSome && true) && true &&
      !isSuccessfulStatus (closingFirst 200).status) = true then [(0, visit 0), (1, visit 500)]
      else [(0, visit 0)]) at h
  rw [if_pos hfailed, if_neg honce] at h
  exact h

/-- A chain that asks for its span to be closed, and fails under an error handler, is followed by an
error pass that creates a second span, and both are exported. -/
theorem closing_failure_makes_two :
    (∀ v, Asks outerRequest true v (CloseStep.chain outerRequest 0 [.close, .status 0]
        (some { kind := .valueError }) v).world) ∧
      (∀ v, Asks outerRequest false v
        (CloseStep.chain outerRequest 500 [.status 500] none v).world) ∧
      (handlingWorld.attributes outerRequest).IsUntraced ∧
      (closingFirst 0).raised.map (·.isOrdinary) = some true ∧
      (closingLast 0).world.calls.filterMap (·.creates?) = [0, 1] ∧
      (closingLast 0).world.exports.length = 2 :=
  ⟨fun v => (CloseStep.chain_asks outerRequest [.close, .status 0] _ 0 v).2,
    fun v => (CloseStep.chain_asks outerRequest [.status 500] none 500 v).2,
    fun _ => rfl, by decide +kernel, by decide +kernel, by decide +kernel⟩

end SpanLifecycle
