import SpanLifecycle.Proofs.Tracer
import SpanLifecycle.Pass

/-!
# The parts of a pass

A pass opens with a span, its own (`first_started`) or one that the request brings along
(`continued_eq`), and ends as its conclusion does (`runNormal_ok`, `runNormal_error`, `runError_ok`).
What a conclusion asks of the coordinator, `hasErrorHandler_answer` says once; and a decision is
carried out in two steps, of which the first only marks (`applyDecision_runIn`).
-/

namespace SpanLifecycle

namespace Pass

/-! ## Starting the span -/

/-- The world in which a started span is the active span of an exchange's request. -/
def tracked (x : Exchange) (id : SpanId) (w : World) : World :=
  let w := w.modifyAttributes x.request (·.setActiveSpan (.span id))
  if (w.span id).isRoot then w.modifyAttributes x.request (·.raiseFlag .spanWithoutParent) else w

theorem startSpan_failed {w : World} {e : Fault} (hf : w.failures.of? .create = some e)
    (stem : String) (x : Exchange) :
    (startSpan stem x).runIn w = (.error e, w.enter (.call (.failed .create))) := by
  unfold startSpan
  rw [Act.runIn_bind, Tracer.start_failed hf]

theorem startSpan_ok {w : World} (hf : w.failures.of? .create = none) (stem : String)
    (x : Exchange) :
    ∃ v, Tracer.Started x.headers (stem ++ ":" ++ x.path) w v ∧
      (startSpan stem x).runIn w = (.ok w.spans.length, tracked x w.spans.length v) := by
  obtain ⟨v, h, hs⟩ := Tracer.start_ok hf x.headers (stem ++ ":" ++ x.path) x.method x.path
  refine ⟨v, hs, ?_⟩
  unfold startSpan
  simp only [Act.runIn_bind, h, Act.runIn_modify, Act.runIn_get, Act.runIn_when, Act.runIn_pure]
  rfl

/-! ## Opening a pass -/

variable {ρ : Type} (c : String) (x : Exchange) (chain : Chain ρ) (w : World)

/-- The world in which a span is known to go on. -/
def recalled (id : SpanId) : World :=
  let w := w.modifyAttributes x.request (·.markSpanContinued)
  log { severity := .debug, event := "span_continued", fields := Tracer.idFields (w.span id) } w

/-- The world in which the chain of a further pass over a span starts. -/
def resumed (id : SpanId) : World :=
  let w := noteArrival x ((recalled x w id).activate id).2
  if isSuccessfulStatus x.status then
    log
      { severity := .debug, event := "span_reused"
        fields := [("trace_id", .text (w.span id).context.traceText)] } w
  else
    log { severity := .debug, event := "error_redispatch", fields := Tracer.idFields (w.span id) } w

theorem continued_eq (id : SpanId) :
    continued c x id chain w =
      if isSuccessfulStatus x.status then
        runNormal c x id ((recalled x w id).activate id).1 chain (resumed x w id)
      else runError x id ((recalled x w id).activate id).1 chain (resumed x w id) := by
  unfold continued resumed recalled
  by_cases h : isSuccessfulStatus x.status = true
  · simp only [h, if_true]
  · simp only [h, Bool.false_eq_true, if_false]

variable {w}

theorem first_started {v : World} {id : SpanId}
    (h : (startSpan (w.coordinator c).stem x).runIn (noteArrival x w) = (.ok id, v)) :
    first c x chain w = runNormal c x id (v.activate id).1 chain (v.activate id).2 := by
  unfold first
  simp only [h]

theorem first_failed {v : World} {e : Fault}
    (h : (startSpan (w.coordinator c).stem x).runIn (noteArrival x w) = (.error e, v)) :
    first c x chain w =
      let done := finishWith (conclude c x.request x.status none (failureOf (some e))) (some e)
        (noteFailure x (some e) v)
      { world := done.2, status := x.status, reply := none, raised := done.1 } := by
  unfold first
  simp only [h]

/-! ## Ending a pass -/

variable {c x chain} {id : SpanId} {scope : Scope} {w' : World}

/-- What the last step of a pass raises makes no difference to the world. -/
theorem finishWith_snd (last : Act Unit) (raised : Option Fault) (w : World) :
    (finishWith last raised w).2 = (last.runIn w).2 := by
  unfold finishWith
  rcases last.runIn w with ⟨e | _, v⟩ <;> rfl

theorem runNormal_ok
    (h : (conclude c x.request (chain w).status (some id) (failureOf (chain w).raised)).runIn
      (noteFailure x (chain w).raised (chain w).world) = (.ok (), w')) :
    runNormal c x id scope chain w =
      { world := w'.close scope, status := (chain w).status, reply := some (chain w).reply
        raised := (chain w).raised } := by
  unfold runNormal finishWith
  simp only [h]

/-- What a conclusion raises takes the place of what the chain has raised. -/
theorem runNormal_error {e : Fault}
    (h : (conclude c x.request (chain w).status (some id) (failureOf (chain w).raised)).runIn
      (noteFailure x (chain w).raised (chain w).world) = (.error e, w')) :
    runNormal c x id scope chain w =
      { world := w'.close scope, status := (chain w).status, reply := some (chain w).reply
        raised := some e } := by
  unfold runNormal finishWith
  simp only [h]

theorem runError_ok
    (h : (concludeError x.request (chain w).status id).runIn (chain w).world = (.ok (), w')) :
    runError x id scope chain w =
      { world := w'.close scope, status := (chain w).status, reply := some (chain w).reply
        raised := (chain w).raised } := by
  unfold runError finishWith
  simp only [h]

end Pass

/-- The world in which the chain of an exchange starts, if it does. -/
def Exchange.chainStart? (x : Exchange) (c : String) (w : World) : Option World :=
  let w := w.openRequest x.request
  match Attribute.present? (w.attributes x.request).activeSpan with
  | none =>
    match (Pass.startSpan (w.coordinator c).stem x).runIn (Pass.noteArrival x w) with
    | (.ok id, v) => some (v.activate id).2
    | (.error _, _) => none
  | some (.span id) => some (Pass.resumed x w id)
  | some _ => none

namespace Pass

/-! ## The verdict -/

/-- The lookup for an error handler gives the coordinator's answer, now and ever after. -/
theorem hasErrorHandler_answer (c : String) (w : World) :
    ∃ w', (hasErrorHandler c).runIn w = ((w.coordinator c).answer, w') ∧ w'.current = w.current ∧
      ∀ r id, Becomes r id w w' { span := w.span id, attributes := w.attributes r } := by
  unfold hasErrorHandler Coordinator.answer
  cases hk : (w.coordinator c).known with
  | some b =>
    refine ⟨w, ?_, rfl, fun r id => Becomes.refl r id w⟩
    simp only [Act.runIn_bind, Act.runIn_get, hk, Act.runIn_pure]
  | none =>
    generalize hx : w.coordinator c = x at hk
    have asked : ∀ r id, Becomes r id w (w.setCoordinator c { x with lookups := x.lookups + 1 })
        { span := w.span id, attributes := w.attributes r } := fun r id =>
      Becomes.setCoordinator r id w c _ (by rw [hx]) (by unfold Coordinator.answer; rw [hx])
    cases hl : x.lookup with
    | error e =>
      refine ⟨_, ?_, ?_, asked⟩
      · simp only [Act.runIn_bind, Act.runIn_get, hx, hk, Act.runIn_modify, hl, Act.runIn_throw]
      · rfl
    | ok b =>
      refine ⟨_, ?_, ?_, fun r id => (asked r id).trans (Becomes.setCoordinator r id _ c
        { x with lookups := x.lookups + 1, known := some b } ?_ ?_)⟩
      · simp only [Act.runIn_bind, Act.runIn_get, hx, hk, Act.runIn_modify, hl, Act.runIn_pure]
      · rfl
      · rw [World.coordinator_setCoordinator, if_pos rfl]
      · rw [World.coordinator_setCoordinator, if_pos rfl]
        unfold Coordinator.answer
        simp only [hk, hl]

/-- The world in which a decision has tagged the span and cleared the active span. -/
def marked (d : Decision) (r : RequestName) (status : Int) (id : SpanId) (w : World) : World :=
  let w := if d.tagStatus && (w.span id).state != .finalized then
    w.modifySpan id (·.tag httpStatusCode (toString status)) else w
  if d.clearActiveSpan then w.modifyAttributes r (·.clearActiveSpan) else w

/-- What a verdict makes of the span. -/
def carryOut (v : Verdict) (r : RequestName) (status : Int) (id : SpanId)
    (failure : Option Fault) : Act Unit := do
  match v with
  | .finalize =>
    if ← Tracer.finalize status (failure.map .fault) id then
      modify fun w => w.modifyAttributes r (·.raiseFlag .alreadyFinalized)
      if failure.isNone then
        modify fun w => w.modifyAttributes r fun m => m.takePendingException.2
  | .abandon => discard (Tracer.abandon id)
  | .defer => pure ()

/-- A decision first marks, and then does what its verdict says. -/
theorem applyDecision_runIn (d : Decision) (r : RequestName) (status : Int) (id : SpanId)
    (failure : Option Fault) (w : World) :
    (applyDecision d r status id failure).runIn w =
      (carryOut d.verdict r status id failure).runIn (marked d r status id w) := by
  unfold applyDecision marked carryOut
  cases d.verdict <;> simp only [Act.runIn_bind, Act.runIn_get, Act.runIn_when]

end Pass

end SpanLifecycle
