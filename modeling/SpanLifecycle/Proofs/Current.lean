import SpanLifecycle.Proofs.Pass

/-!
# What is current

A pass makes its span current and undoes that at its end, on every way out of it: what was current
before a pass is current after it, whatever its chain has left behind (`handle_current`).  In
between, the chain of a pass starts with the pass's span as the current one
(`chainStart?_isCurrent`).
-/

namespace SpanLifecycle

namespace World

theorem log_current (w : World) (logger : String) (e : LogEvent) :
    (w.log logger e).current = w.current := by
  obtain ⟨logs, rs, h⟩ := w.log_eq logger e
  rw [h]

theorem log_spans (w : World) (logger : String) (e : LogEvent) :
    (w.log logger e).spans = w.spans := by
  obtain ⟨logs, rs, h⟩ := w.log_eq logger e
  rw [h]

theorem log_isCurrent (w : World) (logger : String) (e : LogEvent) (id : SpanId) :
    (w.log logger e).isCurrent id = w.isCurrent id := by
  obtain ⟨logs, rs, h⟩ := w.log_eq logger e
  rw [h]
  rfl

theorem openRequest_current (w : World) (r : RequestName) :
    (w.openRequest r).current = w.current := rfl

theorem activate_isCurrent (w : World) (id : SpanId) : (w.activate id).2.isCurrent id = true :=
  decide_eq_true rfl

/-- An open scope gives back what it has replaced. -/
theorem close_current (w : World) {s : Scope} (h : s.closed = false) :
    (w.close s).current = s.restores := by
  unfold close
  rw [h]
  rfl

end World

namespace Pass

variable {ρ : Type} (c : String) (x : Exchange) (chain : Chain ρ) (w : World)

theorem noteArrival_current : (noteArrival x w).current = w.current := w.log_current logger _

theorem tracked_current (id : SpanId) : (tracked x id w).current = w.current := by
  unfold tracked
  dsimp only
  split <;> rfl

/-- Starting a span makes nothing current yet, whether it succeeds or not. -/
theorem startSpan_current (stem : String) :
    ((startSpan stem x).runIn w).2.current = w.current := by
  cases hf : w.failures.of? .create with
  | some e =>
    rw [startSpan_failed hf]
    rfl
  | none =>
    obtain ⟨v, hv, h⟩ := startSpan_ok hf stem x
    rw [h]
    exact (tracked_current x v w.spans.length).trans hv.current

/-- The next span is the one that starts. -/
theorem startSpan_id {x : Exchange} {w v : World} {stem : String} {id : SpanId}
    (h : (startSpan stem x).runIn w = (.ok id, v)) : id = w.spans.length := by
  cases hf : w.failures.of? .create with
  | some e =>
    rw [startSpan_failed hf] at h
    cases h
  | none =>
    obtain ⟨u, -, hu⟩ := startSpan_ok hf stem x
    rw [hu] at h
    cases h
    rfl

theorem recalled_current (id : SpanId) : (recalled x w id).current = w.current :=
  World.log_current _ logger _

theorem noteFailure_current (raised : Option Fault) :
    (noteFailure x raised w).current = w.current := by
  unfold noteFailure
  split
  · split
    · exact World.log_current w logger _
    · rfl
  · rfl

theorem noteFailure_isCurrent (raised : Option Fault) (id : SpanId) :
    (noteFailure x raised w).isCurrent id = w.isCurrent id := by
  unfold noteFailure
  split
  · split
    · exact World.log_isCurrent w logger _ id
    · rfl
  · rfl

theorem resumed_isCurrent (id : SpanId) : (resumed x w id).isCurrent id = true := by
  have hactive := World.activate_isCurrent (recalled x w id) id
  have harrive : (noteArrival x ((recalled x w id).activate id).2).isCurrent id = true :=
    (World.log_isCurrent _ logger _ id).trans hactive
  unfold resumed
  dsimp only
  split
  · exact (World.log_isCurrent _ logger _ id).trans harrive
  · exact (World.log_isCurrent _ logger _ id).trans harrive

/-- A pass whose chain has not started has made nothing current. -/
theorem concludeNone_current (r : RequestName) (status : Int) (failure raised : Option Fault) :
    (finishWith (conclude c r status none failure) raised w).2.current = w.current := by
  unfold finishWith conclude
  cases h : (w.attributes r).isAsyncStarted with
  | true =>
    simp only [Act.runIn_bind, Act.runIn_get, h, if_true, Act.runIn_modify]
    exact World.log_current w logger _
  | false =>
    simp only [Act.runIn_bind, Act.runIn_get, h, Bool.false_eq_true, if_false, Act.runIn_pure]

/-- However the chain and the last step of a pass end, the scope of the pass is closed. -/
theorem runNormal_current (id : SpanId) {scope : Scope} (h : scope.closed = false) :
    (runNormal c x id scope chain w).world.current = scope.restores :=
  World.close_current _ h

theorem runError_current (id : SpanId) {scope : Scope} (h : scope.closed = false) :
    (runError x id scope chain w).world.current = scope.restores :=
  World.close_current _ h

/-- A pass over a new span gives back what was current, even if the span fails to start. -/
theorem first_current : (first c x chain w).world.current = w.current := by
  have hstart := (startSpan_current x (noteArrival x w) (w.coordinator c).stem).trans
    (noteArrival_current x w)
  rcases h : (startSpan (w.coordinator c).stem x).runIn (noteArrival x w) with ⟨e | id, u⟩
  · rw [h] at hstart
    rw [first_failed c x chain h]
    refine (concludeNone_current c _ x.request x.status _ _).trans ?_
    exact (noteFailure_current x u (some e)).trans hstart
  · rw [h] at hstart
    rw [first_started c x chain h]
    exact (runNormal_current c x chain _ id rfl).trans hstart

/-- So does one that goes on with a span. -/
theorem continued_current (id : SpanId) :
    (continued c x id chain w).world.current = w.current := by
  rw [continued_eq]
  split
  · exact (runNormal_current c x chain _ id rfl).trans (recalled_current x w id)
  · exact (runError_current x chain _ id rfl).trans (recalled_current x w id)

end Pass

namespace Exchange

variable {ρ : Type} (x : Exchange) (c : String) (chain : Chain ρ) (w : World)

/-- The span of a pass: the one that the request brings along, or else the next one. -/
def spanIn : SpanId :=
  match Attribute.present? (w.attributes x.request).activeSpan with
  | some (.span id) => id
  | _ => w.spans.length

/-- The chain of a pass starts with the pass's span as the current one. -/
theorem chainStart?_isCurrent {c : String} {v : World} (h : x.chainStart? c w = some v) :
    v.isCurrent (x.spanIn w) = true := by
  unfold chainStart? at h
  unfold spanIn
  dsimp only at h
  rw [World.attributes_openRequest] at h
  split at h
  · next ha =>
    rw [ha]
    split at h
    · next id u hu =>
      cases h
      have hid : id = w.spans.length :=
        (Pass.startSpan_id hu).trans (congrArg List.length (World.log_spans _ Pass.logger _))
      rw [hid]
      exact u.activate_isCurrent w.spans.length
    · cases h
  · next id ha =>
    cases h
    rw [ha]
    exact Pass.resumed_isCurrent x _ id
  · cases h

/-- The ways into a pass: with a span to start, with the span that the request brings along, or none,
as what it brings along is no span. -/
theorem handle_ways :
    let v := w.openRequest x.request
    x.handle c chain w = Pass.first c x chain v ∨
      (∃ id, x.handle c chain w = Pass.continued c x id chain v) ∨
      (x.handle c chain w).world = v.modifyAttributes x.request (·.markSpanContinued) := by
  intro v
  unfold handle
  dsimp only
  cases Attribute.present? ((w.openRequest x.request).attributes x.request).activeSpan with
  | none => exact .inl rfl
  | some a =>
    cases a with
    | span id => exact .inr (.inl ⟨id, rfl⟩)
    | _ => exact .inr (.inr rfl)

/-- What was current before a pass is current after it, whatever stands under the active-span key,
whatever the chain does, raises and leaves behind, and whichever operation fails. -/
theorem handle_current : (x.handle c chain w).world.current = w.current := by
  rw [← w.openRequest_current x.request]
  rcases x.handle_ways c chain w with h | ⟨id, h⟩ | h
  · rw [h]
    exact Pass.first_current c x chain _
  · rw [h]
    exact Pass.continued_current c x chain _ id
  · rw [h]
    rfl

end Exchange

end SpanLifecycle
