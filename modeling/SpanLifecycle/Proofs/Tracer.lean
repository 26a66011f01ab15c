import SpanLifecycle.Proofs.Act
import SpanLifecycle.Proofs.Frame
import SpanLifecycle.Tracer

/-!
# What the calls of the tracer do

Each call is inverted once: `FinalizeOutcome` and `AbandonOutcome` list all ways in which a call on
a span can go, with the answer and what comes of the world; `Started` says what a new span adds.
Later proofs go through these lists and never open a call again.
-/

namespace SpanLifecycle

namespace Span

theorem recordFault_eq (s : Span) (e : Fault) :
    s.recordFault e =
      { s with status := (s.recordFault e).status, events := (s.recordFault e).events } := by
  unfold recordFault
  split <;> rfl

theorem markFailed_eq (s : Span) : s.markFailed = { s with status := s.markFailed.status } := by
  unfold markFailed
  split <;> rfl

/-- A report changes the tags, the attributes, the status and the events of a span at most. -/
theorem report_eq (s : Span) (status : Int) (cause : Option Attribute) :
    s.report status cause =
      { s with
        tags := (s.report status cause).tags
        attributes := (s.report status cause).attributes
        status := (s.report status cause).status
        events := (s.report status cause).events } := by
  unfold report
  split
  · next e =>
    rw [recordFault_eq s e]
    split
    · split
      · rw [markFailed_eq]; rfl
      · rfl
    · rfl
  · split
    · split
      · rw [markFailed_eq]; rfl
      · rfl
    · rfl

end Span

/-! ## Calls -/

namespace TracerCall

/-- The span that a call has finalized. -/
def finalizes? : TracerCall → Option SpanId
  | .finalized id _ _ true => some id
  | _ => none

/-- The span that a call has abandoned. -/
def abandons? : TracerCall → Option SpanId
  | .abandoned id true => some id
  | _ => none

/-- The span that a call has created. -/
def creates? : TracerCall → Option SpanId
  | .created id _ => some id
  | _ => none

/-- A call that has done nothing to any span. -/
def IsIdle (c : TracerCall) : Prop := c.finalizes? = none ∧ c.abandons? = none

end TracerCall

/-- The operations of the tracer do not fail. -/
def World.IsWorking (w : World) : Prop := ∀ v, w.failures.of? v = none

theorem Within.isWorking {r : RequestName} {id : SpanId} {w w' : World} (h : Within r id w w')
    (hw : w.IsWorking) : w'.IsWorking := by
  intro v
  rw [h.failures]
  exact hw v

namespace Tracer

theorem failIfTold_of_none {v : Verb} {w : World} (h : w.failures.of? v = none) :
    (failIfTold v).runIn w = (.ok (), w) := by
  unfold failIfTold
  simp [h]

theorem failIfTold_of_some {v : Verb} {w : World} {e : Fault} (h : w.failures.of? v = some e) :
    (failIfTold v).runIn w = (.error e, w.enter (.call (.failed v))) := by
  unfold failIfTold
  simp [h]

/-! ## Finalizing -/

/-- What comes of a span that is finalized for the first time. -/
def finalizedUpshot (id : SpanId) (status : Int) (cause : Option Attribute) (exporting : Bool)
    (s : Span) (m : Attributes) : Upshot :=
  { span := (s.report status cause).finish
    attributes := m
    calls := [.finalized id status cause true]
    exports := if s.recording && exporting then [(s.report status cause).toExported] else [] }

/-- A cause that a recording span cannot record: something that is no exception. -/
def isRefused (s : Span) (cause : Option Attribute) : Bool :=
  match cause with
  | none | some (.fault _) => false
  | some _ => s.recording

/-- The ways in which finalizing a span can go. -/
inductive FinalizeOutcome (status : Int) (cause : Option Attribute) (id : SpanId) (w : World) :
    Except Fault Bool × World → Prop where
  | failed (e : Fault) (h : w.failures.of? .finalize = some e) :
      FinalizeOutcome status cause id w (.error e, w.enter (.call (.failed .finalize)))
  | late (w' : World) (h : (w.span id).state = .finalized)
      (hw : ∀ r, Becomes r id w w'
        { span := w.span id, attributes := w.attributes r
          calls := [.finalized id status cause false] }) :
      FinalizeOutcome status cause id w (.ok false, w')
  | refused (e : Fault) (h : (w.span id).state ≠ .finalized)
      (hc : isRefused (w.span id) cause = true) :
      FinalizeOutcome status cause id w (.error e, w)
  | effective (w' : World) (h : (w.span id).state ≠ .finalized)
      (hc : isRefused (w.span id) cause = false)
      (hw : ∀ r, Becomes r id w w'
        (finalizedUpshot id status cause w.exporting (w.span id) (w.attributes r))) :
      FinalizeOutcome status cause id w (.ok true, w')

/-- The event that an effective finalization is logged with. -/
def finalizedEvent (s : Span) (status : Int) (cause : Option Attribute) : LogEvent :=
  { severity := .debug, event := "span_finalized"
    fields := idFields s ++
      [("status_code", .int status), ("error", .ofText? (cause.map (·.kindName)))] }

/-- The world after the span was ended, and exported if the exporter takes it. -/
def ended (w : World) (id : SpanId) (status : Int) (cause : Option Attribute) : World :=
  let s := (w.span id).report status cause
  let w' := w.modifySpan id fun _ => s.finish
  if (w.span id).recording && w.exporting then w'.enter (.exported s.toExported) else w'

/-- A finalization that is to fail does nothing else. -/
theorem finalize_failed {status : Int} {cause : Option Attribute} {id : SpanId} {w : World}
    {e : Fault} (hf : w.failures.of? .finalize = some e) :
    (finalize status cause id).runIn w = (.error e, w.enter (.call (.failed .finalize))) := by
  unfold finalize
  rw [Act.runIn_bind, failIfTold_of_some hf]

/-- What a span was finalized for before it is not finalized for again. -/
theorem finalize_late {status : Int} {cause : Option Attribute} {id : SpanId} {w : World}
    (hf : w.failures.of? .finalize = none) (hs : (w.span id).state = .finalized) :
    (finalize status cause id).runIn w =
      (.ok false, (w.log logger
        { severity := .warning, event := "span_already_finalized"
          fields := idFields (w.span id) }).enter (.call (.finalized id status cause false))) := by
  unfold finalize
  simp only [Act.runIn_bind, failIfTold_of_none hf, Act.runIn_get, hs, if_true, Act.runIn_modify,
    Act.runIn_pure]

theorem finalize_effective {status : Int} {cause : Option Attribute} {id : SpanId} {w : World}
    (hf : w.failures.of? .finalize = none) (hs : (w.span id).state ≠ .finalized)
    (hc : isRefused (w.span id) cause = false) :
    (finalize status cause id).runIn w =
      (.ok true, ((ended w id status cause).log logger
        (finalizedEvent (w.span id) status cause)).enter
          (.call (.finalized id status cause true))) := by
  have hx : ∀ f, (w.modifySpan id f).exporting = w.exporting := fun _ => rfl
  unfold finalize ended finalizedEvent
  rcases cause with _ | (v | j | e | t)
  case none | some.fault =>
    cases hr : (w.span id).recording with
    | false => simp [failIfTold_of_none hf, hs, hr]
    | true => cases he : w.exporting <;> simp [failIfTold_of_none hf, hs, hx, hr, he]
  all_goals
    have hr : (w.span id).recording = false := hc
    simp [failIfTold_of_none hf, hs, hr]

theorem finalize_refused (status : Int) {cause : Option Attribute} {id : SpanId} {w : World}
    (hf : w.failures.of? .finalize = none) (hs : (w.span id).state ≠ .finalized)
    (hc : isRefused (w.span id) cause = true) :
    ∃ e, (finalize status cause id).runIn w = (.error e, w) := by
  unfold finalize
  rcases cause with _ | (v | j | e | t)
  case none | some.fault => exact absurd hc Bool.false_ne_true
  all_goals
    have hr : (w.span id).recording = true := hc
    simp [failIfTold_of_none hf, hs, hr]

theorem ended_becomes (r : RequestName) {id : SpanId} (status : Int) (cause : Option Attribute)
    {w : World} (hid : id < w.spans.length) :
    Becomes r id w (ended w id status cause)
      { span := ((w.span id).report status cause).finish
        attributes := w.attributes r
        exports := if (w.span id).recording && w.exporting then
          [((w.span id).report status cause).toExported] else [] } := by
  have h := Becomes.modifySpan r id w (fun _ => ((w.span id).report status cause).finish) hid
  unfold ended
  by_cases hx : ((w.span id).recording && w.exporting) = true
  · simp only [hx, if_true]
    have g := h.trans (Becomes.exported r id _ ((w.span id).report status cause).toExported)
    rwa [h.itsSpan, h.itsAttributes] at g
  · simp only [hx]
    exact h

/-- A logged event and a call, and nothing else. -/
theorem noted_becomes (r : RequestName) (id : SpanId) (w : World) (e : LogEvent)
    (c : TracerCall) :
    Becomes r id w ((w.log logger e).enter (.call c))
      { span := w.span id, attributes := w.attributes r, calls := [c] } := by
  have hlog := Becomes.log r id w logger e
  have hcall := Becomes.call r id (w.log logger e) c
  rw [hlog.itsSpan, hlog.itsAttributes] at hcall
  exact hlog.trans hcall

theorem finalize_outcome (status : Int) (cause : Option Attribute) {id : SpanId} {w : World}
    (hid : id < w.spans.length) :
    FinalizeOutcome status cause id w ((finalize status cause id).runIn w) := by
  cases hf : w.failures.of? .finalize with
  | some e =>
    rw [finalize_failed hf]
    exact .failed e hf
  | none =>
    by_cases hs : (w.span id).state = .finalized
    · rw [finalize_late hf hs]
      exact .late _ hs fun r => noted_becomes r id w _ _
    · cases hc : isRefused (w.span id) cause with
      | true =>
        obtain ⟨e, h⟩ := finalize_refused status hf hs hc
        rw [h]
        exact .refused e hs hc
      | false =>
        rw [finalize_effective hf hs hc]
        refine .effective _ hs hc fun r => ?_
        have h := ended_becomes r status cause hid
        have g := noted_becomes r id (ended w id status cause)
          (finalizedEvent (w.span id) status cause) (.finalized id status cause true)
        rw [h.itsSpan, h.itsAttributes] at g
        simpa [Upshot.andThen, finalizedUpshot] using h.trans g

/-- On a working backend a span that is not finalized can be. -/
theorem finalize_ok (status : Int) {cause : Option Attribute} {id : SpanId} {w : World}
    (hw : w.IsWorking) (hid : id < w.spans.length) (hs : (w.span id).state ≠ .finalized)
    (hc : isRefused (w.span id) cause = false) (r : RequestName) :
    ∃ w', (finalize status cause id).runIn w = (.ok true, w') ∧
      Becomes r id w w'
        (finalizedUpshot id status cause w.exporting (w.span id) (w.attributes r)) := by
  have h := finalize_outcome status cause hid
  generalize (finalize status cause id).runIn w = out at h
  cases h with
  | failed e hf => rw [hw .finalize] at hf; cases hf
  | late w' hs' _ => exact absurd hs' hs
  | refused e _ hc' => rw [hc] at hc'; cases hc'
  | effective w' _ _ h => exact ⟨w', rfl, h r⟩

/-! ## Abandoning -/

/-- The ways in which abandoning a span can go. -/
inductive AbandonOutcome (id : SpanId) (w : World) : Except Fault Bool × World → Prop where
  | failed (e : Fault) (h : w.failures.of? .abandon = some e) :
      AbandonOutcome id w (.error e, w.enter (.call (.failed .abandon)))
  | late (w' : World) (h : (w.span id).state ≠ .opened)
      (hw : ∀ r, Becomes r id w w'
        { span := w.span id, attributes := w.attributes r, calls := [.abandoned id false] }) :
      AbandonOutcome id w (.ok false, w')
  | effective (w' : World) (h : (w.span id).state = .opened)
      (hw : ∀ r, Becomes r id w w'
        { span := { w.span id with state := .abandoned }
          attributes := w.attributes r
          calls := [.abandoned id true] }) :
      AbandonOutcome id w (.ok true, w')

theorem abandon_outcome {id : SpanId} {w : World} (hid : id < w.spans.length) :
    AbandonOutcome id w ((abandon id).runIn w) := by
  unfold abandon
  rw [Act.runIn_bind]
  cases hf : w.failures.of? .abandon with
  | some e =>
    rw [failIfTold_of_some hf]
    exact .failed e hf
  | none =>
    rw [failIfTold_of_none hf]
    cases hs : (w.span id).state with
    | opened =>
      simp only [Act.runIn_bind, Act.runIn_get, hs, if_true, Act.runIn_modify, Act.runIn_pure]
      refine .effective _ hs fun r => ?_
      have h := Becomes.modifySpan r id w (fun s => { s with state := .abandoned }) hid
      have g := noted_becomes r id
        (w.modifySpan id fun s => { s with state := .abandoned })
        { severity := .debug, event := "span_abandoned", fields := idFields (w.span id) }
        (.abandoned id true)
      rw [h.itsSpan, h.itsAttributes] at g
      exact h.trans g
    | abandoned =>
      simp [hs]
      exact .late _ (by rw [hs]; decide) fun r => Becomes.call r id w _
    | finalized =>
      simp [hs]
      exact .late _ (by rw [hs]; decide) fun r => noted_becomes r id w _ _

/-- On a working backend an open span can be abandoned. -/
theorem abandon_ok {id : SpanId} {w : World} (hw : w.IsWorking) (hid : id < w.spans.length)
    (hs : (w.span id).state = .opened) (r : RequestName) :
    ∃ w', (abandon id).runIn w = (.ok true, w') ∧
      Becomes r id w w'
        { span := { w.span id with state := .abandoned }
          attributes := w.attributes r
          calls := [.abandoned id true] } := by
  have h := abandon_outcome hid
  generalize (abandon id).runIn w = out at h
  cases h with
  | failed e hf => rw [hw .abandon] at hf; cases hf
  | late w' hs' _ => exact absurd hs hs'
  | effective w' _ h => exact ⟨w', rfl, h r⟩

/-! ## Starting -/

/-- Whether a span that starts under a parent records: on the recording backend a root does, a child
does if its parent is sampled. -/
def records (b : Backend) (parent : Option SpanContext) : Bool :=
  match b with
  | .recording => (parent.map (·.isSampled)).getD true
  | .silent => false

/-- A span as it is started on a backend: open, with nothing to report, without the status of a
response, and recording if it is sampled on the recording backend. -/
structure IsNew (b : Backend) (origin : Option SpanContext) (s : Span) : Prop where
  state : s.state = .opened
  events : s.events = []
  status : s.status = .unset
  parent : s.parent = origin.map (·.spanId)
  recording : s.recording = records b origin
  sampled : s.recording = (decide (b = .recording) && s.context.isSampled)
  untagged : s.tags.get? httpStatusCode = none

theorem newSpan_isNew (w : World) (parent : Option SpanContext) (name : String) :
    IsNew w.backend parent (newSpan w parent name).1 := by
  unfold newSpan
  cases hb : w.backend with
  | silent => exact ⟨rfl, rfl, rfl, rfl, rfl, rfl, rfl⟩
  | recording =>
    refine ⟨rfl, rfl, rfl, rfl, ?_, rfl, rfl⟩
    cases parent with
    | none => rfl
    | some p =>
      show (p.flags % 4 % 2 == 1) = (p.flags % 2 == 1)
      rw [Nat.mod_mod_of_dvd p.flags (by decide)]

/-- Counting a new trace or span is all that becomes of the world. -/
theorem newSpan_snd (w : World) (parent : Option SpanContext) (name : String) :
    ∃ traceCount spanCount, (newSpan w parent name).2 = { w with traceCount, spanCount } := by
  unfold newSpan
  split
  · exact ⟨_, _, rfl⟩
  · exact ⟨w.traceCount, w.spanCount, rfl⟩

/-- What starting a span adds to a world; all else is as before, up to the log and the counters. -/
structure Started (headers : Headers) (name : String) (w w' : World) : Prop where
  spans : ∃ s, w'.spans = w.spans ++ [s] ∧
    IsNew w.backend (SpanContext.ofHeaders? headers) s
  calls : w'.calls = w.calls ++ [.created w.spans.length name]
  exports : w'.exports = w.exports
  backend : w'.backend = w.backend
  exporting : w'.exporting = w.exporting
  failures : w'.failures = w.failures
  current : w'.current = w.current
  requests : w'.requests = w.requests
  coordinators : w'.coordinators = w.coordinators
  continuations : w'.continuations = w.continuations
  scopes : w'.scopes = w.scopes
  contextFields : w'.contextFields = w.contextFields

theorem start_failed {w : World} {e : Fault} (hf : w.failures.of? .create = some e)
    (headers : Headers) (name method path : String) :
    (start headers name method path).runIn w = (.error e, w.enter (.call (.failed .create))) := by
  unfold start
  rw [Act.runIn_bind, failIfTold_of_some hf]

/-- The world after a start: the new span carries its method and its path, and there is a call. -/
theorem start_eq {w : World} (hf : w.failures.of? .create = none) (headers : Headers)
    (name method path : String) :
    let s := (newSpan w (SpanContext.ofHeaders? headers) name).1
    ∃ (traceCount spanCount : Nat) (logs : LogSetup) (rs : List LogRecord),
      (start headers name method path).runIn w = (.ok w.spans.length,
        World.enter
          { w with
            traceCount, spanCount, logs
            spans := w.spans ++ [(s.tag httpMethod method).tag httpPath path]
            journal := w.journal ++ rs.map .log }
          (.call (.created w.spans.length name))) := by
  obtain ⟨traceCount, spanCount, hw⟩ := newSpan_snd w (SpanContext.ofHeaders? headers) name
  unfold start
  simp only [Act.runIn_bind, failIfTold_of_none hf, Act.runIn_get, Act.runIn_set,
    Act.runIn_modify, Act.runIn_pure]
  generalize newSpan w (SpanContext.ofHeaders? headers) name = new at hw
  obtain ⟨s, w₁⟩ := new
  subst hw
  generalize he : ({ severity := .debug, event := "span_started", fields := _ } : LogEvent) = e
  obtain ⟨logs, rs, hlog⟩ := World.log_eq
    { w with
      traceCount, spanCount
      spans := w.spans ++ [(s.tag httpMethod method).tag httpPath path] } logger e
  rw [hlog]
  exact ⟨traceCount, spanCount, logs, rs, rfl⟩

theorem start_ok {w : World} (hf : w.failures.of? .create = none) (headers : Headers)
    (name method path : String) :
    ∃ w', (start headers name method path).runIn w = (.ok w.spans.length, w') ∧
      Started headers name w w' := by
  obtain ⟨traceCount, spanCount, logs, rs, h⟩ := start_eq hf headers name method path
  have hnew := newSpan_isNew w (SpanContext.ofHeaders? headers) name
  refine ⟨_, h, ⟨_, rfl, ?_⟩, ?_, ?_, rfl, rfl, rfl, rfl, rfl, rfl, rfl, rfl, rfl⟩
  · refine ⟨hnew.state, hnew.events, hnew.status, hnew.parent, hnew.recording, hnew.sampled, ?_⟩
    unfold Span.tag
    rw [Mapping.get?_set, if_neg (by decide), Mapping.get?_set, if_neg (by decide)]
    exact hnew.untagged
  · rw [World.calls_enter]
    unfold World.calls
    simp [List.filterMap_map]
  · rw [World.exports_enter]
    unfold World.exports
    simp [List.filterMap_map]

end Tracer

end SpanLifecycle
