import SpanLifecycle.Proofs.Retains

/-!
# How a pass settles a span

Where the tracer works and the coordinator has an answer, the end of a pass cannot fail, and what
comes of an open span is a function of the verdict: `settled` computes it for the normal pass
(`settle_becomes`, `conclude_becomes`), and `concludeError_becomes` says it of the error pass, whose
one attempt to finalize its span `concludeError_runIn` singles out.  A request that has gone
asynchronous is left alone by both (`conclude_async`, `concludeError_idle`).
-/

namespace SpanLifecycle

namespace Pass

variable {c : String} {r : RequestName} {status : Int} {id : SpanId} {failure : Option Fault}
  {w : World}

/-- What a decision makes of an open span and of the attributes of its request. -/
def settled (d : Decision) (status : Int) (failure : Option Fault) (id : SpanId)
    (exporting : Bool) (s : Span) (m : Attributes) : Upshot :=
  let s := if d.tagStatus then s.tag httpStatusCode (toString status) else s
  let m := if d.clearActiveSpan then m.clearActiveSpan else m
  match d.verdict with
  | .finalize =>
    let m := m.raiseFlag .alreadyFinalized
    Tracer.finalizedUpshot id status (failure.map .fault) exporting s
      (if failure.isNone then m.takePendingException.2 else m)
  | .abandon =>
    { span := { s with state := .abandoned }, attributes := m, calls := [.abandoned id true] }
  | .defer => { span := s, attributes := m }

/-- A request keeps its active span, or has none afterwards. -/
theorem settled_activeSpan (d : Decision) (status : Int) (failure : Option Fault) (id : SpanId)
    (exporting : Bool) (s : Span) (m : Attributes) :
    (settled d status failure id exporting s m).attributes.activeSpan = m.activeSpan ∨
      (settled d status failure id exporting s m).attributes.activeSpan = none := by
  unfold settled
  cases d.verdict with
  | finalize =>
    unfold Tracer.finalizedUpshot
    cases d.clearActiveSpan <;> cases failure <;> simp
  | abandon => cases d.clearActiveSpan <;> simp
  | defer => cases d.clearActiveSpan <;> simp

theorem marked_becomes (d : Decision) (r : RequestName) (status : Int) (hid : id < w.spans.length)
    (hs : (w.span id).state = .opened) :
    Becomes r id w (marked d r status id w)
      { span := if d.tagStatus then (w.span id).tag httpStatusCode (toString status) else w.span id
        attributes := if d.clearActiveSpan then (w.attributes r).clearActiveSpan
          else w.attributes r } := by
  have htag : Becomes r id w
      (if d.tagStatus && (w.span id).state != .finalized then
        w.modifySpan id (·.tag httpStatusCode (toString status)) else w)
      { span := if d.tagStatus then (w.span id).tag httpStatusCode (toString status) else w.span id
        attributes := w.attributes r } := by
    have hs' : ((w.span id).state != .finalized) = true := by rw [hs]; rfl
    rw [hs', Bool.and_true]
    cases d.tagStatus with
    | true => exact Becomes.modifySpan r id w _ hid
    | false => exact Becomes.refl r id w
  unfold marked
  cases d.clearActiveSpan with
  | true => exact htag.thenModifyAttributes _
  | false => exact htag

theorem not_refused (s : Span) (failure : Option Fault) :
    Tracer.isRefused s (failure.map .fault) = false := by
  cases failure <;> rfl

/-- What carrying out a verdict makes of an open span. -/
theorem carryOut_becomes (v : Verdict) (r : RequestName) (status : Int) (failure : Option Fault)
    (hw : w.IsWorking) (hid : id < w.spans.length) (hs : (w.span id).state = .opened) :
    ∃ w', (carryOut v r status id failure).runIn w = (.ok (), w') ∧
      Becomes r id w w' (settled { verdict := v, reason := .rootSpan } status failure id
        w.exporting (w.span id) (w.attributes r)) := by
  cases v with
  | defer => exact ⟨w, rfl, Becomes.refl r id w⟩
  | abandon =>
    obtain ⟨w', h, hb⟩ := Tracer.abandon_ok hw hid hs r
    exact ⟨w', by simp only [carryOut, Act.runIn_discard, h], hb⟩
  | finalize =>
    obtain ⟨w', h, hb⟩ := Tracer.finalize_ok status hw hid (by rw [hs]; decide)
      (not_refused (w.span id) failure) r
    have hb := hb.thenModifyAttributes (·.raiseFlag .alreadyFinalized)
    cases failure with
    | none =>
      refine ⟨_, ?_, hb.thenModifyAttributes (·.takePendingException.2)⟩
      simp only [carryOut, Act.runIn_bind, h, if_true, Act.runIn_modify, Option.isNone_none]
    | some e =>
      refine ⟨_, ?_, hb⟩
      simp only [carryOut, Act.runIn_bind, h, if_true, Act.runIn_modify, Option.isNone_some,
        Bool.false_eq_true, if_false, Act.runIn_pure]

theorem applyDecision_becomes (d : Decision) (r : RequestName) (status : Int)
    (failure : Option Fault) (hw : w.IsWorking) (hid : id < w.spans.length)
    (hs : (w.span id).state = .opened) :
    ∃ w', (applyDecision d r status id failure).runIn w = (.ok (), w') ∧
      Becomes r id w w' (settled d status failure id w.exporting (w.span id) (w.attributes r)) := by
  have hm := marked_becomes d r status hid hs
  have hopen : ((marked d r status id w).span id).state = .opened := by
    rw [hm.itsSpan]
    cases d.tagStatus <;> exact hs
  obtain ⟨w', h, hb⟩ := carryOut_becomes d.verdict r status failure (hm.isWorking hw)
    (by rw [hm.length]; exact hid) hopen
  rw [hm.itsSpan, hm.itsAttributes, hm.exporting] at hb
  refine ⟨w', by rw [applyDecision_runIn, h], ?_⟩
  have hall := hm.trans hb
  simpa [Upshot.andThen, settled] using hall

/-- The outcome of a pass only looks at the span, the attributes, and what is current. -/
theorem outcome_congr {w' : World} (hc : w'.current = w.current) (hs : w'.span id = w.span id)
    (hm : w'.attributes r = w.attributes r) (handler : Bool) :
    outcome w' r status id failure handler = outcome w r status id failure handler := by
  have hcurrent : w'.isCurrent id = w.isCurrent id := by
    unfold World.isCurrent World.anchor
    rw [hc, hs]
  unfold outcome
  rw [hm, hs, hcurrent]

theorem settle_becomes {b : Bool} (r : RequestName) (status : Int) (failure : Option Fault)
    (hw : w.IsWorking) (ha : (w.coordinator c).answer = .ok b) (hid : id < w.spans.length)
    (hs : (w.span id).state = .opened) :
    ∃ w', (settle c r status id failure).runIn w = (.ok (), w') ∧
      Becomes r id w w' (settled (outcome w r status id failure b).decide status failure id
        w.exporting (w.span id) (w.attributes r)) := by
  obtain ⟨v, hv, hcurrent, hb⟩ := hasErrorHandler_answer c w
  have hv₁ := hb r id
  rw [ha] at hv
  unfold settle
  simp only [Act.runIn_bind, hv, Act.runIn_get, Act.runIn_modify]
  rw [outcome_congr hcurrent hv₁.itsSpan hv₁.itsAttributes]
  generalize (outcome w r status id failure b).decide = d
  generalize he : ({ severity := .debug, event := "span_decision", fields := _ } : LogEvent) = e
  have hv₂ : Becomes r id w (log e v) _ := hv₁.thenLog logger e
  obtain ⟨w', h, hd⟩ := applyDecision_becomes d r status failure (hv₂.isWorking hw)
    (by rw [hv₂.length]; exact hid) (by rw [hv₂.itsSpan]; exact hs)
  refine ⟨w', h, ?_⟩
  rw [hv₂.itsSpan, hv₂.itsAttributes, hv₂.exporting] at hd
  have hall := hv₂.trans hd
  simpa [Upshot.andThen] using hall

/-- A normal pass settles the span of a request that has not gone asynchronous. -/
theorem conclude_becomes {b : Bool} (r : RequestName) (status : Int) (failure : Option Fault)
    (hw : w.IsWorking) (ha : (w.coordinator c).answer = .ok b) (hid : id < w.spans.length)
    (hs : (w.span id).state = .opened) (hm : (w.attributes r).isAsyncStarted = false) :
    ∃ w', (conclude c r status (some id) failure).runIn w = (.ok (), w') ∧
      Becomes r id w w' (settled (outcome w r status id failure b).decide status failure id
        w.exporting (w.span id) (w.attributes r)) := by
  unfold conclude
  simp only [Act.runIn_bind, Act.runIn_get, hm, Bool.false_eq_true, if_false]
  exact settle_becomes r status failure hw ha hid hs

/-- A normal pass fails where the lookup for an error handler does, and the span stays as it is. -/
theorem conclude_raises {e : Fault} (r : RequestName) (status : Int) (failure : Option Fault)
    (j : SpanId) (ha : (w.coordinator c).answer = .error e)
    (hm : (w.attributes r).isAsyncStarted = false) :
    ∃ w', (conclude c r status (some j) failure).runIn w = (.error e, w') ∧
      ∀ id, Becomes r id w w' { span := w.span id, attributes := w.attributes r } := by
  obtain ⟨w', h, -, hb⟩ := hasErrorHandler_answer c w
  rw [ha] at h
  refine ⟨w', ?_, fun id => hb r id⟩
  unfold conclude settle
  simp only [Act.runIn_bind, Act.runIn_get, hm, Bool.false_eq_true, if_false, h]

/-- A normal pass leaves an asynchronous request alone. -/
theorem conclude_async (r : RequestName) (status : Int) (failure : Option Fault) (j : Option SpanId)
    (hm : (w.attributes r).isAsyncStarted = true) :
    ∃ w', (conclude c r status j failure).runIn w = (.ok (), w') ∧
      ∀ id, Becomes r id w w' { span := w.span id, attributes := w.attributes r } := by
  unfold conclude
  simp only [Act.runIn_bind, Act.runIn_get, hm, if_true, Act.runIn_modify]
  exact ⟨_, rfl, fun id => Becomes.log r id w logger _⟩

/-! ## The error pass -/

/-- Marking the request as handled changes none of the flags. -/
theorem markErrorHandled_becomes (r : RequestName) (id : SpanId) (w : World) :
    Becomes r id w (w.modifyAttributes r (·.markErrorHandled))
      { span := w.span id, attributes := (w.attributes r).markErrorHandled } :=
  Becomes.modifyAttributes r id w (·.markErrorHandled)

/-- The world in which an error pass finalizes its span: the request is handled, and nothing is
pending for it. -/
def handled (r : RequestName) (w : World) : World :=
  (w.modifyAttributes r (·.markErrorHandled)).modifyAttributes r fun m => m.takePendingException.2

theorem handled_becomes (r : RequestName) (id : SpanId) (w : World) :
    Becomes r id w (handled r w)
      { span := w.span id, attributes := (w.attributes r).markErrorHandled.takePendingException.2 } :=
  (markErrorHandled_becomes r id w).thenModifyAttributes (·.takePendingException.2)

/-- An error pass that does not leave its span alone tries to finalize it. -/
theorem concludeError_runIn (r : RequestName) (status : Int) (id : SpanId) (w : World)
    (hasync : (w.attributes r).isAsyncStarted = false)
    (hreported : (w.attributes r).isErrorSpanReported = false)
    (hfinal : (w.attributes r).isAlreadyFinalized = false) :
    (concludeError r status id).runIn w =
      match (Tracer.finalize status (Attribute.present? (w.attributes r).pendingException)
        id).runIn (handled r w) with
      | (.ok true, v) => (.ok (), v.modifyAttributes r (·.raiseFlag .alreadyFinalized))
      | (.ok false, v) => (.ok (), v)
      | (.error e, v) => (.error e, v) := by
  have hmark := (markErrorHandled_becomes r id w).itsAttributes
  have hasync' : ((w.attributes r).markErrorHandled).isAsyncStarted = false := by
    simpa using hasync
  have hreported' : ((w.attributes r).markErrorHandled).isErrorSpanReported = false := by
    simpa using hreported
  have hfinal' : ((w.attributes r).markErrorHandled).isAlreadyFinalized = false := by
    simpa using hfinal
  have hpending : ((w.attributes r).markErrorHandled).pendingException =
      (w.attributes r).pendingException := by simp
  unfold concludeError handled
  simp only [Act.runIn_bind, Act.runIn_modify, Act.runIn_get, hmark, hasync', hreported', hfinal',
    hpending, Bool.or_self, Bool.not_false, Bool.false_eq_true, if_false, if_true]
  split
  · next b v hv =>
    rw [hv]
    cases b <;> rfl
  · next e v hv => rw [hv]

/-- An error pass finalizes a span that nobody has finalized or reported. -/
theorem concludeError_becomes (r : RequestName) (status : Int) (hw : w.IsWorking)
    (hid : id < w.spans.length) (hs : (w.span id).state ≠ .finalized)
    (hasync : (w.attributes r).isAsyncStarted = false)
    (hreported : (w.attributes r).isErrorSpanReported = false)
    (hfinal : (w.attributes r).isAlreadyFinalized = false)
    (hc : Tracer.isRefused (w.span id)
      (Attribute.present? (w.attributes r).pendingException) = false) :
    ∃ w', (concludeError r status id).runIn w = (.ok (), w') ∧
      Becomes r id w w'
        (Tracer.finalizedUpshot id status (Attribute.present? (w.attributes r).pendingException)
          w.exporting (w.span id)
          (((w.attributes r).markErrorHandled.takePendingException.2).raiseFlag
            .alreadyFinalized)) := by
  have hhandled := handled_becomes r id w
  obtain ⟨w', h, hb⟩ := Tracer.finalize_ok status (hhandled.isWorking hw)
    (by rw [hhandled.length]; exact hid) (by rw [hhandled.itsSpan]; exact hs)
    (by rw [hhandled.itsSpan]; exact hc) r
  rw [hhandled.itsSpan, hhandled.itsAttributes, hhandled.exporting] at hb
  have hall := (hhandled.trans hb).thenModifyAttributes (·.raiseFlag .alreadyFinalized)
  refine ⟨w'.modifyAttributes r (·.raiseFlag .alreadyFinalized), ?_,
    by simpa [Upshot.andThen, Tracer.finalizedUpshot] using hall⟩
  rw [concludeError_runIn r status id w hasync hreported hfinal, h]

/-- An error pass leaves alone what is asynchronous, reported or finalized, and only remembers that
it was there. -/
theorem concludeError_idle (r : RequestName) (status : Int) (id : SpanId) (w : World)
    (h : (w.attributes r).isAsyncStarted = true ∨ (w.attributes r).isErrorSpanReported = true ∨
      (w.attributes r).isAlreadyFinalized = true) :
    ∃ w', (concludeError r status id).runIn w = (.ok (), w') ∧
      ∀ j, Becomes r j w w'
        { span := w.span j, attributes := (w.attributes r).markErrorHandled } := by
  unfold concludeError
  simp only [Act.runIn_bind, Act.runIn_modify, Act.runIn_get,
    (markErrorHandled_becomes r id w).itsAttributes]
  by_cases hasync : ((w.attributes r).markErrorHandled).isAsyncStarted = true
  · simp only [hasync, if_true, Act.runIn_modify]
    exact ⟨_, rfl, fun j => (markErrorHandled_becomes r j w).thenLog logger _⟩
  · have hdone : (((w.attributes r).markErrorHandled).isErrorSpanReported ||
        ((w.attributes r).markErrorHandled).isAlreadyFinalized) = true := by
      rw [Bool.or_eq_true]
      simpa using h.resolve_left (by simpa using hasync)
    simp only [hasync, hdone, Bool.not_true, Bool.false_eq_true, if_false, Act.runIn_pure]
    exact ⟨_, rfl, fun j => markErrorHandled_becomes r j w⟩

end Pass

end SpanLifecycle
