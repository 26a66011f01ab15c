import SpanLifecycle.Proofs.Growth
import SpanLifecycle.Proofs.Undisturbed

/-!
# What is written on a span as it is closed

Whoever closes a span calls the tracer on it once at most, and what that call makes of the span, of
the calls and of the exports is one of three things (`Tracer.Closing`).  A normal pass and a
completion may write the status of the response on the span before that; they do so exactly if their
request says that its span started without a parent and nothing was raised (`Concludes`).

`Does.handles` is the case analysis over deeds: whatever a deed makes of a span is one of these, or
nothing.
-/

namespace SpanLifecycle

/-! ## Calls of the tracer -/

namespace Tracer

/-- What one call of the tracer on a span makes of it, if there is a call: nothing, or the report of a
status and a cause by which it ends, or an abandonment. -/
inductive Closing (id : SpanId) (status : Int) (cause : Option Attribute) (exporting : Bool)
    (s : Span) : Span → List TracerCall → List ExportedSpan → Prop where
  | idle (calls : List TracerCall) (h : ∀ c ∈ calls, c.finalizes? = none) :
      Closing id status cause exporting s s calls []
  | finalized (h : s.state ≠ .finalized) :
      Closing id status cause exporting s (s.report status cause).finish
        [.finalized id status cause true]
        (if s.recording && exporting then [(s.report status cause).toExported] else [])
  | abandoned :
      Closing id status cause exporting s { s with state := .abandoned } [.abandoned id true] []

/-- From one world to another a span was closed, and all attributes are the same. -/
def Closes (id : SpanId) (status : Int) (cause : Option Attribute) (w w' : World) : Prop :=
  ∃ s calls exports, Closing id status cause w.exporting (w.span id) s calls exports ∧
    ∀ r, Becomes r id w w' { span := s, attributes := w.attributes r, calls, exports }

variable {id : SpanId} {w : World}

theorem Closes.of_idle {status : Int} {cause : Option Attribute} {calls : List TracerCall}
    {w' : World}
    (h : ∀ r, Becomes r id w w' { span := w.span id, attributes := w.attributes r, calls })
    (hc : ∀ c ∈ calls, c.finalizes? = none) : Closes id status cause w w' :=
  ⟨_, calls, [], .idle calls hc, h⟩

theorem Closes.closing {status : Int} {cause : Option Attribute} {w' : World}
    (h : Closes id status cause w w') :
    ∃ calls exports,
      Closing id status cause w.exporting (w.span id) (w'.span id) calls exports := by
  obtain ⟨s, calls, exports, hclosing, hb⟩ := h
  have hs : w'.span id = s := (hb outerRequest).itsSpan
  rw [hs]
  exact ⟨calls, exports, hclosing⟩

theorem finalize_closes (status : Int) (cause : Option Attribute) (hid : id < w.spans.length) :
    Closes id status cause w ((finalize status cause id).runIn w).2 := by
  have h := finalize_outcome status cause hid
  generalize (finalize status cause id).runIn w = out at h
  cases h with
  | failed e _ => exact .of_idle (fun r => .call r id w _) (by simp [TracerCall.finalizes?])
  | late w' _ hb => exact .of_idle hb (by simp [TracerCall.finalizes?])
  | refused e _ _ => exact .of_idle (fun r => .refl r id w) nofun
  | effective w' hs _ hb => exact ⟨_, _, _, .finalized hs, hb⟩

/-- An abandonment carries neither a status nor a cause. -/
theorem abandon_closes (status : Int) (cause : Option Attribute) (hid : id < w.spans.length) :
    Closes id status cause w ((abandon id).runIn w).2 := by
  have h := abandon_outcome hid
  generalize (abandon id).runIn w = out at h
  cases h with
  | failed e _ => exact .of_idle (fun r => .call r id w _) (by simp [TracerCall.finalizes?])
  | late w' _ hb => exact .of_idle hb (by simp [TracerCall.finalizes?])
  | effective w' hs hb => exact ⟨_, _, _, .abandoned, hb⟩

end Tracer

/-! ## Reports -/

namespace Span

variable {P : Span → Prop} {s : Span} {status : Int}

/-- What a report keeps: it sets the status and the events that a span is exported with, and writes
the status of the response on it if that was set and is unsuccessful. -/
theorem report_keeps (hset : ∀ t status events, P t → P { t with status, events })
    (htag : status ≠ 0 → isSuccessfulStatus status = false →
      ∀ t, P t → P (t.tag httpStatusCode (toString status)))
    (h : P s) (cause : Option Attribute) : P (s.report status cause) := by
  have fault : ∀ e, P (s.recordFault e) := by
    intro e
    unfold recordFault
    split
    · exact hset s _ _ h
    · exact h
  have failed : ∀ t, P t → P t.markFailed := by
    intro t ht
    unfold markFailed
    split
    · exact hset t _ t.events ht
    · exact ht
  have told : ∀ t, P t → P (if status ≠ 0 ∧ ¬isSuccessfulStatus status then
      let t := t.tag httpStatusCode (toString status)
      if cause.isNone ∧ 500 ≤ status then t.markFailed else t
    else t) := by
    intro t ht
    split
    · next hs =>
      have hthen := htag hs.1 (by simpa using hs.2) t ht
      dsimp only
      split
      · exact failed _ hthen
      · exact hthen
    · exact ht
  unfold report
  split
  · exact told _ (fault _)
  · exact told s h

/-- The tag that tells the status of a response, if there is one, tells an unsuccessful one. -/
def TagsFailures (s : Span) : Prop :=
  ∀ t, s.tags.get? httpStatusCode = some t →
    ∃ status : Int, t = toString status ∧ status ≠ 0 ∧ isSuccessfulStatus status = false

/-- A span tells the status of a response: by its tag, and if it records by its attribute, too. -/
structure Tells (status : Int) (s : Span) : Prop where
  tagged : s.tags.get? httpStatusCode = some (toString status)
  recorded : s.recording = true →
    Mapping.get? s.attributes httpStatusCode = some (toString status)

theorem tells_tag (s : Span) (status : Int) :
    (s.tag httpStatusCode (toString status)).Tells status where
  tagged := by
    unfold tag
    rw [Mapping.get?_set, if_pos rfl]
  recorded h := by
    unfold tag at h ⊢
    rw [if_pos h]
    exact SpanAttributes.get?_record _ _ (show httpStatusCode ≠ "" by decide)

theorem Tells.reported (h : s.Tells status) (cause : Option Attribute) :
    (s.report status cause).Tells status :=
  report_keeps (fun _ _ _ ht => ⟨ht.tagged, ht.recorded⟩) (fun _ _ t _ => tells_tag t status) h cause

theorem TagsFailures.reported (h : s.TagsFailures) (status : Int) (cause : Option Attribute) :
    (s.report status cause).TagsFailures := by
  refine report_keeps (fun _ _ _ ht => ht) (fun hzero hs t _ u hu => ?_) h cause
  rw [(tells_tag t status).tagged] at hu
  exact ⟨status, (Option.some.inj hu).symm, hzero, hs⟩

end Span

namespace Tracer.Closing

variable {id : SpanId} {status : Int} {cause : Option Attribute} {exporting : Bool} {s t : Span}
  {calls : List TracerCall} {exports : List ExportedSpan}

/-- What is closed without a status on it has only the tag of a failure afterwards. -/
theorem tagsFailures (h : Closing id status cause exporting s t calls exports)
    (hs : s.TagsFailures) : t.TagsFailures := by
  cases h with
  | idle | abandoned => exact hs
  | finalized => exact hs.reported status cause

/-- The one call that may have finalized a span carries the status and the cause. -/
theorem of_finalized {j : SpanId} {code : Int} {reason : Option Attribute}
    (h : Closing id status cause exporting s t calls exports)
    (hmem : .finalized j code reason true ∈ calls) : j = id ∧ code = status ∧ reason = cause := by
  cases h with
  | idle _ hidle => exact absurd (hidle _ hmem) nofun
  | abandoned => simp at hmem
  | finalized => simpa using hmem

/-- What is finalized was not finalized before. -/
theorem unfinalized (h : Closing id status cause exporting s t calls exports) {j : SpanId}
    {code : Int} {reason : Option Attribute} (hmem : .finalized j code reason true ∈ calls) :
    s.state ≠ .finalized := by
  cases h with
  | idle _ hidle => exact absurd (hidle _ hmem) nofun
  | abandoned => simp at hmem
  | finalized hs => exact hs

/-- A span that tells the status with which it is closed goes on doing so, and is exported as it
does. -/
theorem tells (h : Closing id status cause exporting s t calls exports) (hs : s.Tells status) :
    t.tags.get? httpStatusCode = some (toString status) ∧
      (s.recording = true → Mapping.get? t.attributes httpStatusCode = some (toString status)) ∧
      ∀ e ∈ exports, Mapping.get? e.attributes httpStatusCode = some (toString status) := by
  cases h with
  | idle | abandoned => exact ⟨hs.tagged, hs.recorded, nofun⟩
  | finalized =>
    have htold := hs.reported cause
    have hrecording : (s.report status cause).recording = s.recording := by rw [Span.report_eq]
    have hattribute : s.recording = true → Mapping.get? (s.report status cause).attributes
        httpStatusCode = some (toString status) := fun h => htold.recorded (hrecording.trans h)
    refine ⟨htold.tagged, hattribute, fun e he => ?_⟩
    split at he
    · next h =>
      rw [List.mem_singleton.mp he]
      exact hattribute (Bool.and_eq_true_iff.mp h).1
    · simp at he

/-- Closing a span does not move it in its trace. -/
theorem parent (h : Closing id status cause exporting s t calls exports) : t.parent = s.parent := by
  cases h with
  | idle | abandoned => rfl
  | finalized =>
    unfold Span.finish
    rw [Span.report_eq]

end Tracer.Closing

/-! ## The end of a normal pass, and completions -/

/-- From one world to another a span was closed with a status and maybe a failure.  The status may have
been written on it before that, if the request's span started without a parent; and it was, if it is
the status of a response and the span was finalized for no failure. -/
def Concludes (r : RequestName) (id : SpanId) (w w' : World) : Prop :=
  ∃ status cause stamp calls exports, Adds w w' calls exports ∧
    Tracer.Closing id status cause w.exporting ((w.span id).stamped stamp) (w'.span id) calls
      exports ∧
    (stamp ≠ none → (w.attributes r).isSpanWithoutParent = true) ∧
    ((w.attributes r).isSpanWithoutParent = true → 100 ≤ status → cause = none →
      (∃ j, .finalized j status cause true ∈ calls) → stamp = some status)

namespace Concludes

variable {r : RequestName} {id : SpanId} {w w' w'' : World}

/-- A step that does not change the span. -/
theorem of_idle {m : Attributes} {calls : List TracerCall}
    (h : Becomes r id w w' { span := w.span id, attributes := m, calls })
    (hc : ∀ c ∈ calls, c.finalizes? = none) : Concludes r id w w' := by
  refine ⟨0, none, none, calls, [], ⟨h.calls, h.exports⟩, ?_, fun hn => absurd rfl hn, ?_⟩
  · rw [h.itsSpan]
    exact .idle calls hc
  · rintro - - - ⟨j, hj⟩
    exact absurd (hc _ hj) nofun

/-- What changes neither the span nor the flag may come before. -/
theorem after {m : Attributes} (h : Concludes r id w' w'')
    (hb : Becomes r id w w' { span := w.span id, attributes := m })
    (hm : m.isSpanWithoutParent = (w.attributes r).isSpanWithoutParent) : Concludes r id w w'' := by
  obtain ⟨status, cause, stamp, calls, exports, hadds, hclosing, hroot, hstamp⟩ := h
  rw [hb.itsSpan, hb.exporting] at hclosing
  rw [hb.itsAttributes, hm] at hroot hstamp
  refine ⟨status, cause, stamp, calls, exports, ⟨?_, ?_⟩, hclosing, hroot, hstamp⟩
  · rw [hadds.calls, hb.calls, List.append_nil]
  · rw [hadds.exports, hb.exports, List.append_nil]

/-- What does not change the span may come afterwards. -/
theorem before {m : Attributes} (h : Concludes r id w w')
    (hb : Becomes r id w' w'' { span := w'.span id, attributes := m }) : Concludes r id w w'' := by
  obtain ⟨status, cause, stamp, calls, exports, hadds, hclosing, hrest⟩ := h
  refine ⟨status, cause, stamp, calls, exports, ⟨?_, ?_⟩, hb.itsSpan ▸ hclosing, hrest⟩
  · rw [hb.calls, hadds.calls, List.append_nil]
  · rw [hb.exports, hadds.exports, List.append_nil]

/-- A span that is closed with what is written on it. -/
theorem of_closes {status : Int} {cause : Option Attribute} {stamp : Option Int} {m : Attributes}
    (hb : Becomes r id w w' { span := (w.span id).stamped stamp, attributes := m })
    (h : Tracer.Closes id status cause w' w'')
    (hroot : stamp ≠ none → (w.attributes r).isSpanWithoutParent = true)
    (hstamp : (w.attributes r).isSpanWithoutParent = true → 100 ≤ status → cause = none →
      (w.span id).state ≠ .finalized → stamp = some status) : Concludes r id w w'' := by
  obtain ⟨s, calls, exports, hclosing, hclosed⟩ := h
  have hclosed := hclosed r
  rw [hb.itsSpan, hb.exporting] at hclosing
  refine ⟨status, cause, stamp, calls, exports, ⟨?_, ?_⟩, hclosed.itsSpan ▸ hclosing, hroot, ?_⟩
  · rw [hclosed.calls, hb.calls, List.append_nil]
  · rw [hclosed.exports, hb.exports, List.append_nil]
  · intro hflag hstatus hcause hcall
    refine hstamp hflag hstatus hcause ?_
    obtain ⟨j, hj⟩ := hcall
    have hs := hclosing.unfinalized hj
    cases stamp <;> exact hs

end Concludes

/-- Whatever the verdict, the status is to be written on a span that should have it. -/
theorem Outcome.decide_tagStatus {o : Outcome} (h : o.asyncStarted = false) :
    o.decide.tagStatus = o.shouldTagStatus := by
  unfold decide
  simp only [h, Bool.false_eq_true, if_false]
  repeat' split
  all_goals rfl

namespace Pass

variable {c : String} {r : RequestName} {status : Int} {id : SpanId} {failure : Option Fault}
  {w : World}

/-- Carrying out a verdict closes the span, and only marks the request after that. -/
theorem carryOut_closes (v : Verdict) (r : RequestName) (status : Int) (failure : Option Fault)
    (hid : id < w.spans.length) :
    ∃ u m, Tracer.Closes id status (failure.map .fault) w u ∧
      Becomes r id u ((carryOut v r status id failure).runIn w).2
        { span := u.span id, attributes := m } := by
  unfold carryOut
  cases v with
  | defer => exact ⟨w, _, .of_idle (fun r => .refl r id w) nofun, .refl r id w⟩
  | abandon =>
    have h := Tracer.abandon_closes (w := w) status (failure.map .fault) hid
    rw [Act.runIn_discard]
    revert h
    rcases (Tracer.abandon id).runIn w with ⟨e | b, u⟩ <;> exact fun h => ⟨u, _, h, .refl r id u⟩
  | finalize =>
    have h := Tracer.finalize_closes (w := w) status (failure.map .fault) hid
    rw [Act.runIn_bind]
    revert h
    rcases (Tracer.finalize status (failure.map .fault) id).runIn w with ⟨e | b, u⟩
    · exact fun h => ⟨u, _, h, .refl r id u⟩
    · intro h
      have hflag := Becomes.modifyAttributes r id u (·.raiseFlag .alreadyFinalized)
      cases b with
      | false => exact ⟨u, _, h, .refl r id u⟩
      | true =>
        cases failure with
        | none => exact ⟨u, _, h, hflag.thenModifyAttributes (·.takePendingException.2)⟩
        | some e => exact ⟨u, _, h, hflag⟩

theorem conclude_concludes (c : String) (r : RequestName) (status : Int) (failure : Option Fault)
    (hid : id < w.spans.length) :
    Concludes r id w ((conclude c r status (some id) failure).runIn w).2 := by
  cases hasync : (w.attributes r).isAsyncStarted with
  | true =>
    obtain ⟨u, hu, hb⟩ := conclude_async (c := c) r status failure (some id) hasync
    rw [hu]
    exact .of_idle (hb id) nofun
  | false =>
    cases ha : (w.coordinator c).answer with
    | error e =>
      obtain ⟨u, hu, hb⟩ := conclude_raises r status failure id ha hasync
      rw [hu]
      exact .of_idle (hb id) nofun
    | ok b =>
      obtain ⟨v, hb, hrun⟩ := conclude_carriesOut r status id failure ha hasync
      generalize hd : (outcome w r status id failure b).decide = d at hrun
      have htag : d.tagStatus = (failure.isNone && (w.attributes r).isSpanWithoutParent &&
          100 ≤ status) := by
        rw [← hd, Outcome.decide_tagStatus rfl]
        cases failure <;> rfl
      have hmark := marking_becomes (w := v) d r status (hb.length ▸ hid)
      obtain ⟨u, m, hcloses, hlast⟩ := carryOut_closes (w := marked d r status id v) d.verdict r
        status failure (by rw [hmark.length, hb.length]; exact hid)
      rw [hrun]
      rw [hb.itsSpan] at hmark
      let stamp := if d.tagStatus && (w.span id).state != .finalized then some status else none
      have hstamped : (if d.tagStatus && (w.span id).state != .finalized then
          (w.span id).tag httpStatusCode (toString status) else w.span id) =
          (w.span id).stamped stamp := by
        unfold stamp
        split <;> rfl
      rw [hstamped] at hmark
      refine Concludes.before (.of_closes (hb.trans hmark) hcloses ?_ ?_) hlast
      · intro hn
        cases ht : d.tagStatus with
        | false => simp [stamp, ht] at hn
        | true =>
          rw [htag] at ht
          simp only [Bool.and_eq_true] at ht
          exact ht.1.2
      · intro hflag hstatus hcause hs
        have hnone : failure = none := by simpa using hcause
        have ht : d.tagStatus = true := by
          rw [htag, hnone, hflag, decide_eq_true hstatus]
          rfl
        simp [stamp, ht, hs]

theorem noteFailure_quiet (x : Exchange) (raised : Option Fault) (id : SpanId) (w : World) :
    ((noteFailure x raised w).attributes x.request).isSpanWithoutParent =
      (w.attributes x.request).isSpanWithoutParent := by
  rw [(noteFailure_becomes x raised id w).itsAttributes]
  unfold notedAttributes
  split <;> simp

theorem runNormal_concludes {ρ : Type} {chain : Chain ρ} (c : String) (x : Exchange)
    (scope : Scope) (hid : id < (chain w).world.spans.length) :
    Concludes x.request id (chain w).world (runNormal c x id scope chain w).world := by
  have hnote := noteFailure_becomes x (chain w).raised id (chain w).world
  have hlast := conclude_concludes c x.request (chain w).status (failureOf (chain w).raised)
    (hnote.length ▸ hid)
  rw [← finishWith_snd _ (chain w).raised] at hlast
  have hflag := noteFailure_quiet x (chain w).raised id (chain w).world
  rw [hnote.itsAttributes] at hflag
  exact (hlast.after hnote hflag).before (.close x.request id _ scope)

/-- The end of an error pass writes no status on its span. -/
theorem runError_closes {ρ : Type} {chain : Chain ρ} (x : Exchange) (scope : Scope)
    (hid : id < (chain w).world.spans.length) :
    ∃ status cause calls exports, Tracer.Closing id status cause (chain w).world.exporting
      ((chain w).world.span id) ((runError x id scope chain w).world.span id) calls exports := by
  have hspan : (runError x id scope chain w).world.span id =
      ((concludeError x.request (chain w).status id).runIn (chain w).world).2.span id := by
    rw [← finishWith_snd _ (chain w).raised]
    exact (Becomes.close x.request id _ scope).itsSpan
  rw [hspan]
  generalize (chain w).world = v at *
  by_cases hidle : (v.attributes x.request).isAsyncStarted = true ∨
      (v.attributes x.request).isErrorSpanReported = true ∨
      (v.attributes x.request).isAlreadyFinalized = true
  · obtain ⟨u, hu, hb⟩ := concludeError_idle x.request (chain w).status id v hidle
    rw [hu, (hb id).itsSpan]
    exact ⟨0, none, [], [], .idle [] nofun⟩
  · simp only [not_or, Bool.not_eq_true] at hidle
    have hhandled := handled_becomes x.request id v
    obtain ⟨s, calls, exports, hclosing, hb⟩ := Tracer.finalize_closes (w := handled x.request v)
      (chain w).status (Attribute.present? (v.attributes x.request).pendingException)
      (hhandled.length ▸ hid)
    rw [hhandled.itsSpan, hhandled.exporting] at hclosing
    have hlast : ((concludeError x.request (chain w).status id).runIn v).2.span id = s := by
      have hs := (hb x.request).itsSpan
      rw [concludeError_runIn x.request (chain w).status id v hidle.1 hidle.2.1 hidle.2.2]
      revert hs
      rcases (Tracer.finalize (chain w).status _ id).runIn (handled x.request v) with ⟨e | b, u⟩
      · exact fun hs => hs
      · cases b <;> exact fun hs => hs
    rw [hlast]
    exact ⟨_, _, _, _, hclosing⟩

end Pass

namespace Continuation

variable {label : String} {r : RequestName} {id : SpanId} {w v : World}

/-- The status that is written on a span as it is completed goes by the request's flag. -/
theorem complete_concludes {code : Int} {failure : Option Fault}
    (h : (takeSpan label).runIn w = (.ok (some (r, .span id)), v)) (hid : id < v.spans.length) :
    Concludes r id v ((complete label code failure).runIn w).2 := by
  let stamp := (Action.complete label code failure).stamp? (v.attributes r)
  have hwrite := Becomes.modifySpan r id v (·.stamped stamp) hid
  have hcloses := Tracer.finalize_closes (w := v.modifySpan id (·.stamped stamp)) code
    (failure.map .fault) (hwrite.length ▸ hid)
  have hroot : stamp ≠ none → (v.attributes r).isSpanWithoutParent = true := by
    intro hn
    cases hflag : (v.attributes r).isSpanWithoutParent with
    | true => rfl
    | false =>
      refine absurd ?_ hn
      unfold stamp Action.stamp?
      cases failure
      · exact if_neg (by rw [hflag, Bool.false_and]; decide)
      · rfl
  have hstamp : (v.attributes r).isSpanWithoutParent = true → 100 ≤ code →
      failure.map Attribute.fault = none → (v.span id).state ≠ .finalized → stamp = some code := by
    intro hflag hcode hcause _
    obtain rfl : failure = none := by simpa using hcause
    simp only [stamp, Action.stamp?, hflag, decide_eq_true hcode, Bool.and_true, if_true]
  rw [complete_runIn h]
  revert hcloses
  rcases (Tracer.finalize code (failure.map .fault) id).runIn _ with ⟨e | b, u⟩
  · exact fun hcloses => .of_closes hwrite hcloses hroot hstamp
  · intro hcloses
    have hconcludes := Concludes.of_closes hwrite hcloses hroot hstamp
    cases b with
    | false => exact hconcludes
    | true => exact hconcludes.before (.modifyAttributes r id u (·.raiseFlag .alreadyFinalized))

theorem abandon_concludes (h : (takeSpan label).runIn w = (.ok (some (r, .span id)), v))
    (hid : id < v.spans.length) : Concludes r id v ((abandon label).runIn w).2 := by
  rw [abandon_runIn h]
  have hsame : Becomes r id v v
      { span := (v.span id).stamped none, attributes := v.attributes r } := .refl r id v
  -- an abandonment has no status, so any will do
  exact .of_closes hsame (Tracer.abandon_closes 0 none hid) (fun hn => absurd rfl hn) (by omega)

end Continuation

/-! ## Deeds -/

/-- What a deed makes of a span that there was before: nothing; or it closes the span; or it is the end
of a normal pass over the span, or a use of a continuation that has taken it. -/
inductive Handles (actor : Actor) (id : SpanId) (w w' : World) : Prop where
  | same (h : w'.span id = w.span id)
  | closes {status : Int} {cause : Option Attribute} {calls : List TracerCall}
      {exports : List ExportedSpan}
      (h : Tracer.Closing id status cause w.exporting (w.span id) (w'.span id) calls exports)
  | concludes {r : RequestName} (ho : actor = .ends r id false ∨ actor.takes? w = some (r, id))
      (h : Concludes r id w w')

section

variable {actor : Actor} {r : RequestName} {id : SpanId} {w w' : World}

/-- A use of a continuation that takes a span concludes it. -/
theorem Does.concludes (h : Does actor w w') (hw : w.Sound) (ht : actor.takes? w = some (r, id)) :
    Concludes r id w w' := by
  obtain ⟨⟨label, use⟩, hu, hnext⟩ := Option.bind_eq_some_iff.mp ht
  obtain ⟨q, a, rfl, ha⟩ := Actor.of_use? hu
  obtain ⟨-, rfl⟩ := h.of_use ha
  obtain ⟨hk, hactive⟩ := Continuation.next?_eq_some hnext
  have hpresent : Attribute.present? (w.attributes r).activeSpan = some (.span id) := by
    rw [hactive]
    rfl
  have htake := Continuation.takeSpan_taken hk rfl hpresent
  have htaken := Becomes.modifyAttributes r id
    (Continuation.spent label { request := r } w) Continuation.taken
  have hid := htaken.length ▸ hw r id hactive
  have hthen : Concludes r id ((Continuation.spent label { request := r } w).modifyAttributes r
      Continuation.taken) (use.runIn w).2 := by
    cases a with
    | complete l code failure =>
      cases ha
      exact Continuation.complete_concludes htake hid
    | abandonAsync l =>
      cases ha
      exact Continuation.abandon_concludes htake hid
    | _ => cases ha
  -- that the continuation counts as used shows in no span and no attribute
  have hspent : Concludes r id (Continuation.spent label { request := r } w) (use.runIn w).2 := by
    refine hthen.after htaken ?_
    unfold Continuation.taken
    simp
  obtain ⟨status, cause, stamp, calls, exports, hadds, hrest⟩ := hspent
  exact ⟨status, cause, stamp, calls, exports, ⟨hadds.calls, hadds.exports⟩, hrest⟩

/-- So does the end of a normal pass over it. -/
theorem Does.ends_concludes (h : Does (.ends r id false) w w') : Concludes r id w w' := by
  cases h with
  | endsNormal scope chain hid => exact Pass.runNormal_concludes _ _ scope hid

/-- All that a deed makes of a span, unless it tags it by hand. -/
theorem Does.handles (h : Does actor w w') (hw : w.Sound) (ht : actor.isTag = false)
    (hid : id < w.spans.length) : Handles actor id w w' := by
  cases h with
  | starts h ha => exact .same ((Exchange.chainStart?_begins h ha).others id (Nat.ne_of_lt hid))
  | resumes h ha => exact .same (Exchange.chainStart?_resumes h ha id).itsSpan
  | refuses chain h =>
    obtain ⟨m, calls, hb, -⟩ := Exchange.handle_refused h chain
    exact .same (hb id).itsSpan
  | @endsNormal ρ x c i v scope chain hi =>
    by_cases hii : id = i
    · subst hii
      exact .concludes (.inl rfl) (Pass.runNormal_concludes c x scope hid)
    · exact .same ((Pass.runNormal_treats c x scope hi).span id hii)
  | @endsError ρ x i v scope chain hi =>
    by_cases hii : id = i
    · subst hii
      obtain ⟨status, cause, calls, exports, hclosing⟩ := Pass.runError_closes x scope hid
      exact .closes hclosing
    · exact .same ((Pass.runError_treats x scope hi).1.span id hii)
  | @acts q status a _ hm =>
    have hdoes : Does (.acts q a) w (a.performAt q status w).world := .acts hm
    cases hu : a.use? with
    | some use =>
      have htakes := hdoes.takes hw hu
      cases hn : Continuation.next? w use.1 with
      | none =>
        rw [hn] at htakes
        exact .same (htakes.span id)
      | some p =>
        rw [hn] at htakes
        by_cases hi : id = p.2
        · subst hi
          have hp : (Actor.acts q a).takes? w = some (p.1, p.2) := by
            show (a.use?.bind fun use => Continuation.next? w use.1) = some p
            rw [hu]
            exact hn
          exact .concludes (.inr hp) (hdoes.concludes hw hp)
        · exact .same (htakes.span id hi)
    | none =>
      rw [Action.performAt_world]
      by_cases hspan : a.span? = some id
      · cases a with
        | finalize i code failure =>
          cases hspan
          unfold Action.perform
          rw [Action.runIn_map_snd]
          obtain ⟨calls, exports, h⟩ :=
            (Tracer.finalize_closes (w := w) code (failure.map .fault) hid).closing
          exact .closes h
        | abandon i =>
          cases hspan
          unfold Action.perform
          rw [Action.runIn_map_snd]
          obtain ⟨calls, exports, h⟩ := (Tracer.abandon_closes (w := w) 0 none hid).closing
          exact .closes h
        | tag => cases ht
        | _ => cases hspan
      · exact .same ((Action.perform_spares hm hu).span id hid hspan)
  | shifts => exact .same rfl

end

end SpanLifecycle
