import SpanLifecycle.Proofs.Standing
import Mathlib.Logic.Relation

/-!
# How a pass ends

The end of a normal pass marks its span and then carries out the verdict on it
(`conclude_carriesOut`); the end of an error pass finalizes its span or leaves it alone.  However
either of them goes, and whether or not the tracer works, no other request and no other span is
treated (`runNormal_treats`, `runError_treats`).  The span itself only advances: once it is finalized
it stays as it is (`Span.Advances.of_finalized`).
-/

namespace SpanLifecycle

/-! ## Spans that advance -/

namespace Span

/-- What a pass can make of a span at a time. -/
inductive Advance (s : Span) : Span → Prop where
  | tagged (status : Int) (h : s.state ≠ .finalized) :
      Advance s (s.tag httpStatusCode (toString status))
  | reported (status : Int) (cause : Option Attribute) (h : s.state ≠ .finalized) :
      Advance s (s.report status cause).finish
  | abandoned (h : s.state = .opened) : Advance s { s with state := .abandoned }

/-- Any number of advances. -/
abbrev Advances : Span → Span → Prop := Relation.ReflTransGen Advance

/-- A finalized span does not advance any further. -/
theorem Advances.of_finalized {s t : Span} (h : s.Advances t) (hs : s.state = .finalized) :
    t = s := by
  induction h with
  | refl => rfl
  | tail _ hstep ih =>
    subst ih
    cases hstep with
    | tagged _ h | reported _ _ h => exact absurd hs h
    | abandoned h =>
      rw [hs] at h
      cases h

end Span

/-! ## Treating a request and its span -/

namespace Attributes

/-- What the end of a pass can note about a request at a time. -/
inductive Mark (m : Attributes) : Attributes → Prop where
  | pending (e : Fault) : Mark m (m.setPendingException (.fault e))
  | forgotten : Mark m m.takePendingException.2
  | cleared : Mark m m.clearActiveSpan
  | finalized : Mark m (m.raiseFlag .alreadyFinalized)
  | handled : Mark m m.markErrorHandled

/-- Any number of notes. -/
abbrev Marks : Attributes → Attributes → Prop := Relation.ReflTransGen Mark

theorem Marks.noted (raised : Option Fault) (m : Attributes) :
    m.Marks (Pass.notedAttributes raised m) := by
  unfold Pass.notedAttributes
  split
  · exact .single (.pending _)
  · exact .refl

/-- Nothing takes back that a request was handled. -/
theorem Marks.isErrorHandled {m m' : Attributes} (h : m.Marks m') (hm : m.isErrorHandled = true) :
    m'.isErrorHandled = true := by
  induction h with
  | refl => exact hm
  | tail _ hstep ih =>
    cases hstep with
    | handled => simp
    | _ => simpa using ih

end Attributes

/-- A call on a span that exists, and on no other. -/
def TracerCall.IsOn (id : SpanId) : TracerCall → Prop
  | .finalized j .. | .abandoned j _ => j = id
  | .failed verb => verb ≠ .create
  | .created .. => False

/-- From one world to another a request and a span were treated, and nothing else: the span has
advanced, the request was marked, all calls were on the span, and it was exported only as it was
finalized. -/
structure Treats (r : RequestName) (id : SpanId) (w w' : World) : Prop extends Within r id w w' where
  advances : (w.span id).Advances (w'.span id)
  marks : (w.attributes r).Marks (w'.attributes r)
  adds : ∃ calls exports, Adds w w' calls exports ∧ (∀ c ∈ calls, c.IsOn id) ∧
    ∀ e ∈ exports, (w'.span id).state = .finalized ∧ e = (w'.span id).toExported ∧
      id ∈ calls.filterMap (·.finalizes?)

namespace Treats

variable {r : RequestName} {id : SpanId} {w w' w'' : World}

/-- A step that leaves the span alone, and adds only calls on it. -/
theorem of_becomes {m : Attributes} {calls : List TracerCall}
    (h : Becomes r id w w' { span := w.span id, attributes := m, calls })
    (hm : (w.attributes r).Marks m) (hc : ∀ c ∈ calls, c.IsOn id) : Treats r id w w' where
  toWithin := h.toWithin
  advances := by rw [h.itsSpan]
  marks := by rwa [h.itsAttributes]
  adds := ⟨calls, [], ⟨h.calls, h.exports⟩, hc, fun _ he => absurd he List.not_mem_nil⟩

/-- A step that adds no calls either. -/
theorem of_quiet {m : Attributes}
    (h : Becomes r id w w' { span := w.span id, attributes := m })
    (hm : (w.attributes r).Marks m) : Treats r id w w' :=
  of_becomes h hm fun _ hc => absurd hc List.not_mem_nil

theorem refl (r : RequestName) (id : SpanId) (w : World) : Treats r id w w :=
  of_quiet (Becomes.refl r id w) .refl

theorem trans (h : Treats r id w w') (g : Treats r id w' w'') : Treats r id w w'' where
  toWithin := h.toWithin.trans g.toWithin
  advances := h.advances.trans g.advances
  marks := h.marks.trans g.marks
  adds := by
    obtain ⟨calls, exports, hadds, hcalls, hexports⟩ := h.adds
    obtain ⟨calls', exports', hadds', hcalls', hexports'⟩ := g.adds
    refine ⟨calls ++ calls', exports ++ exports', ⟨?_, ?_⟩, ?_, ?_⟩
    · rw [hadds'.calls, hadds.calls, List.append_assoc]
    · rw [hadds'.exports, hadds.exports, List.append_assoc]
    · intro c hc
      rcases List.mem_append.mp hc with hc | hc
      · exact hcalls c hc
      · exact hcalls' c hc
    · intro e he
      rw [List.filterMap_append, List.mem_append]
      rcases List.mem_append.mp he with he | he
      -- what was exported first has been finalized, and stays so
      · obtain ⟨hstate, hspan, hmem⟩ := hexports e he
        have hsame := g.advances.of_finalized hstate
        rw [hsame]
        exact ⟨hstate, hspan, .inl hmem⟩
      · obtain ⟨hstate, hspan, hmem⟩ := hexports' e he
        exact ⟨hstate, hspan, .inr hmem⟩

theorem modifyAttributes (r : RequestName) (id : SpanId) (w : World)
    (f : Attributes → Attributes) (hf : (w.attributes r).Mark (f (w.attributes r))) :
    Treats r id w (w.modifyAttributes r f) :=
  of_quiet (Becomes.modifyAttributes r id w f) (.single hf)

end Treats

/-! ## Calls of the tracer -/

namespace Tracer

variable {id : SpanId} {w : World}

/-- However a finalization goes, it treats its span only. -/
theorem finalize_treats (r : RequestName) (status : Int) (cause : Option Attribute)
    (hid : id < w.spans.length) : Treats r id w ((finalize status cause id).runIn w).2 := by
  have h := finalize_outcome status cause hid
  generalize (finalize status cause id).runIn w = out at h
  cases h with
  | failed e _ =>
    refine .of_becomes (Becomes.call r id w _) .refl fun c hc => ?_
    rw [List.mem_singleton.mp hc]
    exact nofun
  | late w' _ hb =>
    refine .of_becomes (hb r) .refl fun c hc => ?_
    rw [List.mem_singleton.mp hc]
    rfl
  | refused e _ _ => exact .refl r id w
  | effective w' hs _ hb =>
    have hb := hb r
    refine ⟨hb.toWithin, ?_, hb.itsAttributes ▸ .refl, _, _, ⟨hb.calls, hb.exports⟩, ?_, ?_⟩
    · rw [hb.itsSpan]
      exact .single (.reported status cause hs)
    · intro c hc
      rw [List.mem_singleton.mp hc]
      rfl
    · intro e he
      rw [hb.itsSpan]
      refine ⟨rfl, ?_, List.mem_singleton.mpr rfl⟩
      unfold finalizedUpshot at he
      dsimp only at he
      split at he
      · exact List.mem_singleton.mp he
      · exact absurd he List.not_mem_nil

/-- So does an abandonment. -/
theorem abandon_treats (r : RequestName) (hid : id < w.spans.length) :
    Treats r id w ((abandon id).runIn w).2 := by
  have h := abandon_outcome hid
  generalize (abandon id).runIn w = out at h
  cases h with
  | failed e _ =>
    refine .of_becomes (Becomes.call r id w _) .refl fun c hc => ?_
    rw [List.mem_singleton.mp hc]
    exact nofun
  | late w' _ hb =>
    refine .of_becomes (hb r) .refl fun c hc => ?_
    rw [List.mem_singleton.mp hc]
    rfl
  | effective w' hs hb =>
    have hb := hb r
    refine ⟨hb.toWithin, ?_, hb.itsAttributes ▸ .refl, _, _, ⟨hb.calls, hb.exports⟩, ?_, ?_⟩
    · rw [hb.itsSpan]
      exact .single (.abandoned hs)
    · intro c hc
      rw [List.mem_singleton.mp hc]
      rfl
    · intro e he
      exact absurd he List.not_mem_nil

end Tracer

/-! ## The end of a normal pass -/

namespace Pass

variable {c : String} {r : RequestName} {status : Int} {id : SpanId} {failure : Option Fault}
  {w : World}

/-- What a decision marks: the tag that a span which is not finalized gets, and the active span. -/
theorem marking_becomes (d : Decision) (r : RequestName) (status : Int)
    (hid : id < w.spans.length) :
    Becomes r id w (marked d r status id w)
      { span := if d.tagStatus && (w.span id).state != .finalized then
          (w.span id).tag httpStatusCode (toString status) else w.span id
        attributes := if d.clearActiveSpan then (w.attributes r).clearActiveSpan
          else w.attributes r } := by
  have htag : Becomes r id w
      (if d.tagStatus && (w.span id).state != .finalized then
        w.modifySpan id (·.tag httpStatusCode (toString status)) else w)
      { span := if d.tagStatus && (w.span id).state != .finalized then
          (w.span id).tag httpStatusCode (toString status) else w.span id
        attributes := w.attributes r } := by
    by_cases h : (d.tagStatus && (w.span id).state != .finalized) = true
    · rw [if_pos h, if_pos h]
      exact Becomes.modifySpan r id w _ hid
    · rw [if_neg h, if_neg h]
      exact Becomes.refl r id w
  unfold marked
  cases d.clearActiveSpan with
  | true => exact htag.thenModifyAttributes _
  | false => exact htag

/-- A mark does not change the state of a span. -/
theorem marking_state (d : Decision) (r : RequestName) (status : Int)
    (hid : id < w.spans.length) :
    ((marked d r status id w).span id).state = (w.span id).state := by
  rw [(marking_becomes d r status hid).itsSpan]
  dsimp only
  split <;> rfl

/-- Where the coordinator has an answer, the end of a normal pass marks and carries out the verdict
that follows from it. -/
theorem conclude_carriesOut {b : Bool} (r : RequestName) (status : Int) (id : SpanId)
    (failure : Option Fault) (ha : (w.coordinator c).answer = .ok b)
    (hasync : (w.attributes r).isAsyncStarted = false) :
    let d := (outcome w r status id failure b).decide
    ∃ v, Becomes r id w v { span := w.span id, attributes := w.attributes r } ∧
      (conclude c r status (some id) failure).runIn w =
        (carryOut d.verdict r status id failure).runIn (marked d r status id v) := by
  obtain ⟨v, hv, hcurrent, hb⟩ := hasErrorHandler_answer c w
  have hv₁ := hb r id
  rw [ha] at hv
  unfold conclude settle
  simp only [Act.runIn_bind, Act.runIn_get, hasync, Bool.false_eq_true, if_false, hv,
    Act.runIn_modify, applyDecision_runIn]
  rw [outcome_congr hcurrent hv₁.itsSpan hv₁.itsAttributes]
  exact ⟨_, hv₁.thenLog logger _, rfl⟩

theorem marked_treats (d : Decision) (r : RequestName) (status : Int)
    (hid : id < w.spans.length) : Treats r id w (marked d r status id w) := by
  have hb := marking_becomes d r status hid
  refine ⟨hb.toWithin, ?_, ?_, _, _, ⟨hb.calls, hb.exports⟩, ?_, ?_⟩
  · rw [hb.itsSpan]
    dsimp only
    split
    · next h =>
      have hs := (Bool.and_eq_true_iff.mp h).2
      exact .single (.tagged status (by simpa using hs))
    · exact .refl
  · rw [hb.itsAttributes]
    dsimp only
    split
    · exact .single .cleared
    · exact .refl
  · exact fun _ hc => absurd hc List.not_mem_nil
  · exact fun _ he => absurd he List.not_mem_nil

theorem carryOut_treats (v : Verdict) (r : RequestName) (status : Int) (failure : Option Fault)
    (hid : id < w.spans.length) :
    Treats r id w ((carryOut v r status id failure).runIn w).2 := by
  unfold carryOut
  cases v with
  | defer => exact .refl r id w
  | abandon =>
    have h := Tracer.abandon_treats r hid
    rw [Act.runIn_discard]
    revert h
    rcases (Tracer.abandon id).runIn w with ⟨e | b, v⟩ <;> exact fun h => h
  | finalize =>
    refine Act.runIn_bind_rel (R := Treats r id) Treats.trans
      (Tracer.finalize_treats r status _ hid) fun b u _ _ => ?_
    split
    · have hflag := Treats.modifyAttributes r id u (·.raiseFlag .alreadyFinalized) .finalized
      refine Act.runIn_bind_rel (R := Treats r id) Treats.trans hflag fun _ v hv _ => ?_
      cases hv
      split
      · exact .modifyAttributes r id _ (fun m => m.takePendingException.2) .forgotten
      · exact .refl r id _
    · exact .refl r id u

/-- The end of a normal pass treats its request and its span only. -/
theorem conclude_treats (c : String) (r : RequestName) (status : Int) (failure : Option Fault)
    (hid : id < w.spans.length) :
    Treats r id w ((conclude c r status (some id) failure).runIn w).2 := by
  cases hasync : (w.attributes r).isAsyncStarted with
  | true =>
    obtain ⟨w', h, hb⟩ := conclude_async (c := c) r status failure (some id) hasync
    rw [h]
    exact .of_quiet (hb id) .refl
  | false =>
    cases ha : (w.coordinator c).answer with
    | error e =>
      obtain ⟨w', h, hb⟩ := conclude_raises r status failure id ha hasync
      rw [h]
      exact .of_quiet (hb id) .refl
    | ok b =>
      obtain ⟨v, hb, h⟩ := conclude_carriesOut r status id failure ha hasync
      have hmark := marked_treats (outcome w r status id failure b).decide r status
        (hb.length ▸ hid)
      rw [h]
      refine ((Treats.of_quiet hb .refl).trans hmark).trans (carryOut_treats _ r status failure ?_)
      rw [hmark.length, hb.length]
      exact hid

theorem noteFailure_treats (x : Exchange) (raised : Option Fault) (id : SpanId) (w : World) :
    Treats x.request id w (noteFailure x raised w) :=
  .of_quiet (noteFailure_becomes x raised id w) (.noted _ _)

variable {ρ : Type} {chain : Chain ρ}

theorem runNormal_treats (c : String) (x : Exchange) (scope : Scope)
    (hid : id < (chain w).world.spans.length) :
    Treats x.request id (chain w).world (runNormal c x id scope chain w).world := by
  have hnote := noteFailure_treats x (chain w).raised id (chain w).world
  have hend := conclude_treats c x.request (chain w).status (failureOf (chain w).raised)
    (hnote.length ▸ hid)
  rw [← finishWith_snd _ (chain w).raised] at hend
  exact (hnote.trans hend).trans (.of_quiet (Becomes.close x.request id _ scope) .refl)

/-! ## The end of an error pass -/

/-- The end of an error pass treats its request and its span only, and it marks the request as handled
whatever else it does. -/
theorem concludeError_treats (r : RequestName) (status : Int) (hid : id < w.spans.length) :
    let last := ((concludeError r status id).runIn w).2
    Treats r id w last ∧ (w.attributes r).markErrorHandled.Marks (last.attributes r) := by
  intro last
  by_cases hidle : (w.attributes r).isAsyncStarted = true ∨
      (w.attributes r).isErrorSpanReported = true ∨ (w.attributes r).isAlreadyFinalized = true
  · obtain ⟨w', h, hb⟩ := concludeError_idle r status id w hidle
    have hlast : last = w' := congrArg Prod.snd h
    rw [hlast]
    exact ⟨.of_quiet (hb id) (.single .handled), (hb id).itsAttributes ▸ .refl⟩
  · simp only [not_or, Bool.not_eq_true] at hidle
    have hhandled := handled_becomes r id w
    have hfinal := Tracer.finalize_treats (w := handled r w) r status
      (Attribute.present? (w.attributes r).pendingException) hid
    have hthen : Treats r id (handled r w) last := by
      unfold last
      rw [concludeError_runIn r status id w hidle.1 hidle.2.1 hidle.2.2]
      revert hfinal
      rcases (Tracer.finalize status _ id).runIn (handled r w) with ⟨e | b, v⟩
      · exact fun h => h
      · cases b with
        | false => exact fun h => h
        | true =>
          exact fun h =>
            h.trans (.modifyAttributes r id v (·.raiseFlag .alreadyFinalized) .finalized)
    have hmarks := hthen.marks
    rw [hhandled.itsAttributes] at hmarks
    exact ⟨(Treats.of_quiet hhandled (.tail (.single .handled) .forgotten)).trans hthen,
      hmarks.head .forgotten⟩

theorem runError_treats (x : Exchange) (scope : Scope)
    (hid : id < (chain w).world.spans.length) :
    let last := (runError x id scope chain w).world
    Treats x.request id (chain w).world last ∧
      ((chain w).world.attributes x.request).markErrorHandled.Marks (last.attributes x.request) := by
  obtain ⟨htreats, hmarks⟩ := concludeError_treats x.request (chain w).status hid
  rw [← finishWith_snd _ (chain w).raised] at htreats hmarks
  have hclose := Becomes.close x.request id
    (finishWith (concludeError x.request (chain w).status id) (chain w).raised (chain w).world).2
    scope
  exact ⟨htreats.trans (.of_quiet hclose .refl), hclose.itsAttributes ▸ hmarks⟩

/-- After an error pass its request counts as handled, even if the tracer failed. -/
theorem runError_handles (x : Exchange) (scope : Scope)
    (hid : id < (chain w).world.spans.length) :
    ((runError x id scope chain w).world.attributes x.request).isErrorHandled = true :=
  (runError_treats x scope hid).2.isErrorHandled (by simp)

end Pass

/-- Whichever pass it is, its end treats its request and its span only. -/
theorem Exchange.handle_treats {x : Exchange} {c : String} {w v : World} {ρ : Type}
    {chain : Chain ρ} (h : x.chainStart? c w = some v)
    (hid : x.spanIn w < (chain v).world.spans.length) :
    Treats x.request (x.spanIn w) (chain v).world (x.handle c chain w).world := by
  obtain ⟨scope, hrun⟩ := handle_started h chain
  rw [hrun]
  split
  · exact (Pass.runError_treats x scope hid).1
  · exact Pass.runNormal_treats c x scope hid

/-! ## The verdict after an error pass -/

/-- Once its request is handled, and unless a close was requested, a span is finalized only after a
success that was not finalized before, and otherwise left alone. -/
theorem Outcome.decide_handled {o : Outcome} (ha : o.asyncStarted = false)
    (hh : o.errorHandled = true) (hc : o.shouldClose = false) :
    let again := o.successful && !o.alreadyFinalized && !(o.hasException && o.hasErrorHandler)
    o.decide.verdict = (if again then .finalize else .defer) ∧
      o.decide.clearActiveSpan = again := by
  unfold decide
  simp only [ha, hh, hc, Bool.false_eq_true, if_false, Bool.not_false, Bool.and_true]
  cases o.successful && !o.alreadyFinalized with
  | false => exact ⟨rfl, rfl⟩
  | true => cases o.hasException && o.hasErrorHandler <;> exact ⟨rfl, rfl⟩

end SpanLifecycle
