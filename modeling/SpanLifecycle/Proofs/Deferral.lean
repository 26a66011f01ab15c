import SpanLifecycle.Proofs.CloseRequest
import SpanLifecycle.Proofs.Transparency

/-!
# Close requests that are put off

A chain that asks for its span to be closed has it finalized by the pass, whatever the response,
with one exception: the failure of a chain with a successful status, under an error handler, is put
off to the error pass, close request or not.  `closing_finalizes_unless_deferred` says so of every
normal pass, and whatever state its chain has left the span in.
-/

namespace SpanLifecycle

namespace Pass

variable {c : String} {r : RequestName} {status : Int} {id : SpanId} {failure : Option Fault}
  {w : World}

/-- To finalize a span where the tracer works leaves it finalized, whatever it was before. -/
theorem carryOut_finalizes (r : RequestName) (status : Int) (failure : Option Fault)
    (hw : w.IsWorking) (hid : id < w.spans.length) :
    ∃ w', (carryOut .finalize r status id failure).runIn w = (.ok (), w') ∧
      (w'.span id).state = .finalized := by
  have h := Tracer.finalize_outcome status (failure.map .fault) hid
  unfold carryOut
  rw [Act.runIn_bind]
  generalize (Tracer.finalize status (failure.map .fault) id).runIn w = out at h
  cases h with
  | failed e hf =>
    rw [hw .finalize] at hf
    cases hf
  | refused e hs hc =>
    rw [not_refused (w.span id) failure] at hc
    cases hc
  | late w' hs hb =>
    refine ⟨w', rfl, ?_⟩
    rw [(hb r).itsSpan]
    exact hs
  | effective w' hs hc hb =>
    have hflag := (hb r).thenModifyAttributes (·.raiseFlag .alreadyFinalized)
    have hstate : ∀ {u : World} {m : Attributes} {calls : List TracerCall}
        {exports : List ExportedSpan},
        Becomes r id w u
          { span := (Tracer.finalizedUpshot id status (failure.map .fault) w.exporting (w.span id)
              (w.attributes r)).span
            attributes := m, calls, exports } →
        (u.span id).state = .finalized := by
      intro u m calls exports h
      rw [h.itsSpan]
      rfl
    cases failure with
    | none => exact ⟨_, rfl, hstate (hflag.thenModifyAttributes (·.takePendingException.2))⟩
    | some e => exact ⟨_, rfl, hstate hflag⟩

/-- The last step of a pass over a span that is to be closed, and is still current. -/
theorem conclude_closes {b : Bool} (r : RequestName) (status : Int) (failure : Option Fault)
    (hw : w.IsWorking) (ha : (w.coordinator c).answer = .ok b) (hid : id < w.spans.length)
    (hasync : (w.attributes r).isAsyncStarted = false)
    (hclose : (w.attributes r).shouldClose = true) (hcurrent : w.isCurrent id = true) :
    ∃ w', (conclude c r status (some id) failure).runIn w = (.ok (), w') ∧
      (w'.span id).state =
        if (outcome w r status id failure b).isDeferred then (w.span id).state
        else .finalized := by
  obtain ⟨v, hb, hrun⟩ := conclude_carriesOut r status id failure ha hasync
  have hverdict : (outcome w r status id failure b).decide.verdict = _ :=
    (Outcome.decide_closing rfl hclose hcurrent).1
  generalize (outcome w r status id failure b).decide = d at hverdict hrun
  have hidv : id < v.spans.length := by rw [hb.length]; exact hid
  have hmark := marking_becomes d r status hidv
  rw [hrun, hverdict]
  cases (outcome w r status id failure b).isDeferred with
  | true =>
    refine ⟨marked d r status id v, rfl, ?_⟩
    rw [if_pos rfl, marking_state d r status hidv, hb.itsSpan]
  | false =>
    obtain ⟨w', h, hstate⟩ := carryOut_finalizes r status failure
      (hmark.isWorking (hb.isWorking hw)) (by rw [hmark.length]; exact hidv)
    exact ⟨w', h, hstate⟩

end Pass

section Passes

open Pass

variable {ρ : Type} {x : Exchange} {c : String} {w v : World} {b : Bool}

/-- A normal pass whose chain has asked for the span to be closed, and has left it current, raises
what the chain has raised.  It leaves the span finalized, unless the chain has failed after a
success that no pass has finalized before, and there is an error handler: then the span stays as the
chain has left it. -/
theorem closing_finalizes_unless_deferred (h : x.chainStart? c w = some v)
    (hnormal : x.isErrorPass w = false) (chain : Chain ρ) (hw : (chain v).world.IsWorking)
    (ha : ((chain v).world.coordinator c).answer = .ok b)
    (hid : x.spanIn w < (chain v).world.spans.length)
    (hasync : ((chain v).world.attributes x.request).isAsyncStarted = false)
    (hclose : ((chain v).world.attributes x.request).shouldClose = true)
    (hcurrent : (chain v).world.isCurrent (x.spanIn w) = true) :
    let done := chain v
    let last := x.handle c chain w
    let deferred := isSuccessfulStatus done.status &&
      !(done.world.attributes x.request).isAlreadyFinalized && ((failureOf done.raised).isSome && b)
    last.raised = done.raised ∧
      (last.world.span (x.spanIn w)).state =
        if deferred then (done.world.span (x.spanIn w)).state else .finalized := by
  intro done last deferred
  have hnote := noteFailure_becomes x done.raised (x.spanIn w) done.world
  have hflag : ∀ k, k ≠ .pendingException →
      ((noteFailure x done.raised done.world).attributes x.request).flag k =
        (done.world.attributes x.request).flag k := by
    intro k hk
    rw [hnote.itsAttributes, notedAttributes_flag done.raised _ hk]
  have hstill : (noteFailure x done.raised done.world).isCurrent (x.spanIn w) = true :=
    (noteFailure_isCurrent x done.world done.raised _).trans hcurrent
  obtain ⟨u, hrun, hstate⟩ := conclude_closes x.request done.status (failureOf done.raised)
    (hnote.isWorking hw) ((hnote.answer c).trans ha) (by rw [hnote.length]; exact hid)
    ((hflag .asyncStarted (by decide)).trans hasync)
    ((hflag .shouldClose (by decide)).trans hclose) hstill
  have hdeferred : (outcome (noteFailure x done.raised done.world) x.request done.status
      (x.spanIn w) (failureOf done.raised) b).isDeferred = deferred := by
    show (isSuccessfulStatus done.status &&
      !((noteFailure x done.raised done.world).attributes x.request).flag .alreadyFinalized &&
      ((failureOf done.raised).isSome && b)) = deferred
    rw [hflag .alreadyFinalized (by decide)]
    rfl
  have hlast : (x.lastStep c w done).runIn done.world = (.ok (), u) := by
    unfold Exchange.lastStep
    rw [hnormal, if_neg Bool.false_ne_true, Act.runIn_bind, Act.runIn_modify]
    exact hrun
  have hend := x.handle_eq h chain
  dsimp only at hend
  rw [hlast] at hend
  rw [hdeferred, hnote.itsSpan] at hstate
  change last = _ at hend
  rw [hend]
  exact ⟨rfl, hstate⟩

/-- After a failure with an unsuccessful status, the close request has the span finalized. -/
theorem closing_failure_finalizes :
    (closingFirst 500).raised = some { kind := .valueError } ∧
      ((closingFirst 500).world.span 0).state = .finalized := by
  have hw : ∀ v, (visit 0).chainStart? "c" handlingWorld = some v →
      (CloseStep.chain outerRequest 0 [.close, .status 500] (some { kind := .valueError })
        v).world.IsWorking := by
    intro v hv
    cases hv
    intro verb
    cases verb <;> rfl
  cases hv : (visit 0).chainStart? "c" handlingWorld with
  | none => cases hv
  | some v =>
    have h := closing_finalizes_unless_deferred hv rfl
      (CloseStep.chain outerRequest 0 [.close, .status 500] (some { kind := .valueError }))
      (hw v hv) (b := true) (by cases hv; rfl) (by cases hv; decide) (by cases hv; rfl)
      (by cases hv; rfl) (by cases hv; rfl)
    cases hv
    exact h

/-- After a failure with a successful one it does not: the chain leaves the flag set, the span
current and the request synchronous, and yet the pass leaves the span open. -/
theorem closing_success_defers :
    ((visit 0).chainStart? "c" handlingWorld).map (fun v =>
      let done :=
        CloseStep.chain outerRequest 0 [.close, .status 200] (some { kind := .valueError }) v
      let m := done.world.attributes outerRequest
      (m.shouldClose, m.isAsyncStarted, done.world.isCurrent 0, (done.world.span 0).state)) =
        some (true, false, true, .opened) ∧
      ((closingFirst 200).world.span 0).state = .opened := by
  decide +kernel

end Passes

end SpanLifecycle
