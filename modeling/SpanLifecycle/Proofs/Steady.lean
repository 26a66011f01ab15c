import SpanLifecycle.Continuation
import SpanLifecycle.Http.Endpoint
import SpanLifecycle.Proofs.Transparency

/-!
# What requests leave to the next one

Whatever a request does to spans, attributes and continuations, two things are for the requests
after it as they were: what the tracer fails at, and what the coordinators say about an error
handler.  A coordinator may have asked its lookup in between, so a pass is `World.Steady` only, if
its chain is; continuations and endpoints made of steps retain the coordinators as well.
-/

namespace SpanLifecycle

/-- From one world to another the tracer fails at what it failed at, and the coordinators answer as
they did. -/
structure World.Steady (w w' : World) : Prop where
  failures : w'.failures = w.failures
  answer : ∀ c, (w'.coordinator c).answer = (w.coordinator c).answer

namespace World

variable {w w' w'' : World}

theorem Retains.steady (h : w.Retains w') : w.Steady w' where
  failures := h.failures
  answer c := by
    unfold coordinator
    rw [h.coordinators]

namespace Steady

theorem refl (w : World) : w.Steady w := ⟨rfl, fun _ => rfl⟩

theorem trans (h : w.Steady w') (g : w'.Steady w'') : w.Steady w'' :=
  ⟨g.failures.trans h.failures, fun c => (g.answer c).trans (h.answer c)⟩

theorem isWorking (h : w.Steady w') (hw : w.IsWorking) : w'.IsWorking := by
  intro verb
  rw [h.failures]
  exact hw verb

end Steady

end World

theorem Within.steady {r : RequestName} {id : SpanId} {w w' : World} (h : Within r id w w') :
    w.Steady w' := ⟨h.failures, h.answer⟩

theorem Exchange.Begins.steady {x : Exchange} {c : String} {w v : World} (h : x.Begins c w v) :
    w.Steady v := ⟨h.failures, h.answer⟩

/-! ## Passes -/

/-- The end of a normal pass may ask the lookup, and all else is retained. -/
theorem Pass.conclude_steady (c : String) (r : RequestName) (status : Int) (id : SpanId)
    (failure : Option Fault) (w : World) :
    w.Steady ((conclude c r status (some id) failure).runIn w).2 := by
  cases hasync : (w.attributes r).isAsyncStarted with
  | true =>
    obtain ⟨w', h, hb⟩ := conclude_async (c := c) r status failure (some id) hasync
    rw [h]
    exact (hb id).steady
  | false =>
    cases ha : (w.coordinator c).answer with
    | error e =>
      obtain ⟨w', h, hb⟩ := conclude_raises r status failure id ha hasync
      rw [h]
      exact (hb id).steady
    | ok b =>
      obtain ⟨v, hb, h⟩ := conclude_carriesOut r status id failure ha hasync
      have hmark := marked_retains (outcome w r status id failure b).decide r status id v
      rw [h]
      exact hb.steady.trans (hmark.trans (carryOut_retains _ r status id failure _)).steady

namespace Exchange

variable {ρ : Type} {x : Exchange} {c : String} {w v : World}

theorem lastStep_steady (x : Exchange) (c : String) (w : World) (done : ChainEnd ρ) :
    done.world.Steady ((x.lastStep c w done).runIn done.world).2 := by
  unfold lastStep
  split
  · exact (Pass.concludeError_retains _ _ _ done.world).steady
  · rw [Act.runIn_bind, Act.runIn_modify]
    have hnote := Pass.noteFailure_becomes x done.raised (x.spanIn w) done.world
    exact hnote.steady.trans (Pass.conclude_steady c _ _ _ _ _)

theorem chainStart?_steady (h : x.chainStart? c w = some v) : w.Steady v := by
  cases ha : Attribute.present? (w.attributes x.request).activeSpan with
  | none => exact (chainStart?_begins h ha).steady
  | some a =>
    obtain ⟨id, rfl⟩ := chainStart?_active h ha
    exact (chainStart?_resumes h ha id).steady

/-- A pass is steady if its chain is. -/
theorem handle_steady (x : Exchange) (c : String) (chain : Chain ρ) (w : World)
    (hc : ∀ v : World, v.Steady (chain v).world) : w.Steady (x.handle c chain w).world := by
  cases h : x.chainStart? c w with
  | none =>
    obtain ⟨m, calls, hb, -⟩ := handle_refused_becomes h chain
    exact (hb 0).steady
  | some v =>
    rw [handle_eq h chain]
    have hlast := lastStep_steady x c w (chain v)
    exact (chainStart?_steady h).trans ((hc v).trans ⟨hlast.failures, hlast.answer⟩)

end Exchange

/-! ## Continuations and endpoints -/

namespace Continuation

theorem takeSpan_retains (label : String) : (takeSpan label).Retains := by
  have hlog : ∀ e : LogEvent, (do modify (Pass.log e); pure none :
      Act (Option (RequestName × Attribute))).Retains :=
    fun e => (Act.retains_log Pass.logger e).bind fun _ => Act.retains_pure none
  unfold takeSpan
  refine Act.retains_get.bind fun w => ?_
  split
  · exact Act.retains_pure _
  · next k _ =>
    have htake : (modify fun w => { w with
        continuations := w.continuations.set label { k with done := true } } : Act PUnit).Retains :=
      Act.retains_modify fun _ => ⟨rfl, rfl⟩
    refine .ite (hlog _) (htake.bind fun _ => Act.retains_get.bind fun w => ?_)
    split
    · exact hlog _
    · exact (Act.retains_modifyAttributes k.request _).bind fun _ => Act.retains_pure _

theorem complete_retains (label : String) (status : Int) (failure : Option Fault) :
    (complete label status failure).Retains := by
  unfold complete
  refine (takeSpan_retains label).bind fun taken => ?_
  split
  · exact Act.retains_pure _
  · next r a =>
    refine Act.retains_get.bind fun w => ?_
    dsimp only
    split
    · next id =>
      have hrest : (do
          let finalized ← Tracer.finalize status (failure.map .fault) id
          if finalized then
            modify fun w => w.modifyAttributes r (·.raiseFlag .alreadyFinalized)
          return finalized : Act Bool).Retains := by
        refine (Tracer.finalize_retains status _ id).bind fun b => ?_
        exact .ite ((Act.retains_modifyAttributes r _).bind fun _ => Act.retains_pure _)
          (Act.retains_pure _)
      exact .ite ((Act.retains_modifySpan id _).bind fun _ => hrest) hrest
    · refine .ite (Act.retains_throw _) ?_
      exact (Tracer.failIfTold_retains .finalize).bind fun _ => Act.retains_throw _

theorem abandon_retains (label : String) : (abandon label).Retains := by
  unfold abandon
  refine (takeSpan_retains label).bind fun taken => ?_
  split
  · exact Act.retains_pure _
  · exact Tracer.abandon_retains _
  · exact (Tracer.failIfTold_retains .abandon).bind fun _ => Act.retains_throw _

end Continuation

namespace EndpointStep

end EndpointStep

/-- Sending a reply changes neither the world nor the scope. -/
theorem Reply.send_same (reply : Reply) (s : HttpScope) (w : World) :
    (reply.send s w).world = w ∧ (reply.send s w).scope = s := by
  cases reply with
  | whole d =>
    unfold send
    dsimp only
    split
    · exact ⟨rfl, rfl⟩
    · exact ⟨rfl, rfl⟩
  | stream status chunks failure => exact ⟨rfl, rfl⟩
  | refusal r =>
    show (r.respond s w).world = w ∧ (r.respond s w).scope = s
    unfold Refusal.respond
    split
    · exact ⟨rfl, rfl⟩
    · exact ⟨rfl, rfl⟩

end SpanLifecycle
