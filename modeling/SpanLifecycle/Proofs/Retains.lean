import SpanLifecycle.Proofs.Pass

/-!
# What computations retain

Whatever the tracer and the ends of passes do to spans and requests, they leave alone what the
tracer fails at and what the coordinators are (`World.Retains`).  That is shown of each computation
step by step, whatever world it is run in, so that it holds of spans that were never started too.
-/

namespace SpanLifecycle

/-- From one world to another the tracer fails at what it failed at, and the coordinators are as
they were. -/
structure World.Retains (w w' : World) : Prop where
  failures : w'.failures = w.failures
  coordinators : w'.coordinators = w.coordinators

namespace World.Retains

variable {w w' w'' : World}

theorem refl (w : World) : w.Retains w := ⟨rfl, rfl⟩

theorem trans (h : w.Retains w') (g : w'.Retains w'') : w.Retains w'' :=
  ⟨g.failures.trans h.failures, g.coordinators.trans h.coordinators⟩

theorem log (w : World) (logger : String) (e : LogEvent) : w.Retains (w.log logger e) := by
  obtain ⟨logs, rs, h⟩ := w.log_eq logger e
  rw [h]
  exact ⟨rfl, rfl⟩

end World.Retains

/-! ## Computations -/

namespace Act

variable {α β : Type} {a : Act α}

/-- A computation that retains what it is run in. -/
def Retains (a : Act α) : Prop := ∀ w : World, w.Retains (a.runIn w).2

theorem retains_pure (x : α) : (pure x : Act α).Retains := fun w => .refl w

theorem retains_throw (e : Fault) : (throw e : Act α).Retains := fun w => .refl w

theorem retains_get : (get : Act World).Retains := fun w => .refl w

theorem retains_modify {f : World → World} (h : ∀ w : World, w.Retains (f w)) :
    (modify f : Act PUnit).Retains := h

theorem retains_modifyAttributes (r : RequestName) (f : Attributes → Attributes) :
    (modify fun w => w.modifyAttributes r f : Act PUnit).Retains :=
  retains_modify fun _ => ⟨rfl, rfl⟩

theorem retains_modifySpan (id : SpanId) (f : Span → Span) :
    (modify fun w => w.modifySpan id f : Act PUnit).Retains :=
  retains_modify fun _ => ⟨rfl, rfl⟩

theorem retains_enter (e : Entry) : (modify fun w => w.enter e : Act PUnit).Retains :=
  retains_modify fun _ => ⟨rfl, rfl⟩

theorem retains_log (logger : String) (e : LogEvent) :
    (modify fun w => w.log logger e : Act PUnit).Retains :=
  retains_modify fun w => .log w logger e

theorem Retains.bind {f : α → Act β} (h : a.Retains) (g : ∀ x, (f x).Retains) :
    (a >>= f).Retains :=
  fun w => Act.runIn_bind_rel (R := World.Retains) World.Retains.trans (h w) fun x v _ _ => g x v

theorem Retains.ite {p : Prop} [Decidable p] {b : Act α} (h : a.Retains) (g : b.Retains) :
    (if p then a else b).Retains := by
  split
  · exact h
  · exact g

end Act

namespace Tracer

theorem failIfTold_retains (v : Verb) : (failIfTold v).Retains := by
  unfold failIfTold
  refine Act.retains_get.bind fun w => ?_
  split
  · exact Act.retains_pure ()
  · exact (Act.retains_enter _).bind fun _ => Act.retains_throw _

theorem finalize_retains (status : Int) (cause : Option Attribute) (id : SpanId) :
    (finalize status cause id).Retains := by
  intro w
  cases hf : w.failures.of? .finalize with
  | some e =>
    rw [finalize_failed hf]
    exact ⟨rfl, rfl⟩
  | none =>
    by_cases hs : (w.span id).state = .finalized
    · rw [finalize_late hf hs]
      have hlog := World.Retains.log w logger
        { severity := .warning, event := "span_already_finalized", fields := idFields (w.span id) }
      exact ⟨hlog.failures, hlog.coordinators⟩
    · cases hc : isRefused (w.span id) cause with
      | true =>
        obtain ⟨e, h⟩ := finalize_refused status hf hs hc
        rw [h]
        exact .refl w
      | false =>
        rw [finalize_effective hf hs hc]
        have hended : w.Retains (ended w id status cause) := by
          unfold ended
          dsimp only
          split
          · exact ⟨rfl, rfl⟩
          · exact ⟨rfl, rfl⟩
        have hlog := hended.trans (.log _ logger (finalizedEvent (w.span id) status cause))
        exact ⟨hlog.failures, hlog.coordinators⟩

theorem abandon_retains (id : SpanId) : (abandon id).Retains := by
  unfold abandon
  refine (failIfTold_retains .abandon).bind fun _ => Act.retains_get.bind fun w => ?_
  have hlast : ∀ b, (do modify fun w => w.enter (.call (.abandoned id b)); pure b :
      Act Bool).Retains :=
    fun b => (Act.retains_enter _).bind fun _ => Act.retains_pure b
  refine .ite ?_ (.ite ?_ (hlast false))
  · exact (Act.retains_modifySpan id _).bind fun _ =>
      (Act.retains_log logger _).bind fun _ => hlast true
  · exact (Act.retains_log logger _).bind fun _ => hlast false

end Tracer

namespace Pass

theorem marked_retains (d : Decision) (r : RequestName) (status : Int) (id : SpanId) (w : World) :
    w.Retains (marked d r status id w) := by
  constructor <;>
  · unfold marked
    dsimp only
    split <;> split <;> rfl

theorem carryOut_retains (v : Verdict) (r : RequestName) (status : Int) (id : SpanId)
    (failure : Option Fault) : (carryOut v r status id failure).Retains := by
  unfold carryOut
  cases v with
  | defer => exact Act.retains_pure _
  | abandon => exact (Tracer.abandon_retains id).bind fun _ => Act.retains_pure _
  | finalize =>
    refine (Tracer.finalize_retains status _ id).bind fun b => .ite ?_ (Act.retains_pure _)
    refine (Act.retains_modifyAttributes r _).bind fun _ => ?_
    exact .ite (Act.retains_modifyAttributes r _) (Act.retains_pure _)

/-- The end of an error pass has no use for a coordinator. -/
theorem concludeError_retains (r : RequestName) (status : Int) (id : SpanId) :
    (concludeError r status id).Retains := by
  unfold concludeError
  refine (Act.retains_modifyAttributes r _).bind fun _ => Act.retains_get.bind fun w => ?_
  dsimp only
  refine .ite (Act.retains_log logger _) (.ite ?_ (Act.retains_pure _))
  refine (Act.retains_modifyAttributes r _).bind fun _ =>
    (Tracer.finalize_retains status _ id).bind fun b => ?_
  exact .ite (Act.retains_modifyAttributes r _) (Act.retains_pure _)

end Pass

end SpanLifecycle
