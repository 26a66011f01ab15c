import SpanLifecycle.Proofs.Alike

/-!
# Passes in two worlds

The tracer's calls, the steps of a pass and the pass as a whole (`handle_alike`) do the same in
worlds that are alike, and leave them alike.  `Agree` is that relation between two computations:
both return and what they return corresponds, or both raise the same exception.  It is closed under
sequencing (`Agree.bind`), so a computation is followed in both worlds at once, step by step.
-/

namespace SpanLifecycle

namespace Offset

/-- Two computations have come to the same, each in its own world. -/
inductive Agree (o : Offset) {α β : Type} (Q : α → β → Prop) :
    Except Fault α × World → Except Fault β × World → Prop where
  | ok {x : α} {y : β} {w w₀ : World} (hq : Q x y) (h : o.Alike w w₀) :
      Agree o Q (.ok x, w) (.ok y, w₀)
  | error (e : Fault) {w w₀ : World} (h : o.Alike w w₀) : Agree o Q (.error e, w) (.error e, w₀)

variable {o : Offset} {w w₀ : World}

/-- What is done next agrees if it does so on whatever came first. -/
theorem Agree.bind {α β γ δ : Type} {P : α → β → Prop} {Q : γ → δ → Prop} {a : Act α} {b : Act β}
    {f : α → Act γ} {g : β → Act δ} (h : o.Agree P (a.runIn w) (b.runIn w₀))
    (hf : ∀ x y v v₀, P x y → o.Alike v v₀ → o.Agree Q ((f x).runIn v) ((g y).runIn v₀)) :
    o.Agree Q ((a >>= f).runIn w) ((b >>= g).runIn w₀) := by
  rw [Act.runIn_bind, Act.runIn_bind]
  generalize a.runIn w = p at h
  generalize b.runIn w₀ = q at h
  cases h with
  | ok hq h => exact hf _ _ _ _ hq h
  | error e h => exact .error e h

theorem Agree.modify {f g : World → World} (h : o.Alike (f w) (g w₀)) :
    o.Agree (fun _ _ => True) ((modify f : Act PUnit).runIn w)
      ((modify g : Act PUnit).runIn w₀) :=
  .ok trivial h

/-- What the request holds may be forgotten. -/
theorem Agree.forget {α β : Type} {Q : α → β → Prop} {labels : List String}
    {p : Except Fault α × World} {q : Except Fault β × World}
    (h : { o with labels : Offset }.Agree Q p q) (hl : ∀ label ∈ o.labels, label ∈ labels) :
    o.Agree Q p q := by
  cases h with
  | ok hq h => exact .ok hq (h.forget hl)
  | error e h => exact .error e (h.forget hl)

/-- Two chains have come to the same, each in its own world. -/
structure EndsAlike (o : Offset) {ρ σ : Type} (Q : ρ → σ → Prop) (d : ChainEnd ρ)
    (d₀ : ChainEnd σ) : Prop where
  world : o.Alike d.world d₀.world
  status : d.status = d₀.status
  reply : Q d.reply d₀.reply
  raised : d.raised = d₀.raised

end Offset

/-! ## The tracer -/

namespace Tracer

variable {o : Offset} {w w₀ : World}

theorem failIfTold_agree (h : o.Alike w w₀) (v : Verb) :
    o.Agree (fun _ _ => True) ((failIfTold v).runIn w) ((failIfTold v).runIn w₀) := by
  cases hf : w₀.failures.of? v with
  | none =>
    rw [failIfTold_of_none (by rw [h.failures]; exact hf), failIfTold_of_none hf]
    exact .ok trivial h
  | some e =>
    rw [failIfTold_of_some (by rw [h.failures]; exact hf), failIfTold_of_some hf]
    exact .error e (h.call _ _)

/-- A new span differs in its ids at most. -/
theorem newSpan_anonymous (h : w.backend = w₀.backend) (parent : Option SpanContext)
    (name : String) :
    (newSpan w parent name).1.anonymous = (newSpan w₀ parent name).1.anonymous := by
  -- ids are counted from one, so none is the invalid zero, whatever the counters say
  have hmin : ∀ n : Nat, min (n + 1) 1 = 1 := by omega
  have hcontext : (newContext w parent).anonymous = (newContext w₀ parent).anonymous := by
    unfold newContext SpanContext.anonymous
    cases parent with
    | none =>
      dsimp only
      rw [hmin, hmin, hmin, hmin]
    | some p =>
      dsimp only
      rw [hmin, hmin]
  unfold newSpan
  rw [h]
  cases w₀.backend with
  | silent => rfl
  | recording =>
    have hsampled : (newContext w parent).isSampled = (newContext w₀ parent).isSampled :=
      (congrArg SpanContext.isSampled hcontext :)
    dsimp only
    unfold Span.anonymous
    dsimp only
    rw [hcontext, hsampled]

theorem start_agree (h : o.Alike w w₀) (headers : Headers) (name method path : String) :
    o.Agree (fun id id₀ => id = o.spans + id₀) ((start headers name method path).runIn w)
      ((start headers name method path).runIn w₀) := by
  unfold start
  refine Offset.Agree.bind (failIfTold_agree h .create) fun _ _ v v₀ _ h => ?_
  simp only [Act.runIn_bind, Act.runIn_get, Act.runIn_set, Act.runIn_modify, Act.runIn_pure]
  have hspan := newSpan_anonymous h.backend (SpanContext.ofHeaders? headers) name
  obtain ⟨_, _, hcounted⟩ := newSpan_snd v (SpanContext.ofHeaders? headers) name
  obtain ⟨_, _, hcounted₀⟩ := newSpan_snd v₀ (SpanContext.ofHeaders? headers) name
  rw [hcounted, hcounted₀]
  refine .ok h.length (Offset.Alike.call (Offset.Alike.log ?_ ..) ..)
  have htagged := (Span.tag_impersonal httpPath path).anonymous_eq
    ((Span.tag_impersonal httpMethod method).anonymous_eq hspan)
  exact { h.addSpan htagged with }

/-- A recording span refuses a cause that is no exception, and says what it is. -/
theorem finalize_notAnException {status : Int} {a : Attribute} {id : SpanId} {w : World}
    (hf : w.failures.of? .finalize = none) (hs : (w.span id).state ≠ .finalized)
    (hc : isRefused (w.span id) (some a) = true) :
    (finalize status (some a) id).runIn w = (.error (Fault.notAnException a.kindName), w) := by
  unfold finalize
  rcases a with v | j | e | t
  case fault => exact absurd hc Bool.false_ne_true
  all_goals
    have hr : (w.span id).recording = true := hc
    simp [failIfTold_of_none hf, hs, hr]

theorem isRefused_shift {s s₀ : Span} (h : s.anonymous = s₀.anonymous) (n : Nat)
    (cause : Option Attribute) : isRefused s (cause.map (·.shift n)) = isRefused s₀ cause := by
  unfold isRefused
  rw [Span.recording_eq h]
  rcases cause with _ | (_ | _ | _ | _) <;> rfl

theorem report_shift (s : Span) (status : Int) (n : Nat) (cause : Option Attribute) :
    s.report status (cause.map (·.shift n)) = s.report status cause := by
  rcases cause with _ | (_ | _ | _ | _) <;> rfl

theorem ended_alike (h : o.Alike w w₀) (id : SpanId) (status : Int) (cause : Option Attribute) :
    o.Alike (ended w (o.spans + id) status (cause.map (·.shift o.spans)))
      (ended w₀ id status cause) := by
  have hs := h.span id
  have hreported := (Span.report_impersonal status cause).anonymous_eq hs
  have hfinished := Span.finish_impersonal.anonymous_eq hreported
  have hended : o.Alike
      (w.modifySpan (o.spans + id) fun _ => ((w.span (o.spans + id)).report status cause).finish)
      (w₀.modifySpan id fun _ => ((w₀.span id).report status cause).finish) :=
    h.modifySpan id hfinished
  unfold ended
  dsimp only
  rw [report_shift, Span.recording_eq hs, h.exporting]
  split
  · exact hended.exported (Span.toExported_eq hreported)
  · exact hended

theorem finalize_agree (h : o.Alike w w₀) (status : Int) (cause : Option Attribute) (id : SpanId) :
    o.Agree Eq ((finalize status (cause.map (·.shift o.spans)) (o.spans + id)).runIn w)
      ((finalize status cause id).runIn w₀) := by
  have hs := h.span id
  have hstate := Span.state_eq hs
  cases hf₀ : w₀.failures.of? .finalize with
  | some e =>
    rw [finalize_failed hf₀, finalize_failed (by rw [h.failures]; exact hf₀)]
    exact .error e (h.call _ _)
  | none =>
    have hf : w.failures.of? .finalize = none := by
      rw [h.failures]
      exact hf₀
    by_cases hfinal : (w₀.span id).state = .finalized
    · rw [finalize_late hf₀ hfinal, finalize_late hf (hstate.trans hfinal)]
      exact .ok rfl ((h.log ..).call _ _)
    · have hopen : (w.span (o.spans + id)).state ≠ .finalized := by
        rw [hstate]
        exact hfinal
      have hrefused := isRefused_shift hs o.spans cause
      cases hc : isRefused (w₀.span id) cause with
      | false =>
        rw [finalize_effective hf₀ hfinal hc, finalize_effective hf hopen (hrefused.trans hc)]
        exact .ok rfl (((ended_alike h id status cause).log ..).call _ _)
      | true =>
        cases cause with
        | none => cases hc
        | some a =>
          have hraised : (finalize status (some (a.shift o.spans)) (o.spans + id)).runIn w =
              (.error (Fault.notAnException a.kindName), w) := by
            rw [finalize_notAnException hf hopen (hrefused.trans hc), a.shift_kindName]
          rw [finalize_notAnException hf₀ hfinal hc]
          show o.Agree Eq ((finalize status (some (a.shift o.spans)) _).runIn w) _
          rw [hraised]
          exact .error _ h

theorem abandon_agree (h : o.Alike w w₀) (id : SpanId) :
    o.Agree Eq ((abandon (o.spans + id)).runIn w) ((abandon id).runIn w₀) := by
  unfold abandon
  refine Offset.Agree.bind (failIfTold_agree h .abandon) fun _ _ v v₀ _ h => ?_
  have hs := h.span id
  simp only [Act.runIn_bind, Act.runIn_get, Span.state_eq hs]
  cases (v₀.span id).state with
  | opened =>
    simp only [if_true, Act.runIn_bind, Act.runIn_modify, Act.runIn_pure]
    exact .ok rfl (((h.modifyImpersonal id Span.abandon_impersonal).log ..).call _ _)
  | abandoned =>
    simp
    exact .ok rfl (h.call _ _)
  | finalized =>
    simp
    exact .ok rfl ((h.log ..).call _ _)

end Tracer

/-! ## The end of a pass -/

namespace Pass

variable {o : Offset} {w w₀ : World}

theorem hasErrorHandler_agree (h : o.Alike w w₀) (c : String) :
    o.Agree Eq ((hasErrorHandler c).runIn w) ((hasErrorHandler c).runIn w₀) := by
  obtain ⟨v, hrun, hc, hb⟩ := hasErrorHandler_answer c w
  obtain ⟨v₀, hrun₀, hc₀, hb₀⟩ := hasErrorHandler_answer c w₀
  have halike := (h.of_becomes hb hc).of_becomes₀ hb₀ hc₀
  rw [hrun, hrun₀, (h.answer_eq c).trans (h.answer_eq₀ c).symm]
  cases (w₀.coordinator c).answer with
  | error e => exact .error e halike
  | ok b => exact .ok rfl halike

theorem outcome_alike (h : o.Alike w w₀) (status : Int) (id : SpanId) (failure : Option Fault)
    (handler : Bool) :
    outcome w o.here status (o.spans + id) failure handler =
      outcome w₀ o.alone status id failure handler := by
  unfold outcome
  dsimp only [Attributes.isAlreadyFinalized, Attributes.isErrorHandled, Attributes.shouldClose,
    Attributes.isSpanWithoutParent]
  rw [h.flag, h.flag, h.flag, h.inState, h.isCurrent, Span.isRoot_eq (h.span id)]

theorem marked_alike (h : o.Alike w w₀) (d : Decision) (status : Int) (id : SpanId) :
    o.Alike (marked d o.here status (o.spans + id) w) (marked d o.alone status id w₀) := by
  have hs := h.span id
  have htagged := h.modifyImpersonal id (Span.tag_impersonal httpStatusCode (toString status))
  unfold marked
  dsimp only
  rw [Span.state_eq hs]
  have hmaybe := htagged.ite (b := d.tagStatus && (w₀.span id).state != .finalized) h
  exact .ite (hmaybe.modifyAttributes (Attributes.drop_shifts .activeSpan)) hmaybe

theorem carryOut_agree (h : o.Alike w w₀) (v : Verdict) (status : Int) (id : SpanId)
    (failure : Option Fault) :
    o.Agree (fun _ _ => True) ((carryOut v o.here status (o.spans + id) failure).runIn w)
      ((carryOut v o.alone status id failure).runIn w₀) := by
  cases v with
  | finalize =>
    have hfinalize := Tracer.finalize_agree h status (failure.map .fault) id
    rw [Attribute.map_fault_shift] at hfinalize
    unfold carryOut
    refine Offset.Agree.bind hfinalize fun b b₀ u u₀ hb hu => ?_
    subst hb
    cases b with
    | false => exact .ok trivial hu
    | true =>
      have hraised := hu.modifyAttributes (Attributes.raiseFlag_shifts .alreadyFinalized)
      simp only [if_true, Act.runIn_bind, Act.runIn_modify]
      cases failure with
      | some e => exact .ok trivial hraised
      | none =>
        exact .ok trivial (hraised.modifyAttributes (Attributes.drop_shifts .pendingException))
  | abandon =>
    have habandon := Tracer.abandon_agree h id
    unfold carryOut
    simp only [Act.runIn_discard]
    generalize (Tracer.abandon (o.spans + id)).runIn w = p at habandon
    generalize (Tracer.abandon id).runIn w₀ = q at habandon
    cases habandon with
    | ok _ hu => exact .ok trivial hu
    | error e hu => exact .error e hu
  | defer => exact .ok trivial h

theorem settle_agree (h : o.Alike w w₀) (c : String) (status : Int) (id : SpanId)
    (failure : Option Fault) :
    o.Agree (fun _ _ => True) ((settle c o.here status (o.spans + id) failure).runIn w)
      ((settle c o.alone status id failure).runIn w₀) := by
  unfold settle
  refine Offset.Agree.bind (hasErrorHandler_agree h c) fun b b₀ v v₀ hb hv => ?_
  subst hb
  simp only [Act.runIn_bind, Act.runIn_get, Act.runIn_modify, applyDecision_runIn,
    outcome_alike hv]
  exact carryOut_agree (marked_alike (hv.log ..) _ status id) _ status id failure

theorem conclude_agree (h : o.Alike w w₀) (c : String) (status : Int) (id : Option SpanId)
    (failure : Option Fault) :
    o.Agree (fun _ _ => True)
      ((conclude c o.here status (id.map (o.spans + ·)) failure).runIn w)
      ((conclude c o.alone status id failure).runIn w₀) := by
  unfold conclude
  simp only [Act.runIn_bind, Act.runIn_get]
  rw [show (w.attributes o.here).isAsyncStarted = (w₀.attributes o.alone).isAsyncStarted from
    h.flag .asyncStarted]
  split
  · exact .ok trivial (h.log ..)
  · cases id with
    | none => exact .ok trivial h
    | some id => exact settle_agree h c status id failure

theorem concludeError_agree (h : o.Alike w w₀) (status : Int) (id : SpanId) :
    o.Agree (fun _ _ => True) ((concludeError o.here status (o.spans + id)).runIn w)
      ((concludeError o.alone status id).runIn w₀) := by
  have hh := h.modifyAttributes Attributes.markErrorHandled_shifts
  unfold concludeError
  simp only [Act.runIn_bind, Act.runIn_modify, Act.runIn_get]
  generalize w.modifyAttributes o.here (·.markErrorHandled) = v at hh ⊢
  generalize w₀.modifyAttributes o.alone (·.markErrorHandled) = v₀ at hh ⊢
  have hasync : (v.attributes o.here).isAsyncStarted = (v₀.attributes o.alone).isAsyncStarted :=
    hh.flag .asyncStarted
  have hreported : (v.attributes o.here).isErrorSpanReported =
      (v₀.attributes o.alone).isErrorSpanReported := hh.flag .errorSpanReported
  have hfinal : (v.attributes o.here).isAlreadyFinalized =
      (v₀.attributes o.alone).isAlreadyFinalized := hh.flag .alreadyFinalized
  have hpending : Attribute.present? (v.attributes o.here).pendingException =
      (Attribute.present? (v₀.attributes o.alone).pendingException).map (·.shift o.spans) :=
    hh.present? .pendingException
  rw [hasync, hreported, hfinal, hpending]
  split
  · exact .ok trivial (hh.log ..)
  · split
    · have htaken := hh.modifyAttributes (Attributes.drop_shifts .pendingException)
      refine Offset.Agree.bind (.modify htaken) fun _ _ u u₀ _ hu => ?_
      refine Offset.Agree.bind (Tracer.finalize_agree hu status _ id) fun b b₀ u u₀ hb hu => ?_
      subst hb
      cases b with
      | false => exact .ok trivial hu
      | true =>
        exact .ok trivial (hu.modifyAttributes (Attributes.raiseFlag_shifts .alreadyFinalized))
    · exact .ok trivial hh

theorem noteFailure_alike (h : o.Alike w w₀) (x : Exchange) (raised : Option Fault) :
    o.Alike (noteFailure { x with request := o.here } raised w)
      (noteFailure { x with request := o.alone } raised w₀) := by
  unfold noteFailure
  cases raised with
  | none => exact h
  | some e =>
    refine .ite (Offset.Alike.modifyAttributes ?_ ?_) h
    · exact h.log ..
    · exact Attributes.put_shifts .pendingException fun _ => rfl

/-! ## The beginning of a pass -/

theorem startSpan_agree (h : o.Alike w w₀) (stem : String) (x : Exchange) :
    o.Agree (fun id id₀ => id = o.spans + id₀)
      ((startSpan stem { x with request := o.here }).runIn w)
      ((startSpan stem { x with request := o.alone }).runIn w₀) := by
  unfold startSpan
  refine Offset.Agree.bind (Tracer.start_agree h ..) fun id id₀ v v₀ hid hv => ?_
  subst hid
  have hactive := hv.setActiveSpan id₀
  refine Offset.Agree.bind (.modify hactive) fun _ _ u u₀ _ hu => ?_
  simp only [Act.runIn_bind, Act.runIn_get, Act.runIn_when, Act.runIn_pure]
  rw [Span.isRoot_eq (hu.span id₀)]
  exact .ok rfl (.ite (hu.modifyAttributes (Attributes.raiseFlag_shifts .spanWithoutParent)) hu)

theorem resumed_alike (h : o.Alike w w₀) (x : Exchange) (id : SpanId) :
    o.Alike (resumed { x with request := o.here } w (o.spans + id))
      (resumed { x with request := o.alone } w₀ id) := by
  have hrecalled : o.Alike (recalled { x with request := o.here } w (o.spans + id))
      (recalled { x with request := o.alone } w₀ id) :=
    (h.modifyAttributes Attributes.markSpanContinued_shifts).log ..
  have hactive := hrecalled.activate id
  unfold resumed
  exact .ite ((hactive.log ..).log ..) ((hactive.log ..).log ..)

/-! ## A pass -/

variable {ρ σ : Type} {Q : ρ → σ → Prop} {chain : Chain ρ} {chain₀ : Chain σ}

theorem finishWith_alike {last last₀ : Act Unit} (raised : Option Fault)
    (h : o.Agree (fun _ _ => True) (last.runIn w) (last₀.runIn w₀)) :
    (finishWith last raised w).1 = (finishWith last₀ raised w₀).1 ∧
      o.Alike (finishWith last raised w).2 (finishWith last₀ raised w₀).2 := by
  unfold finishWith
  generalize last.runIn w = p at h
  generalize last₀.runIn w₀ = q at h
  cases h with
  | ok _ h => exact ⟨rfl, h⟩
  | error e h => exact ⟨rfl, h⟩

/-- The scope of a pass, opened in both worlds. -/
theorem close_alike (h : o.Alike w w₀) {s s₀ : Scope} (hs : s.closed = s₀.closed)
    (hr : s.restores = s₀.restores.map (o.spans + ·)) : o.Alike (w.close s) (w₀.close s₀) := by
  unfold World.close
  rw [hs, hr]
  split
  · exact h
  · exact h.setCurrent _

theorem runNormal_alike (c : String) (x : Exchange) (id : SpanId)
    {s s₀ : Scope} (hs : s.closed = s₀.closed)
    (hr : s.restores = s₀.restores.map (o.spans + ·))
    (hchain : o.EndsAlike Q (chain w) (chain₀ w₀)) :
    o.EndsAlike (Option.Rel Q)
      (runNormal c { x with request := o.here } (o.spans + id) s chain w)
      (runNormal c { x with request := o.alone } id s₀ chain₀ w₀) := by
  have hnoted := noteFailure_alike hchain.world x (chain₀ w₀).raised
  have hlast := finishWith_alike (chain₀ w₀).raised
    (conclude_agree hnoted c (chain₀ w₀).status (some id) (failureOf (chain₀ w₀).raised))
  unfold runNormal
  dsimp only
  rw [hchain.raised, hchain.status]
  exact ⟨close_alike hlast.2 hs hr, rfl, .some hchain.reply, hlast.1⟩

theorem runError_alike (x : Exchange) (id : SpanId) {s s₀ : Scope} (hs : s.closed = s₀.closed)
    (hr : s.restores = s₀.restores.map (o.spans + ·))
    (hchain : o.EndsAlike Q (chain w) (chain₀ w₀)) :
    o.EndsAlike (Option.Rel Q)
      (runError { x with request := o.here } (o.spans + id) s chain w)
      (runError { x with request := o.alone } id s₀ chain₀ w₀) := by
  have hlast := finishWith_alike (chain₀ w₀).raised
    (concludeError_agree hchain.world (chain₀ w₀).status id)
  unfold runError
  dsimp only
  rw [hchain.raised, hchain.status]
  exact ⟨close_alike hlast.2 hs hr, rfl, .some hchain.reply, hlast.1⟩

theorem first_alike (h : o.Alike w w₀) (c : String) (x : Exchange)
    (hchain : ∀ v v₀, o.Alike v v₀ → o.EndsAlike Q (chain v) (chain₀ v₀)) :
    o.EndsAlike (Option.Rel Q) (first c { x with request := o.here } chain w)
      (first c { x with request := o.alone } chain₀ w₀) := by
  have harrived : o.Alike (noteArrival { x with request := o.here } w)
      (noteArrival { x with request := o.alone } w₀) := h.log ..
  have hstart := startSpan_agree harrived (w₀.coordinator c).stem x
  rw [← h.stem c] at hstart
  unfold first
  rw [← h.stem c]
  generalize (startSpan (w.coordinator c).stem { x with request := o.here }).runIn _ = p at hstart
  generalize (startSpan (w.coordinator c).stem { x with request := o.alone }).runIn _ = q at hstart
  cases hstart with
  | @ok _ id u u₀ hid hv =>
    subst hid
    have hactive := hv.activate id
    exact runNormal_alike c x id rfl hv.current (hchain _ _ hactive)
  | error e hv =>
    have hnoted := noteFailure_alike hv x (some e)
    have hlast := finishWith_alike (some e)
      (conclude_agree hnoted c x.status none (failureOf (some e)))
    exact ⟨hlast.2, rfl, .none, hlast.1⟩

theorem continued_alike (h : o.Alike w w₀) (c : String) (x : Exchange) (id : SpanId)
    (hchain : ∀ v v₀, o.Alike v v₀ → o.EndsAlike Q (chain v) (chain₀ v₀)) :
    o.EndsAlike (Option.Rel Q) (continued c { x with request := o.here } (o.spans + id) chain w)
      (continued c { x with request := o.alone } id chain₀ w₀) := by
  have hresumed := resumed_alike h x id
  have hrestores := h.current
  rw [← recalled_current { x with request := o.here } w (o.spans + id),
    ← recalled_current { x with request := o.alone } w₀ id] at hrestores
  rw [continued_eq, continued_eq]
  split
  · exact runNormal_alike c x id rfl hrestores (hchain _ _ hresumed)
  · exact runError_alike x id rfl hrestores (hchain _ _ hresumed)

end Pass

/-- A pass comes to the same in worlds that are alike, if its chain does. -/
theorem Exchange.handle_alike {o : Offset} {w w₀ : World} {ρ σ : Type} {Q : ρ → σ → Prop}
    {chain : Chain ρ} {chain₀ : Chain σ} (h : o.Alike w w₀) (c : String) (x : Exchange)
    (hchain : ∀ v v₀, o.Alike v v₀ → o.EndsAlike Q (chain v) (chain₀ v₀)) :
    o.EndsAlike (Option.Rel Q) ({ x with request := o.here : Exchange }.handle c chain w)
      ({ x with request := o.alone : Exchange }.handle c chain₀ w₀) := by
  have hopen := h.openRequest o.here o.alone
  unfold handle
  dsimp only
  generalize w.openRequest o.here = v at hopen ⊢
  generalize w₀.openRequest o.alone = v₀ at hopen ⊢
  have hactive := hopen.present? .activeSpan
  change Attribute.present? (v.attributes o.here).activeSpan =
    (Attribute.present? (v₀.attributes o.alone).activeSpan).map (·.shift o.spans) at hactive
  rw [hactive]
  have hcontinued := hopen.modifyAttributes Attributes.markSpanContinued_shifts
  -- a first pass, a further pass over the same span, or something stored that is no span
  rcases Attribute.present? (v₀.attributes o.alone).activeSpan with _ | (_ | id | _ | _)
  case none => exact Pass.first_alike hopen c x hchain
  case some.span => exact Pass.continued_alike hopen c x id hchain
  all_goals exact ⟨hcontinued, rfl, .none, rfl⟩

end SpanLifecycle
