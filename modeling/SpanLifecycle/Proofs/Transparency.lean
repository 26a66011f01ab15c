import SpanLifecycle.Proofs.Ending
import SpanLifecycle.Proofs.OneReport

/-!
# What a pass makes of its chain

A pass runs its chain once, between an opening that the chain has no part in and a last step that
only sees how it ended (`Exchange.lastStep`).  `handle_eq` is that equation: the pass ends as its
chain did, unless the last step raises something, which then takes the place of what the chain has
raised.  A last step that raises has settled nothing (`lastStep_error`), and it makes one call of the
tracer at most (`lastStep_calls`).  Where no span can be started the chain does not run at all
(`handle_unstarted`).

The main statement is `handle_transparent`.
-/

namespace SpanLifecycle

/-! ## Calls of the tracer -/

/-- There is nothing to change about a span that was never started. -/
theorem World.modifySpan_of_le {w : World} {id : SpanId} (f : Span → Span)
    (h : w.spans.length ≤ id) : w.modifySpan id f = w := by
  unfold modifySpan
  rw [List.modify_eq_self h]

/-- Closing a scope changes what is current at most. -/
theorem World.close_eq (w : World) (s : Scope) :
    w.close s = { w with current := (w.close s).current } := by
  unfold close
  split <;> rfl

/-- From one world to another at most one call was made, and that is on a span that was started
before. -/
def CallsOnce (id : SpanId) (w w' : World) : Prop :=
  ∃ calls, w'.calls = w.calls ++ calls ∧ calls.length ≤ 1 ∧ ∀ call ∈ calls, call.IsOn id

namespace CallsOnce

variable {id : SpanId} {w w' w'' : World}

theorem of_eq (h : w'.calls = w.calls) : CallsOnce id w w' :=
  ⟨[], by rw [h, List.append_nil], Nat.zero_le 1, nofun⟩

theorem single {call : TracerCall} (h : w'.calls = w.calls ++ [call]) (hc : call.IsOn id) :
    CallsOnce id w w' := by
  refine ⟨[call], h, Nat.le_refl 1, fun c hmem => ?_⟩
  rwa [List.mem_singleton.mp hmem]

/-- What makes no call may come before. -/
theorem eq_trans (hc : w'.calls = w.calls) (h : CallsOnce id w' w'') : CallsOnce id w w'' := by
  obtain ⟨calls, hcalls, hspec⟩ := h
  exact ⟨calls, by rw [hcalls, hc], hspec⟩

end CallsOnce

theorem World.log_calls (w : World) (logger : String) (e : LogEvent) :
    (w.log logger e).calls = w.calls :=
  (Becomes.log outerRequest 0 w logger e).calls.trans (List.append_nil _)

namespace Tracer

variable {status : Int} {cause : Option Attribute} {id : SpanId} {w w' : World} {e : Fault}

/-- A finalization that raises was told to, or the span cannot record its cause. -/
theorem finalize_error (h : (finalize status cause id).runIn w = (.error e, w')) :
    Keeps w w' ∧ (w.failures.of? .finalize = some e ∨ isRefused (w.span id) cause = true) := by
  cases hf : w.failures.of? .finalize with
  | some e' =>
    rw [finalize_failed hf] at h
    cases h
    exact ⟨.failed w _, .inl rfl⟩
  | none =>
    by_cases hs : (w.span id).state = .finalized
    · unfold finalize at h
      simp only [Act.runIn_bind, failIfTold_of_none hf, Act.runIn_get, hs, if_true,
        Act.runIn_modify, Act.runIn_pure] at h
      cases h
    · cases hc : isRefused (w.span id) cause with
      | true =>
        obtain ⟨e', h'⟩ := finalize_refused status hf hs hc
        rw [h'] at h
        cases h
        exact ⟨.refl w, .inr rfl⟩
      | false =>
        rw [finalize_effective hf hs hc] at h
        cases h

theorem finalize_calls (status : Int) (cause : Option Attribute) (id : SpanId) (w : World) :
    CallsOnce id w ((finalize status cause id).runIn w).2 := by
  cases hf : w.failures.of? .finalize with
  | some e =>
    rw [finalize_failed hf]
    exact .single (w.calls_enter _) nofun
  | none =>
    by_cases hs : (w.span id).state = .finalized
    · unfold finalize
      simp only [Act.runIn_bind, failIfTold_of_none hf, Act.runIn_get, hs, if_true,
        Act.runIn_modify, Act.runIn_pure]
      exact .eq_trans (w.log_calls logger _) (.single (World.calls_enter _ _) rfl)
    · cases hc : isRefused (w.span id) cause with
      | true =>
        obtain ⟨e, h⟩ := finalize_refused status hf hs hc
        rw [h]
        exact .of_eq rfl
      | false =>
        rw [finalize_effective hf hs hc]
        have hended : (ended w id status cause).calls = w.calls := by
          unfold ended
          dsimp only
          split
          · exact (World.calls_enter _ _).trans (List.append_nil _)
          · rfl
        have hlog := (World.log_calls (ended w id status cause) logger
          (finalizedEvent (w.span id) status cause)).trans hended
        exact .eq_trans hlog (.single (World.calls_enter _ _) rfl)

theorem abandon_error (h : (abandon id).runIn w = (.error e, w')) :
    Keeps w w' ∧ w.failures.of? .abandon = some e := by
  unfold abandon at h
  rw [Act.runIn_bind] at h
  cases hf : w.failures.of? .abandon with
  | some e' =>
    rw [failIfTold_of_some hf] at h
    cases h
    exact ⟨.failed w _, rfl⟩
  | none =>
    rw [failIfTold_of_none hf] at h
    cases hs : (w.span id).state <;> simp [hs] at h

theorem abandon_calls (id : SpanId) (w : World) :
    CallsOnce id w ((abandon id).runIn w).2 := by
  unfold abandon
  rw [Act.runIn_bind]
  cases hf : w.failures.of? .abandon with
  | some e =>
    rw [failIfTold_of_some hf]
    exact .single (w.calls_enter _) nofun
  | none =>
    rw [failIfTold_of_none hf]
    cases hs : (w.span id).state with
    | opened =>
      simp only [Act.runIn_bind, Act.runIn_get, hs, if_true, Act.runIn_modify, Act.runIn_pure]
      have hlog := World.log_calls (w.modifySpan id fun s => { s with state := .abandoned }) logger
        { severity := .debug, event := "span_abandoned", fields := idFields (w.span id) }
      exact .eq_trans hlog (.single (World.calls_enter _ _) rfl)
    | abandoned =>
      simp [hs]
      exact .single (w.calls_enter _) rfl
    | finalized =>
      simp [hs]
      exact .eq_trans (w.log_calls logger _) (.single (World.calls_enter _ _) rfl)

end Tracer

/-! ## The last step of a pass -/

namespace Pass

variable {c : String} {r : RequestName} {status : Int} {id : SpanId} {w w' : World} {e : Fault}

theorem marked_calls (d : Decision) (r : RequestName) (status : Int) (id : SpanId) (w : World) :
    (marked d r status id w).calls = w.calls := by
  unfold marked
  dsimp only
  split <;> split <;> rfl

/-- A mark keeps the states of all spans, also where its span was never started. -/
theorem marked_keeps_any (d : Decision) (r : RequestName) (status : Int) (id : SpanId)
    (w : World) : Keeps w (marked d r status id w) := by
  rcases Nat.lt_or_ge id w.spans.length with hid | hid
  · exact marked_keeps d r status hid
  · unfold marked
    rw [World.modifySpan_of_le _ hid, ite_self]
    refine .ite fun _ => .modifyAttributes w r _ ⟨.inr (by simp), fun hasync => ?_, by simp⟩
    simpa using hasync

theorem carryOut_error {v : Verdict} {failure : Option Fault}
    (h : (carryOut v r status id failure).runIn w = (.error e, w')) :
    Keeps w w' ∧ ∃ verb, verb ≠ .create ∧ w.failures.of? verb = some e := by
  unfold carryOut at h
  cases v with
  | defer => cases h
  | abandon =>
    rw [Act.runIn_discard] at h
    cases hrun : (Tracer.abandon id).runIn w with
    | mk out v =>
      rw [hrun] at h
      cases out with
      | ok b => cases h
      | error e' =>
        cases h
        obtain ⟨hkeeps, hf⟩ := Tracer.abandon_error hrun
        exact ⟨hkeeps, .abandon, nofun, hf⟩
  | finalize =>
    rw [Act.runIn_bind] at h
    cases hrun : (Tracer.finalize status (failure.map .fault) id).runIn w with
    | mk out v =>
      rw [hrun] at h
      cases out with
      | ok b => cases b <;> cases failure <;> simp at h
      | error e' =>
        cases h
        obtain ⟨hkeeps, hf⟩ := Tracer.finalize_error hrun
        refine ⟨hkeeps, .finalize, nofun, hf.resolve_right fun hc => ?_⟩
        -- what a chain has raised can be recorded
        cases failure <;> cases hc

theorem carryOut_calls (v : Verdict) (r : RequestName) (status : Int) (id : SpanId)
    (failure : Option Fault) (w : World) :
    CallsOnce id w ((carryOut v r status id failure).runIn w).2 := by
  unfold carryOut
  cases v with
  | defer => exact .of_eq rfl
  | abandon =>
    have h := Tracer.abandon_calls id w
    rw [Act.runIn_discard]
    revert h
    rcases (Tracer.abandon id).runIn w with ⟨e | b, v⟩ <;> exact fun h => h
  | finalize =>
    have h := Tracer.finalize_calls status (failure.map .fault) id w
    rw [Act.runIn_bind]
    revert h
    rcases (Tracer.finalize status (failure.map .fault) id).runIn w with ⟨e | b, v⟩
    · exact fun h => h
    · intro h
      cases b <;> cases failure <;> exact h

theorem conclude_error {failure : Option Fault}
    (h : (conclude c r status (some id) failure).runIn w = (.error e, w')) :
    Keeps w w' ∧ ((w.coordinator c).answer = .error e ∨
      ∃ verb, verb ≠ .create ∧ w.failures.of? verb = some e) := by
  cases hasync : (w.attributes r).isAsyncStarted with
  | true =>
    obtain ⟨u, hu, -⟩ := conclude_async (c := c) r status failure (some id) hasync
    rw [hu] at h
    cases h
  | false =>
    cases ha : (w.coordinator c).answer with
    | error e' =>
      obtain ⟨u, hu, hb⟩ := conclude_raises r status failure id ha hasync
      rw [hu] at h
      cases h
      exact ⟨.of_becomes (hb id) rfl (.refl _), .inl rfl⟩
    | ok b =>
      obtain ⟨u, hb, hu⟩ := conclude_carriesOut r status id failure ha hasync
      rw [hu] at h
      have hmark := marked_keeps_any (outcome w r status id failure b).decide r status id u
      obtain ⟨hkeeps, verb, hverb, hf⟩ := carryOut_error h
      rw [(marked_retains _ r status id u).failures, hb.failures] at hf
      exact ⟨(Keeps.of_becomes hb rfl (.refl _)).trans (hmark.trans hkeeps),
        .inr ⟨verb, hverb, hf⟩⟩

theorem conclude_calls (c : String) (r : RequestName) (status : Int) (id : SpanId)
    (failure : Option Fault) (w : World) :
    CallsOnce id w ((conclude c r status (some id) failure).runIn w).2 := by
  cases hasync : (w.attributes r).isAsyncStarted with
  | true =>
    obtain ⟨u, hu, hb⟩ := conclude_async (c := c) r status failure (some id) hasync
    rw [hu]
    exact .of_eq ((hb id).calls.trans (List.append_nil _))
  | false =>
    cases ha : (w.coordinator c).answer with
    | error e =>
      obtain ⟨u, hu, hb⟩ := conclude_raises r status failure id ha hasync
      rw [hu]
      exact .of_eq ((hb id).calls.trans (List.append_nil _))
    | ok b =>
      obtain ⟨u, hb, hu⟩ := conclude_carriesOut r status id failure ha hasync
      rw [hu]
      have hmark := marked_calls (outcome w r status id failure b).decide r status id u
      exact .eq_trans (hmark.trans (hb.calls.trans (List.append_nil _)))
        (carryOut_calls _ r status id failure _)

/-- Why the last step of a pass fails: the lookup for an error handler fails, the tracer is told to
fail, or what is pending is no exception, so that an error pass cannot record it. -/
inductive IsReason (c : String) (r : RequestName) (id : SpanId) (w : World) (e : Fault) : Prop where
  | lookup (h : (w.coordinator c).answer = .error e)
  | tracer (verb : Verb) (hv : verb ≠ .create) (h : w.failures.of? verb = some e)
  | pending (h : Tracer.isRefused (w.span id)
      (Attribute.present? (w.attributes r).pendingException) = true)

theorem concludeError_error (h : (concludeError r status id).runIn w = (.error e, w')) :
    Keeps w w' ∧ IsReason c r id w e := by
  by_cases hidle : (w.attributes r).isAsyncStarted = true ∨
      (w.attributes r).isErrorSpanReported = true ∨ (w.attributes r).isAlreadyFinalized = true
  · obtain ⟨u, hu, -⟩ := concludeError_idle r status id w hidle
    rw [hu] at h
    cases h
  · simp only [not_or, Bool.not_eq_true] at hidle
    rw [concludeError_runIn r status id w hidle.1 hidle.2.1 hidle.2.2] at h
    cases hrun : (Tracer.finalize status (Attribute.present? (w.attributes r).pendingException)
        id).runIn (handled r w) with
    | mk out v =>
      rw [hrun] at h
      cases out with
      | ok b => cases b <;> cases h
      | error e' =>
        cases h
        obtain ⟨hkeeps, hf⟩ := Tracer.finalize_error hrun
        exact ⟨(handled_keeps r w).trans hkeeps,
          hf.elim (fun hf => .tracer .finalize nofun hf) .pending⟩

theorem concludeError_calls (r : RequestName) (status : Int) (id : SpanId) (w : World) :
    CallsOnce id w ((concludeError r status id).runIn w).2 := by
  by_cases hidle : (w.attributes r).isAsyncStarted = true ∨
      (w.attributes r).isErrorSpanReported = true ∨ (w.attributes r).isAlreadyFinalized = true
  · obtain ⟨u, hu, hb⟩ := concludeError_idle r status id w hidle
    rw [hu]
    exact .of_eq ((hb id).calls.trans (List.append_nil _))
  · simp only [not_or, Bool.not_eq_true] at hidle
    rw [concludeError_runIn r status id w hidle.1 hidle.2.1 hidle.2.2]
    have hhandled : (handled r w).calls = w.calls := rfl
    have h := CallsOnce.eq_trans hhandled (Tracer.finalize_calls status
      (Attribute.present? (w.attributes r).pendingException) id (handled r w))
    revert h
    rcases (Tracer.finalize status _ id).runIn (handled r w) with ⟨e | b, v⟩
    · exact fun h => h
    · intro h
      cases b <;> exact h

end Pass

/-! ## A pass as a function of how its chain ended -/

namespace Exchange

open Pass

variable {ρ : Type} {x : Exchange} {c : String} {w v : World} {e : Fault}

/-- What remains of a pass when its chain has ended. -/
def lastStep (x : Exchange) (c : String) (w : World) (done : ChainEnd ρ) : Act Unit :=
  if x.isErrorPass w then concludeError x.request done.status (x.spanIn w)
  else do
    modify (noteFailure x done.raised)
    conclude c x.request done.status (some (x.spanIn w)) (failureOf done.raised)

theorem lastStep_error {done : ChainEnd ρ} {u : World}
    (h : (x.lastStep c w done).runIn done.world = (.error e, u)) :
    Keeps done.world u ∧ IsReason c x.request (x.spanIn w) done.world e := by
  unfold lastStep at h
  split at h
  · exact concludeError_error h
  · rw [Act.runIn_bind, Act.runIn_modify] at h
    obtain ⟨hkeeps, hreason⟩ := conclude_error h
    have hnote := noteFailure_becomes x done.raised (x.spanIn w) done.world
    refine ⟨(Keeps.of_becomes hnote rfl (.noted _ _)).trans hkeeps, ?_⟩
    rcases hreason with ha | ⟨verb, hverb, hf⟩
    · exact .lookup ((hnote.answer c).symm.trans ha)
    · exact .tracer verb hverb (hnote.failures ▸ hf)

theorem lastStep_calls (x : Exchange) (c : String) (w : World) (done : ChainEnd ρ) :
    CallsOnce (x.spanIn w) done.world ((x.lastStep c w done).runIn done.world).2 := by
  unfold lastStep
  split
  · exact concludeError_calls _ _ _ _
  · rw [Act.runIn_bind, Act.runIn_modify]
    have hnote := noteFailure_becomes x done.raised (x.spanIn w) done.world
    exact .eq_trans (hnote.calls.trans (List.append_nil _)) (conclude_calls _ _ _ _ _ _)

/-- A pass whose chain starts is the opening, the chain, the last step, and the closing of its scope. -/
theorem handle_ends (h : x.chainStart? c w = some v) (chain : Chain ρ) :
    ∃ scope, x.handle c chain w =
      let done := chain v
      let (raised, u) := finishWith (x.lastStep c w done) done.raised done.world
      { world := u.close scope, status := done.status, reply := some done.reply, raised } := by
  obtain ⟨scope, hrun⟩ := handle_started h chain
  refine ⟨scope, ?_⟩
  rw [hrun]
  unfold lastStep
  split
  · rfl
  · unfold runNormal finishWith
    dsimp only
    rw [Act.runIn_bind, Act.runIn_modify]

/-- A pass whose chain starts runs it once, and all else that it does comes before or after: the
opening does not depend on the chain, and the last step only on how it ended. -/
theorem handle_eq (h : x.chainStart? c w = some v) (chain : Chain ρ) :
    let done := chain v
    let last := (x.lastStep c w done).runIn done.world
    x.handle c chain w =
      { world := { last.2 with current := w.current }
        status := done.status
        reply := some done.reply
        raised := match last.1 with
          | .ok _ => done.raised
          | .error e => some e } := by
  intro done last
  have hcurrent := x.handle_current c chain w
  obtain ⟨scope, hrun⟩ := handle_ends h chain
  dsimp only at hrun
  have hfinish : finishWith (x.lastStep c w done) done.raised done.world =
      (match last.1 with | .ok _ => done.raised | .error e => some e, last.2) := by
    unfold finishWith
    rcases hlast : (x.lastStep c w done).runIn done.world with ⟨e | a, u⟩ <;>
      simp only [last, hlast]
  rw [hfinish] at hrun
  rw [hrun] at hcurrent ⊢
  rw [World.close_eq]
  dsimp only at hcurrent ⊢
  rw [hcurrent]

end Exchange

/-! ## Main statement -/

/-- A request goes by a span or by nothing.

If it needs a span and none can be started, the pass raises what the start has raised: the chain does
not run, no other call is made and no lookup asked, and all that comes of the request is that an
ordinary exception is kept as its pending one.

Otherwise the pass runs its chain once, from a world that does not depend on it, and gives on the
status and what the chain has answered.  Before the chain it starts a span if the request needs one;
after it, it takes its last step.  If that raises nothing, the pass returns or raises as the chain
did.  If it raises, because the lookup fails or the tracer does, then the pass raises just that, all
spans are in the states in which the chain has left them, and no request is newly marked as
finalized.  In either case the last step calls the tracer once at most, and starts no span. -/
theorem handle_transparent {x : Exchange} {c : String} {w : World}
    (hm : ∀ a, Attribute.present? (w.attributes x.request).activeSpan = some a →
      ∃ id, a = .span id) :
    let needed := Attribute.present? (w.attributes x.request).activeSpan = none
    (∀ e, needed → w.failures.of? .create = some e → ∀ {ρ : Type} (chain : Chain ρ),
      let done := x.handle c chain w
      done.raised = some e ∧ done.reply = none ∧ done.status = x.status ∧
      done.world.calls = w.calls ++ [.failed .create] ∧
      done.world.coordinators = w.coordinators ∧
      (∀ id, done.world.span id = w.span id) ∧
      ∀ r, done.world.attributes r =
        if r = x.request ∧ e.isOrdinary then (w.attributes r).setPendingException (.fault e)
        else w.attributes r) ∧
    ((needed → w.failures.of? .create = none) → ∃ v,
      (needed → ∃ name, v.calls = w.calls ++ [.created w.spans.length name]) ∧
      (¬ needed → v.calls = w.calls) ∧
      ∀ {ρ : Type} (chain : Chain ρ),
        let done := chain v
        let last := (x.lastStep c w done).runIn done.world
        x.handle c chain w =
          { world := { last.2 with current := w.current }
            status := done.status
            reply := some done.reply
            raised := match last.1 with
              | .ok _ => done.raised
              | .error y => some y } ∧
        (∀ y, last.1 = .error y → Pass.IsReason c x.request (x.spanIn w) done.world y ∧
          (∀ id, (last.2.span id).state = (done.world.span id).state) ∧
          ∀ r, (last.2.attributes r).isAlreadyFinalized =
            (done.world.attributes r).isAlreadyFinalized) ∧
        CallsOnce (x.spanIn w) done.world last.2) := by
  intro needed
  refine ⟨fun e hneeded hf ρ chain => ?_, fun hworks => ?_⟩
  · obtain ⟨hraised, hreply, hstatus, hcoordinators, hb⟩ :=
      x.handle_unstarted (c := c) hneeded hf chain
    refine ⟨hraised, hreply, hstatus, (hb 0).calls, hcoordinators, fun id => (hb id).itsSpan,
      fun r => ?_⟩
    by_cases hr : r = x.request
    · subst hr
      rw [(hb 0).itsAttributes]
      unfold Pass.notedAttributes Pass.failureOf
      cases he : e.isOrdinary <;> simp [he, Option.filter]
    · rw [(hb 0).attributes r hr, if_neg fun h => hr h.1]
  · have hstart : ∃ v, x.chainStart? c w = some v ∧
        (needed → ∃ name, v.calls = w.calls ++ [.created w.spans.length name]) ∧
        (¬ needed → v.calls = w.calls) := by
      cases ha : Attribute.present? (w.attributes x.request).activeSpan with
      | none =>
        obtain ⟨v, -, hv, hb, -⟩ := Exchange.handle_begins (c := c) (hworks ha) ha
        exact ⟨v, hv, fun _ => ⟨_, hb.calls⟩, fun hn => absurd ha hn⟩
      | some a =>
        obtain ⟨id, rfl⟩ := hm a ha
        obtain ⟨v, -, hv, -, hb, -⟩ :=
          Exchange.handle_resumes (x := x) (c := c) (Attribute.of_present? ha)
        refine ⟨v, hv, fun hn => ?_, fun _ => (hb 0).calls.trans (List.append_nil _)⟩
        rw [show Attribute.present? _ = none from hn] at ha
        cases ha
    obtain ⟨v, hv, hcalls, hsame⟩ := hstart
    refine ⟨v, hcalls, hsame, fun chain => ⟨Exchange.handle_eq hv chain, fun y hy => ?_,
      Exchange.lastStep_calls x c w (chain v)⟩⟩
    obtain ⟨hkeeps, hreason⟩ := Exchange.lastStep_error (u := _) (Prod.ext hy rfl)
    exact ⟨hreason, hkeeps.state, fun r => (hkeeps.attributes r).final⟩

/-- A success that the tracer fails to report: the pass raises that failure in place of returning, and
the span stays as the chain has left it. -/
theorem unreported_raises :
    let w : World := { failures := { finalize := some { kind := .runtimeError } } }
    let chain : Chain Unit := fun v => { world := v, status := 200, reply := () }
    let done := (visit 0).handle "c" chain w
    ∃ v, (∃ name, v.calls = [.created 0 name]) ∧ done.reply = some () ∧
      done.raised = some { kind := .runtimeError } ∧
      (done.world.span 0).state = (v.span 0).state ∧
      CallsOnce 0 v done.world := by
  intro w chain done
  have hraised : done.raised = some { kind := .runtimeError } := by decide +kernel
  obtain ⟨v, hcalls, -, hrun⟩ := (handle_transparent (x := visit 0) (c := "c") (w := w)
    fun a ha => by cases ha).2 fun _ => rfl
  obtain ⟨heq, herror, honce⟩ := hrun chain
  change done = _ at heq
  refine ⟨v, hcalls rfl, by rw [heq], hraised, ?_, by rw [heq]; exact honce⟩
  rw [heq] at hraised ⊢
  cases hlast : ((Exchange.lastStep (visit 0) "c" w (chain v)).runIn (chain v).world).1 with
  | ok _ =>
    rw [hlast] at hraised
    cases hraised
  | error y => exact (herror y hlast).2.1 0

end SpanLifecycle
