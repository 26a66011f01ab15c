import SpanLifecycle.Proofs.Passes
import SpanLifecycle.Program

/-!
# One report for one request

Whatever the chains of a request do beside it, its first pass creates one span, and that span is
finalized exactly once: by the first pass, or by the error pass that follows a failure under an
error handler.  The main statement is `one_report_per_request`.
-/

namespace SpanLifecycle

/-- A request with no attributes of its own yet is given one span by its first pass, and `calls` and
`exports` are what the passes add after their chains.  If the chain returned, or raised what is no
ordinary exception, or there is no error handler, the first pass reports the span.  Otherwise any
error pass over the request finds the span again, creates none, and after it the span was reported
by one of the two, with the exception that the first chain raised. -/
theorem one_report_per_request {ρ : Type} {w : World} {x : Exchange} {c : String} {b : Bool}
    {chain : Chain ρ} (hw : w.IsWorking) (ha : (w.coordinator c).answer = .ok b)
    (hm : (w.attributes x.request).IsUntraced)
    (hchain : ∀ v, x.chainStart? c w = some v →
      Apart x.request w.spans.length v (chain v).world) :
    ∃ v, x.chainStart? c w = some v ∧ x.Begins c w v ∧
      let id := w.spans.length
      let done := (chain v).world
      let failure := Pass.failureOf (chain v).raised
      let first := (x.handle c chain w).world
      let exported := x.isSampled w && w.exporting
      ((failure.isSome && b) = false → ∃ calls exports, Adds done first calls exports ∧
        ReportedOnce id (failure.map .fault) exported (first.span id) calls exports) ∧
      ((failure.isSome && b) = true →
        ∀ {ρ' : Type} (x' : Exchange) (c' : String) (chain' : Chain ρ'),
          x'.request = x.request → isSuccessfulStatus x'.status = false →
          (∀ v', x'.chainStart? c' first = some v' → Apart x.request id v' (chain' v').world) →
          ∃ v', x'.chainStart? c' first = some v' ∧ Adds first v' [] [] ∧
            let done' := (chain' v').world
            let last := (x'.handle c' chain' first).world
            ∃ calls exports calls' exports', Adds done first calls exports ∧
              Adds done' last calls' exports' ∧
              ReportedOnce id (failure.map .fault) exported (last.span id) (calls ++ calls')
                (exports ++ exports')) := by
  obtain ⟨v, scope, hv, hb, hrun⟩ := Exchange.handle_begins (x := x) (c := c) (hw .create)
    (by rw [show (w.attributes x.request).activeSpan = none from hm .activeSpan]; rfl)
  have hc := hchain v hv
  refine ⟨v, hv, hb, ?_, ?_⟩
  · intro hx
    rw [hrun chain]
    exact (first_reports hb hw ha hm hc scope hx).2
  · intro hx ρ' x' c' chain' hrequest hstatus hchain'
    obtain ⟨hfailure, rfl⟩ := Bool.and_eq_true_iff.mp hx
    obtain ⟨e, he⟩ := Option.isSome_iff_exists.mp hfailure
    obtain ⟨hwithin, final, calls, exports, hadds, hawaits, hreported, hunreported⟩ :=
      first_hands hb hw ha hm hc scope he
    rw [← hrun chain] at hwithin hadds hawaits hreported hunreported
    generalize (x.handle c chain w).world = first at *
    obtain ⟨v', scope', hv', -, hb', hrun'⟩ := Exchange.handle_resumes (x := x') (c := c')
      (by rw [hrequest]; exact hawaits.active)
    have hb' := hb' w.spans.length
    have hc' := hchain' v' hv'
    have hawaits' : AwaitsError w.spans.length (some e) final (v'.attributes x'.request) := by
      rw [hb'.itsAttributes, hrequest]
      exact hawaits.markSpanContinued
    have hfailures : v'.failures = w.failures :=
      hb'.failures.trans (hwithin.failures.trans (hc.failures.trans hb.failures))
    have hexporting : v'.exporting = w.exporting :=
      hb'.exporting.trans (hwithin.exporting.trans (hc.exporting.trans hb.exporting))
    have hlength : w.spans.length < v'.spans.length := by
      have hgrown := hc.length
      rw [hb.length] at hgrown
      rw [hb'.length, hwithin.length]
      omega
    obtain ⟨-, -, calls', exports', hadds', hdone, hlate⟩ := error_reports scope' chain'
      (fun verb => by rw [hfailures]; exact hw verb) hlength hawaits'
      (fun hf => by rw [hb'.itsSpan]; exact (hunreported hf).1.state) (by rw [hrequest]; exact hc')
    rw [← hrun' hstatus chain'] at hadds' hdone hlate
    refine ⟨v', hv', ⟨hb'.calls, hb'.exports⟩, calls, exports, calls', exports', hadds, hadds', ?_⟩
    rw [he]
    cases final with
    | true =>
      obtain ⟨rfl, rfl, hspan⟩ := hdone rfl
      rw [List.append_nil, List.append_nil, hspan, hb'.itsSpan]
      exact hreported rfl
    | false =>
      obtain ⟨hun, hrecording⟩ := hunreported rfl
      have hlate := hlate rfl
      rw [hb'.itsSpan, hrecording, hexporting] at hlate
      exact hlate.after hun

/-- A world with one coordinator, whose application has an error handler. -/
def handlingWorld : World := { coordinators := [("c", { lookup := .ok true })] }

/-- A request, and the error pass over it. -/
def visit (status : Int) : Exchange :=
  { method := "GET", path := "/a", headers := [], request := outerRequest, status }

/-- A chain that makes a span of its own current, and fails. -/
def straying : Chain (List Answer) :=
  runActions outerRequest 0
    [.start [] "inner" "GET" "/b", .attach 1, .raise { kind := .valueError }]

/-- A chain that answers. -/
def answering : Chain Unit := fun w => { world := w, status := 500, reply := () }

theorem straying_reported_once :
    let first := ((visit 0).handle "c" straying handlingWorld).world
    let last := ((visit 500).handle "c" answering first).world
    ∃ calls exports, ReportedOnce 0 (some (.fault { kind := .valueError })) true (last.span 0)
      calls exports := by
  have hw : handlingWorld.IsWorking := by
    intro verb
    cases verb <;> rfl
  have hchain : ∀ v, (visit 0).chainStart? "c" handlingWorld = some v →
      Apart outerRequest 0 v (straying v).world := by
    intro v hv
    cases hv
    exact ⟨rfl, rfl, by decide, rfl, rfl, fun _ => rfl⟩
  have ha : (handlingWorld.coordinator "c").answer = .ok true := rfl
  obtain ⟨v, hv, -, -, h⟩ := one_report_per_request hw ha (fun _ => rfl) hchain
  cases hv
  obtain ⟨v', -, -, calls, exports, calls', exports', -, -, h⟩ := h rfl (visit 500) "c" answering
    rfl rfl (fun v hv => ⟨rfl, rfl, Nat.le_refl _, rfl, rfl, fun _ => rfl⟩)
  exact ⟨_, _, h⟩

end SpanLifecycle
