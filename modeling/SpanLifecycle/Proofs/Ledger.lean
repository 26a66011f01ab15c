import SpanLifecycle.Proofs.Run

/-!
# The ledger of spans

The journal of a run and the spans it leaves say the same: a span is finalized if some call has
finalized it, only once, and never abandoned after that; and what was exported are the finalized
spans that record, in the order of the calls, each as its one finalization has reported it.

`Ledger` is the invariant, kept by every step and so by every run.  The main statement,
`program_accounts_for_spans`, is about programs, split anywhere in two.
-/

namespace SpanLifecycle

/-! ## Definitions -/

/-- The moves that a span's state can make. -/
inductive SpanState.Moves : SpanState → SpanState → Prop where
  | abandon : Moves .opened .abandoned
  | finalize : Moves .opened .finalized
  | takeOver : Moves .abandoned .finalized

/-- The status that a finalization reports. -/
def reportedStatus (status : Int) (cause : Option Attribute) : SpanStatus :=
  match cause with
  | some (.fault e) => .error (some e.kind.name)
  | some _ => .unset
  | none => if 500 ≤ status then .error none else .unset

/-- The exceptions that a finalization reports. -/
def reportedEvents (cause : Option Attribute) : List Fault :=
  match cause with
  | some (.fault e) => [e]
  | _ => []

/-- An exported span tells of its finalization: the exception it was finalized with and no other,
the status that follows, and the status of an unsuccessful response as its newest attribute. -/
structure ExportedSpan.TellsOf (code : Int) (cause : Option Attribute) (s : ExportedSpan) :
    Prop where
  events : s.events = reportedEvents cause
  status : s.status = reportedStatus code cause
  newest : code ≠ 0 → isSuccessfulStatus code = false →
    s.attributes.getLast? = some (httpStatusCode, toString code)

namespace World

variable (w : World)

/-- The spans that calls have finalized, in the order of the calls. -/
def finalizedIds : List SpanId := w.calls.filterMap (·.finalizes?)

/-- The spans that calls have abandoned, in the order of the calls. -/
def abandonedIds : List SpanId := w.calls.filterMap (·.abandons?)

/-- Whether a span is sampled, on a backend that records. -/
def samples (id : SpanId) : Bool :=
  decide (w.backend = .recording) && (w.span id).context.isSampled

/-- The finalized spans that are sampled. -/
def reportedIds : List SpanId := w.finalizedIds.filter w.samples

/-- A span as it is exported. -/
def record (id : SpanId) : ExportedSpan := (w.span id).toExported

/-- The journal accounts for all spans and all exports. -/
structure IsAccounted : Prop where
  finalizedOnce : w.finalizedIds.Nodup
  abandonedOnce : w.abandonedIds.Nodup
  notAbandonedAfter : w.calls.Pairwise fun c d =>
    ∀ id, c.finalizes? = some id → d.abandons? ≠ some id
  finalized : ∀ id, (w.span id).state = .finalized ↔ id ∈ w.finalizedIds
  abandoned : ∀ id, (w.span id).state = .abandoned ↔
    id ∈ w.abandonedIds ∧ id ∉ w.finalizedIds
  exports : w.exporting = true → w.exports = w.reportedIds.map w.record
  contents : ∀ id status cause, .finalized id status cause true ∈ w.calls →
    w.samples id = true → (w.record id).TellsOf status cause

/-- Nothing has been traced yet. -/
structure IsFresh : Prop where
  spans : w.spans = []
  calls : w.calls = []
  exports : w.exports = []
  requests : ∀ r id, (w.attributes r).at? .activeSpan ≠ some (.span id)

end World

/-! ## The invariant -/

/-- What holds of one span at any time. -/
structure Span.IsKept (b : Backend) (s : Span) : Prop where
  pristine : s.state ≠ .finalized → s.events = [] ∧ s.status = .unset ∧
    s.recording = (decide (b = .recording) && s.context.isSampled)
  ended : s.state = .finalized → s.recording = false

/-- What every step keeps. -/
structure World.Ledger (w : World) : Prop extends World.IsAccounted w where
  kept : ∀ id, id < w.spans.length → (w.span id).IsKept w.backend

namespace Span

theorem IsKept.tag {b : Backend} {s : Span} (h : s.IsKept b) (key value : String) :
    (s.tag key value).IsKept b := ⟨h.pristine, h.ended⟩

theorem IsKept.abandoned {b : Backend} {s : Span} (h : s.IsKept b) (hs : s.state = .opened) :
    IsKept b { s with state := .abandoned } :=
  ⟨fun _ => h.pristine (by rw [hs]; decide), fun hf => by cases hf⟩

theorem IsKept.finish (b : Backend) (s : Span) : s.finish.IsKept b :=
  ⟨fun h => absurd rfl h, fun _ => rfl⟩

/-- An ended span is exported as it was, whatever is set on it. -/
theorem toExported_tag {s : Span} (h : s.recording = false) (key value : String) :
    (s.tag key value).toExported = s.toExported := by
  unfold tag
  rw [h]
  rfl

theorem getLast?_record (m : SpanAttributes) {key : String} (value : String) (h : key ≠ "") :
    (m.record key value).getLast? = some (key, value) := by
  unfold SpanAttributes.record
  rw [if_neg h, List.getLast?_concat]

/-- A success, or no status at all, is none of a report's business. -/
theorem five_hundred_unsuccessful {status : Int} (h : 500 ≤ status) :
    status ≠ 0 ∧ ¬isSuccessfulStatus status = true := by
  unfold isSuccessfulStatus
  simp
  omega

/-- What a recording span reports, if it had nothing to report before. -/
theorem report_tellsOf {s : Span} {status : Int} {cause : Option Attribute}
    (hr : s.recording = true) (he : s.events = []) (hs : s.status = .unset)
    (hc : Tracer.isRefused s cause = false) :
    (s.report status cause).toExported.TellsOf status cause := by
  have hk : httpStatusCode ≠ "" := by decide
  rcases cause with _ | (v | j | e | t)
  case none =>
    by_cases h : status ≠ 0 ∧ ¬isSuccessfulStatus status = true
    · by_cases h5 : 500 ≤ status
      · refine ⟨?_, ?_, fun _ _ => ?_⟩ <;>
          simp [report, h, h5, markFailed, tag, toExported, hr, he, reportedEvents,
            reportedStatus, getLast?_record _ _ hk]
      · refine ⟨?_, ?_, fun _ _ => ?_⟩ <;>
          simp [report, h, h5, tag, toExported, hr, he, hs, reportedEvents, reportedStatus,
            getLast?_record _ _ hk]
    · have h5 : ¬500 ≤ status := fun h5 => h (five_hundred_unsuccessful h5)
      refine ⟨?_, ?_, fun h0 hn => absurd ⟨h0, by rw [hn]; decide⟩ h⟩
      · simp only [report, h, if_false, toExported, he, reportedEvents]
      · simp only [report, h, if_false, toExported, hs, reportedStatus, h5]
  case some.fault =>
    by_cases h : status ≠ 0 ∧ ¬isSuccessfulStatus status = true
    · refine ⟨?_, ?_, fun _ _ => ?_⟩ <;>
        simp [report, h, recordFault, tag, toExported, hr, he, reportedEvents, reportedStatus,
          getLast?_record _ _ hk]
    · refine ⟨?_, ?_, fun h0 hn => absurd ⟨h0, by rw [hn]; decide⟩ h⟩
      · simp only [report, h, if_false, recordFault, hr, if_true, toExported, he, List.nil_append,
          reportedEvents]
      · simp only [report, h, if_false, recordFault, hr, if_true, toExported, reportedStatus]
  all_goals exact absurd (hr.symm.trans hc) (by decide)

end Span

/-! ## Steps -/

section

variable {w w' : World} {id : SpanId} {s : Span} {calls : List TracerCall}
  {exports : List ExportedSpan}

theorem Change.finalizedIds (h : Change w w' id s calls exports) :
    w'.finalizedIds = w.finalizedIds ++ calls.filterMap (·.finalizes?) := by
  unfold World.finalizedIds
  rw [h.calls, List.filterMap_append]

theorem Change.abandonedIds (h : Change w w' id s calls exports) :
    w'.abandonedIds = w.abandonedIds ++ calls.filterMap (·.abandons?) := by
  unfold World.abandonedIds
  rw [h.calls, List.filterMap_append]

theorem Change.record (h : Change w w' id s calls exports) (j : SpanId) :
    w'.record j = if j = id then s.toExported else w.record j := by
  unfold World.record
  rw [h.span]
  by_cases hj : j = id
  · rw [if_pos hj, if_pos hj]
  · rw [if_neg hj, if_neg hj]

/-- Spans that were finalized before are sampled and exported as before. -/
theorem Change.settled (h : Change w w' id s calls exports)
    (hx : id ∈ w.finalizedIds → s.toExported = w.record id) (j : SpanId)
    (hj : j ∈ w.finalizedIds) : w'.samples j = w.samples j ∧ w'.record j = w.record j := by
  have hrecord : w'.record j = w.record j := by
    rw [h.record]
    by_cases hid : j = id
    · subst hid
      rw [if_pos rfl, hx hj]
    · rw [if_neg hid]
  refine ⟨?_, hrecord⟩
  have hcontext := congrArg ExportedSpan.context hrecord
  unfold World.samples
  rw [h.backend]
  exact congrArg (fun c => decide (w.backend = .recording) && SpanContext.isSampled c) hcontext

/-- The new exports are those of the spans that were finalized now. -/
theorem Change.exports_eq (h : Change w w' id s calls exports) (hw : w.Ledger)
    (hx : id ∈ w.finalizedIds → s.toExported = w.record id)
    (hnew : w.exporting = true →
      exports = ((calls.filterMap (·.finalizes?)).filter w'.samples).map w'.record)
    (he : w'.exporting = true) : w'.exports = w'.reportedIds.map w'.record := by
  rw [h.exporting] at he
  have hold : (w.finalizedIds.filter w'.samples).map w'.record = w.reportedIds.map w.record := by
    unfold World.reportedIds
    rw [List.filter_congr fun j hj => (h.settled hx j hj).1]
    exact List.map_congr_left fun j hj => (h.settled hx j (List.mem_filter.mp hj).1).2
  unfold World.reportedIds
  rw [h.exports, h.finalizedIds, List.filter_append, List.map_append, hold, hw.exports he,
    hnew he]

theorem World.mem_finalizedIds {status : Int} {cause : Option Attribute}
    (h : .finalized id status cause true ∈ w.calls) : id ∈ w.finalizedIds :=
  List.mem_filterMap.mpr ⟨_, h, rfl⟩

theorem Change.contents (h : Change w w' id s calls exports) (hw : w.Ledger)
    (hx : id ∈ w.finalizedIds → s.toExported = w.record id)
    (hnew : ∀ j status cause, .finalized j status cause true ∈ calls →
      w'.samples j = true → (w'.record j).TellsOf status cause)
    (j : SpanId) (status : Int) (cause : Option Attribute)
    (hj : .finalized j status cause true ∈ w'.calls) (hs : w'.samples j = true) :
    (w'.record j).TellsOf status cause := by
  rw [h.calls, List.mem_append] at hj
  rcases hj with hj | hj
  · obtain ⟨hsamples, hrecord⟩ := h.settled hx j (World.mem_finalizedIds hj)
    rw [hrecord]
    exact hw.contents j status cause hj (hsamples ▸ hs)
  · exact hnew j status cause hj hs

/-- Calls that do nothing to any span leave the ledger as it is, whatever was set on a span that
is not finalized. -/
theorem World.Ledger.idle (hw : w.Ledger) (h : Change w w' id s calls [])
    (hc : ∀ c ∈ calls, c.IsIdle) (hs : s.state = (w.span id).state)
    (hx : id ∈ w.finalizedIds → s.toExported = w.record id)
    (hl : ∀ j, j < w'.spans.length → j ≠ id → j < w.spans.length)
    (hk : id < w'.spans.length → s.IsKept w.backend) : w'.Ledger := by
  have hf : calls.filterMap (·.finalizes?) = [] :=
    List.filterMap_eq_nil_iff.mpr fun c hmem => (hc c hmem).1
  have ha : calls.filterMap (·.abandons?) = [] :=
    List.filterMap_eq_nil_iff.mpr fun c hmem => (hc c hmem).2
  have hfinal : w'.finalizedIds = w.finalizedIds := by rw [h.finalizedIds, hf, List.append_nil]
  have habandon : w'.abandonedIds = w.abandonedIds := by rw [h.abandonedIds, ha, List.append_nil]
  have hstate : ∀ j, (w'.span j).state = (w.span j).state := by
    intro j
    rw [h.span]
    by_cases hj : j = id
    · rw [if_pos hj, hs, hj]
    · rw [if_neg hj]
  exact
    { finalizedOnce := hfinal ▸ hw.finalizedOnce
      abandonedOnce := habandon ▸ hw.abandonedOnce
      notAbandonedAfter := by
        rw [h.calls, List.pairwise_append]
        refine ⟨hw.notAbandonedAfter, ?_, ?_⟩
        · refine List.pairwise_of_forall_mem_list fun c _ d hd j _ => ?_
          rw [(hc d hd).2]
          exact nofun
        · intro c _ d hd j _
          rw [(hc d hd).2]
          exact nofun
      finalized := fun j => by rw [hstate, hfinal]; exact hw.finalized j
      abandoned := fun j => by rw [hstate, hfinal, habandon]; exact hw.abandoned j
      exports := h.exports_eq hw hx fun _ => by rw [hf]; rfl
      contents := h.contents hw hx fun j status cause hj => by
        have := (hc _ hj).1
        cases this
      kept := fun j hj => by
        rw [h.backend, h.span]
        by_cases hid : j = id
        · rw [if_pos hid]
          exact hk (hid ▸ hj)
        · rw [if_neg hid]
          exact hw.kept j (hl j hj hid) }

/-- An effective finalization is the first of its span. -/
theorem World.Ledger.finalize (hw : w.Ledger) {status : Int} {cause : Option Attribute}
    (hid : id < w.spans.length) (hs : (w.span id).state ≠ .finalized)
    (hc : Tracer.isRefused (w.span id) cause = false) (hl : w'.spans.length = w.spans.length)
    (h : Change w w' id ((w.span id).report status cause).finish
      [.finalized id status cause true]
      (if (w.span id).recording && w.exporting then
        [((w.span id).report status cause).toExported] else [])) : w'.Ledger := by
  have hnew : id ∉ w.finalizedIds := fun hmem => hs ((hw.finalized id).mpr hmem)
  have hx : id ∈ w.finalizedIds →
      ((w.span id).report status cause).finish.toExported = w.record id :=
    fun hmem => absurd hmem hnew
  have hfinal : w'.finalizedIds = w.finalizedIds ++ [id] := h.finalizedIds
  have habandon : w'.abandonedIds = w.abandonedIds := by
    rw [h.abandonedIds]
    exact List.append_nil _
  have hrecord : w'.record id = ((w.span id).report status cause).toExported := by
    rw [h.record, if_pos rfl]
    rfl
  obtain ⟨hevents, hstatus, hrecording⟩ := (hw.kept id hid).pristine hs
  have hsamples : w'.samples id = (w.span id).recording := by
    unfold World.samples
    rw [hrecording, h.backend, h.span, if_pos rfl, Span.report_eq]
    rfl
  exact
    { finalizedOnce := by
        rw [hfinal, List.nodup_append]
        refine ⟨hw.finalizedOnce, List.pairwise_singleton .., fun a ha b hb => ?_⟩
        rw [List.mem_singleton.mp hb]
        exact fun hab => hnew (hab ▸ ha)
      abandonedOnce := habandon ▸ hw.abandonedOnce
      notAbandonedAfter := by
        rw [h.calls, List.pairwise_append]
        refine ⟨hw.notAbandonedAfter, List.pairwise_singleton .., fun c _ d hd j _ => ?_⟩
        rw [List.mem_singleton.mp hd]
        exact nofun
      finalized := fun j => by
        rw [h.span, hfinal, List.mem_append, List.mem_singleton]
        by_cases hj : j = id
        · simp [hj, Span.finish]
        · simp [hj, hw.finalized j]
      abandoned := fun j => by
        rw [h.span, hfinal, habandon, List.mem_append, List.mem_singleton]
        by_cases hj : j = id
        · simp [hj, Span.finish]
        · simp [hj, hw.abandoned j]
      exports := h.exports_eq hw hx fun he => by
        cases hr : (w.span id).recording with
        | false =>
          rw [hr] at hsamples
          simp [TracerCall.finalizes?, hsamples]
        | true =>
          rw [hr] at hsamples
          simp [TracerCall.finalizes?, hsamples, he, hrecord]
      contents := h.contents hw hx fun j code a hj hsample => by
        cases List.mem_singleton.mp hj
        rw [hsamples] at hsample
        rw [hrecord]
        exact Span.report_tellsOf hsample hevents hstatus hc
      kept := fun j hj => by
        rw [h.backend, h.span]
        by_cases hid : j = id
        · rw [if_pos hid]
          exact Span.IsKept.finish _ _
        · rw [if_neg hid]
          exact hw.kept j (hl ▸ hj) }

/-- An effective abandonment is the first of its span, and no finalization was before it. -/
theorem World.Ledger.abandon (hw : w.Ledger) (hid : id < w.spans.length)
    (hs : (w.span id).state = .opened) (hl : w'.spans.length = w.spans.length)
    (h : Change w w' id { w.span id with state := .abandoned } [.abandoned id true] []) :
    w'.Ledger := by
  have hopen : id ∉ w.finalizedIds := fun hmem => by
    have := (hw.finalized id).mpr hmem
    rw [hs] at this
    cases this
  have hnew : id ∉ w.abandonedIds := fun hmem => by
    have := (hw.abandoned id).mpr ⟨hmem, hopen⟩
    rw [hs] at this
    cases this
  have hfinal : w'.finalizedIds = w.finalizedIds := by
    rw [h.finalizedIds]
    exact List.append_nil _
  have habandon : w'.abandonedIds = w.abandonedIds ++ [id] := h.abandonedIds
  have hx : id ∈ w.finalizedIds →
      Span.toExported { w.span id with state := .abandoned } = w.record id := fun _ => rfl
  exact
    { finalizedOnce := hfinal ▸ hw.finalizedOnce
      abandonedOnce := by
        rw [habandon, List.nodup_append]
        refine ⟨hw.abandonedOnce, List.pairwise_singleton .., fun a ha b hb => ?_⟩
        rw [List.mem_singleton.mp hb]
        exact fun hab => hnew (hab ▸ ha)
      notAbandonedAfter := by
        rw [h.calls, List.pairwise_append]
        refine ⟨hw.notAbandonedAfter, List.pairwise_singleton .., fun c hmem d hd j hj => ?_⟩
        rw [List.mem_singleton.mp hd]
        intro hji
        cases hji
        exact hopen (List.mem_filterMap.mpr ⟨c, hmem, hj⟩)
      finalized := fun j => by
        rw [h.span, hfinal]
        by_cases hj : j = id
        · simp [hj, hopen]
        · simp [hj, hw.finalized j]
      abandoned := fun j => by
        rw [h.span, hfinal, habandon, List.mem_append, List.mem_singleton]
        by_cases hj : j = id
        · simp [hj, hopen]
        · simp [hj, hw.abandoned j]
      exports := h.exports_eq hw hx fun _ => rfl
      contents := h.contents hw hx fun j code a hj => by cases List.mem_singleton.mp hj
      kept := fun j hj => by
        rw [h.backend, h.span]
        by_cases hid' : j = id
        · rw [if_pos hid']
          exact (hw.kept id hid).abandoned hs
        · rw [if_neg hid']
          exact hw.kept j (hl ▸ hj) }

/-- Every step keeps the ledger. -/
theorem Step.ledger (h : Step w w') (hw : w.Ledger) : w'.Ledger := by
  cases h with
  | aside id calls hc hl h =>
    refine hw.idle h hc rfl (fun _ => rfl) (fun j hj _ => hl ▸ hj) fun hid => ?_
    exact hw.kept id (hl ▸ hid)
  | started s name origin hs hl h =>
    refine hw.idle h (fun c hc => ?_) ?_ (fun hmem => ?_) (fun j hj hne => ?_) fun _ => ?_
    · rw [List.mem_singleton.mp hc]
      exact ⟨rfl, rfl⟩
    · rw [World.span_default (Nat.le_refl _), hs.state]
      rfl
    · have hstate := (hw.finalized w.spans.length).mpr hmem
      rw [World.span_default (Nat.le_refl _)] at hstate
      cases hstate
    · omega
    · exact ⟨fun _ => ⟨hs.events, hs.status, hs.sampled⟩, fun hf => by
        rw [hs.state] at hf
        cases hf⟩
  | tagged id key value hid hl h =>
    refine hw.idle h (fun c hc => absurd hc List.not_mem_nil) rfl (fun hmem => ?_)
      (fun j hj _ => hl ▸ hj) fun _ => (hw.kept id hid).tag key value
    exact Span.toExported_tag ((hw.kept id hid).ended ((hw.finalized id).mpr hmem)) key value
  | finalized id status cause hid hs hc hl h => exact hw.finalize hid hs hc hl h
  | abandoned id hid hs hl h => exact hw.abandon hid hs hl h

/-- Every run keeps the ledger. -/
theorem Run.ledger (h : Run w w') (hw : w.Ledger) : w'.Ledger := by
  induction h with
  | refl => exact hw
  | tail _ h ih => exact h.ledger ih

/-! ## States -/

/-- A step moves the state of a span at most once. -/
theorem Step.moves (h : Step w w') (hid : id < w.spans.length) :
    (w'.span id).state = (w.span id).state ∨
      SpanState.Moves (w.span id).state (w'.span id).state := by
  have same : ∀ {j s cs es}, Change w w' j s cs es → (id = j → s.state = (w.span j).state) →
      (w'.span id).state = (w.span id).state := by
    intro j s cs es h hs
    rw [h.span]
    by_cases hj : id = j
    · rw [if_pos hj, hs hj, hj]
    · rw [if_neg hj]
  cases h with
  | aside j _ _ _ h => exact .inl (same h fun _ => rfl)
  | started s name origin _ _ h => exact .inl (same h fun hj => absurd hj (Nat.ne_of_lt hid))
  | tagged j _ _ _ _ h => exact .inl (same h fun _ => rfl)
  | finalized j status cause hj hs hc hl h =>
    by_cases hij : id = j
    · subst hij
      right
      rw [h.span, if_pos rfl]
      cases hstate : (w.span id).state with
      | opened => exact .finalize
      | abandoned => exact .takeOver
      | finalized => exact absurd hstate hs
    · exact .inl (same h fun hj => absurd hj hij)
  | abandoned j hj hs hl h =>
    by_cases hij : id = j
    · subst hij
      right
      rw [h.span, if_pos rfl, hs]
      exact .abandon
    · exact .inl (same h fun hj => absurd hj hij)

/-- Over a run the state of a span stays or moves, and never back. -/
theorem Run.moves (h : Run w w') (hid : id < w.spans.length) :
    (w'.span id).state = (w.span id).state ∨
      SpanState.Moves (w.span id).state (w'.span id).state := by
  induction h with
  | refl => exact .inl rfl
  | tail h step ih =>
    rcases step.moves (Nat.lt_of_lt_of_le hid (Run.length_le h)) with hs | hs
    · rw [hs]
      exact ih
    · right
      rcases ih with ih | ih
      · rwa [ih] at hs
      · generalize (w.span id).state = s₀ at ih
        generalize (World.span _ id).state = s₁ at ih hs
        generalize (World.span _ id).state = s₂ at hs
        cases ih <;> cases hs
        exact .finalize

theorem Change.grows (h : Change w w' id s calls exports) :
    w.calls <+: w'.calls ∧ w.exports <+: w'.exports :=
  ⟨⟨calls, h.calls.symm⟩, ⟨exports, h.exports.symm⟩⟩

theorem Step.grows (h : Step w w') : w.calls <+: w'.calls ∧ w.exports <+: w'.exports := by
  cases h with
  | aside _ _ _ _ h | started _ _ _ _ _ h | tagged _ _ _ _ _ h | finalized _ _ _ _ _ _ _ h
  | abandoned _ _ _ _ h => exact h.grows

/-- Over a run calls and exports are only added. -/
theorem Run.grows (h : Run w w') : w.calls <+: w'.calls ∧ w.exports <+: w'.exports := by
  induction h with
  | refl => exact ⟨List.prefix_refl _, List.prefix_refl _⟩
  | tail _ step ih => exact ⟨ih.1.trans step.grows.1, ih.2.trans step.grows.2⟩

end

/-! ## Main statement -/

theorem World.IsFresh.sound {w : World} (h : w.IsFresh) : w.Sound :=
  fun r id hid => absurd hid (h.requests r id)

theorem World.IsFresh.ledger {w : World} (h : w.IsFresh) : w.Ledger := by
  have hf : w.finalizedIds = [] := by unfold World.finalizedIds; rw [h.calls]; rfl
  have ha : w.abandonedIds = [] := by unfold World.abandonedIds; rw [h.calls]; rfl
  have hs : ∀ id, w.span id = default := fun id =>
    World.span_default (by rw [h.spans]; exact Nat.zero_le id)
  exact
    { finalizedOnce := by rw [hf]; exact .nil
      abandonedOnce := by rw [ha]; exact .nil
      notAbandonedAfter := by rw [h.calls]; exact .nil
      finalized := fun id => by
        rw [hs, hf]
        exact ⟨fun h => (by cases h), fun h => absurd h List.not_mem_nil⟩
      abandoned := fun id => by
        rw [hs, ha]
        exact ⟨fun h => (by cases h), fun h => absurd h.1 List.not_mem_nil⟩
      exports := fun _ => by
        unfold World.reportedIds
        rw [h.exports, hf]
        rfl
      contents := fun id status cause hmem => by
        rw [h.calls] at hmem
        exact absurd hmem List.not_mem_nil
      kept := fun id hid => by
        rw [h.spans] at hid
        exact absurd hid (Nat.not_lt_zero id) }

/-- What a finalization returns is what the journal says of it: true for the first one of a span,
which is exported then and there as it is reported; false for a later one. -/
theorem finalize_entry {w u : World} (hw : w.Ledger) {id : SpanId} (hid : id < w.spans.length)
    {status : Int} {cause : Option Attribute} {b : Bool}
    (h : (Tracer.finalize status cause id).runIn w = (.ok b, u)) :
    b = decide ((w.span id).state ≠ .finalized) ∧
      u.calls = w.calls ++ [.finalized id status cause b] ∧
      u.exports = w.exports ++ (if b && w.samples id && w.exporting then
        [((w.span id).report status cause).toExported] else []) := by
  have hout := Tracer.finalize_outcome status cause hid
  rw [h] at hout
  cases hout with
  | late _ hs hb =>
    have hb := hb outerRequest
    refine ⟨by simp [hs], hb.calls, ?_⟩
    rw [hb.exports]
    rfl
  | effective _ hs hc hb =>
    have hb := hb outerRequest
    obtain ⟨-, -, hrecording⟩ := (hw.kept id hid).pristine hs
    refine ⟨by simp [hs], hb.calls, ?_⟩
    rw [hb.exports]
    unfold Tracer.finalizedUpshot World.samples
    rw [hrecording, Bool.true_and]

/-- What an abandonment returns is what the journal says of it, and nothing is exported. -/
theorem abandon_entry {w u : World} {id : SpanId} (hid : id < w.spans.length) {b : Bool}
    (h : (Tracer.abandon id).runIn w = (.ok b, u)) :
    b = decide ((w.span id).state = .opened) ∧ u.calls = w.calls ++ [.abandoned id b] ∧
      u.exports = w.exports := by
  have hout := Tracer.abandon_outcome hid
  rw [h] at hout
  cases hout with
  | late _ hs hb =>
    have hb := hb outerRequest
    exact ⟨by simp [hs], hb.calls, by rw [hb.exports]; exact List.append_nil _⟩
  | effective _ hs hb =>
    have hb := hb outerRequest
    exact ⟨by simp [hs], hb.calls, by rw [hb.exports]; exact List.append_nil _⟩

/-- At every moment of every program that starts on a fresh world, all spans and exports are
accounted for by the calls so far; from there on the state of a span moves at most forward, and
calls and exports are only added; and what a call on a span returns is what the journal says. -/
theorem program_accounts_for_spans {w u : World} (hw : w.IsFresh) {r : RequestName} {status : Int}
    {actions : List Action} (hu : Moment r status actions w u) :
    let v := (runActions r status actions w).world
    u.IsAccounted ∧
    (∀ id, id < u.spans.length → (v.span id).state = (u.span id).state ∨
      SpanState.Moves (u.span id).state (v.span id).state) ∧
    (u.calls <+: v.calls ∧ u.exports <+: v.exports) ∧
    (∀ id code cause b u', id < u.spans.length →
      (Tracer.finalize code cause id).runIn u = (.ok b, u') →
      b = decide ((u.span id).state ≠ .finalized) ∧
      u'.calls = u.calls ++ [.finalized id code cause b] ∧
      u'.exports = u.exports ++ (if b && u.samples id && u.exporting then
        [((u.span id).report code cause).toExported] else [])) ∧
    (∀ id b u', id < u.spans.length → (Tracer.abandon id).runIn u = (.ok b, u') →
      b = decide ((u.span id).state = .opened) ∧
      u'.calls = u.calls ++ [.abandoned id b] ∧ u'.exports = u.exports) := by
  intro v
  obtain ⟨hbefore, hafter⟩ := hu.follows hw.sound
  have hledger := hbefore.run.ledger hw.ledger
  refine ⟨hledger.toIsAccounted, fun id hid => hafter.run.moves hid, hafter.run.grows, ?_, ?_⟩
  · intro id code cause b u' hid h
    exact finalize_entry hledger hid h
  · intro id b u' hid h
    exact abandon_entry hid h

/-- A visit that fails, while a span of its own making was abandoned and finalized after all. -/
def failingVisit : List Action :=
  [.handle { method := "GET", path := "/a", headers := [], request := outerRequest } "c" false
    [.start [] "inner" "GET" "/b", .abandon 1, .finalize 1 500 none,
      .raise { kind := .valueError }]]

theorem failingVisit_accounts :
    (runActions outerRequest 0 failingVisit {}).world.calls.length = 5 ∧
      (runActions outerRequest 0 failingVisit {}).world.IsAccounted :=
  ⟨by decide +kernel, (program_accounts_for_spans (w := {}) ⟨rfl, rfl, rfl, fun _ _ h => by cases h⟩
    .finish).1⟩

end SpanLifecycle
