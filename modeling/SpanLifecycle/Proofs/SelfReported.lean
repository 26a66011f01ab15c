import SpanLifecycle.Proofs.Ending
import SpanLifecycle.Proofs.OneReport

/-!
# Spans that an error handler has reported

An application tells the tracing that it has reported a span itself.  Passes never take that back, or
that a request was handled (`Exchange.handle_retains`).  The error pass heeds it, and so do further
error passes; but a further normal pass asks only whether the span was finalized.
`reported_again_iff` is the exact condition under which it reports the span once more, at any time
after the error pass; `forwarded_reported_again` is a run in which it does.
-/

namespace SpanLifecycle

/-! ## What passes retain -/

/-- The keys under which an application tells the tracing about a request; passes only read them. -/
def Key.isNotice : Key → Bool
  | .errorSpanReported | .asyncStarted | .shouldClose => true
  | _ => false

/-- What the application has said about a request is as before, and it is still handled if it was. -/
structure Attributes.Retains (m m' : Attributes) : Prop where
  notice : ∀ k, k.isNotice = true → m'.flag k = m.flag k
  handled : m.isErrorHandled = true → m'.isErrorHandled = true

namespace Attributes.Retains

variable {m m' m'' : Attributes}

theorem refl (m : Attributes) : m.Retains m := ⟨fun _ _ => rfl, id⟩

theorem trans (h : m.Retains m') (g : m'.Retains m'') : m.Retains m'' where
  notice k hk := (g.notice k hk).trans (h.notice k hk)
  handled := g.handled ∘ h.handled

/-- What is stored is no notice, and no other state than that of a handled request. -/
theorem put (m : Attributes) {k : Key} {a : Attribute} (hk : k.isNotice = false)
    (hs : k = .requestState → a = .state .errorHandled) : m.Retains (Attributes.put m k a) where
  notice k' hk' := by
    rw [flag_put, if_neg]
    rintro rfl
    rw [hk] at hk'
    cases hk'
  handled h := by
    unfold isErrorHandled at h ⊢
    rw [inState_put]
    by_cases hkey : k = .requestState
    · rw [if_pos hkey, hs hkey]
      rfl
    · rwa [if_neg hkey]

theorem drop (m : Attributes) {k : Key} (hk : k.isNotice = false) (hs : k ≠ .requestState) :
    m.Retains (Attributes.drop m k) where
  notice k' hk' := by
    rw [flag_drop, if_neg]
    rintro rfl
    rw [hk] at hk'
    cases hk'
  handled h := by
    unfold isErrorHandled at h ⊢
    rwa [inState_drop, if_neg hs]

theorem of_mark (h : m.Mark m') : m.Retains m' := by
  cases h with
  | pending e => exact put m rfl nofun
  | forgotten => exact drop m rfl nofun
  | cleared => exact drop m rfl nofun
  | finalized => exact put m rfl nofun
  | handled => exact put m rfl fun _ => rfl

/-- The end of a pass notes nothing else. -/
theorem of_marks (h : m.Marks m') : m.Retains m' := by
  induction h with
  | refl => exact refl m
  | tail _ hstep ih => exact ih.trans (of_mark hstep)

theorem markSpanContinued (m : Attributes) : m.Retains m.markSpanContinued := by
  refine ⟨fun k hk => ?_, fun hhandled => ?_⟩
  · unfold Attributes.markSpanContinued
    split
    · rw [flag_put, if_neg]
      rintro rfl
      cases hk
    · rfl
  · rwa [markSpanContinued_of_isErrorHandled hhandled]

theorem opening (id : SpanId) (root : Bool) (m : Attributes) :
    m.Retains (openingAttributes id root m) := by
  unfold openingAttributes
  have hactive : m.Retains (m.setActiveSpan (.span id)) := put m rfl nofun
  cases root with
  | true => exact hactive.trans (put _ rfl nofun)
  | false => exact hactive

end Attributes.Retains

namespace Exchange

variable {x : Exchange} {c : String} {w v : World} {ρ : Type} {chain : Chain ρ}

theorem chainStart?_retains (h : x.chainStart? c w = some v) :
    (w.attributes x.request).Retains (v.attributes x.request) := by
  cases ha : Attribute.present? (w.attributes x.request).activeSpan with
  | none =>
    rw [(chainStart?_begins h ha).attributes]
    exact .opening _ _ _
  | some a =>
    obtain ⟨id, rfl⟩ := chainStart?_active h ha
    rw [(chainStart?_resumes h ha id).itsAttributes]
    exact .markSpanContinued _

/-- A pass whose chain leaves the bookkeeping of its request alone retains all that was said. -/
theorem handle_retains (hw : w.Sound) (hrun : Pass.IsRun chain)
    (hc : ∀ v, x.chainStart? c w = some v →
      (chain v).world.attributes x.request = v.attributes x.request) :
    (w.attributes x.request).Retains ((x.handle c chain w).world.attributes x.request) := by
  cases h : x.chainStart? c w with
  | none =>
    obtain ⟨m, calls, hb, -, ⟨raised, rfl⟩ | rfl⟩ := handle_refused_becomes h chain
    · rw [(hb 0).itsAttributes]
      exact .of_marks (.noted _ _)
    · rw [(hb 0).itsAttributes]
      exact .markSpanContinued _
  | some v =>
    have hstart := chainStart?_follows hw x c h
    have hid := Nat.lt_of_lt_of_le (spanIn_lt h hw) (hrun v hstart.sound).run.length_le
    have hopen := chainStart?_retains h
    rw [← hc v h] at hopen
    exact hopen.trans (.of_marks (handle_treats h hid).marks)

end Exchange

/-! ## When a span is finalized after all -/

/-- The calls between two worlds are determined by them. -/
theorem Adds.calls_eq {w w' : World} {calls calls' : List TracerCall} {exports : List ExportedSpan}
    (h : Adds w w' calls exports) (hcalls : w'.calls = w.calls ++ calls') : calls = calls' :=
  List.append_cancel_left (h.calls.symm.trans hcalls)

namespace Pass

variable {r : RequestName} {status : Int} {id : SpanId} {failure : Option Fault} {w : World}
  {calls : List TracerCall} {exports : List ExportedSpan}

/-- A verdict to finalize takes effect on a span that is not finalized, unless the tracer fails. -/
theorem carryOut_finalizes_iff (hid : id < w.spans.length)
    (h : Adds w ((carryOut .finalize r status id failure).runIn w).2 calls exports) :
    id ∈ calls.filterMap (·.finalizes?) ↔
      (w.span id).state ≠ .finalized ∧ w.failures.of? .finalize = none := by
  have hcalls : ((carryOut .finalize r status id failure).runIn w).2.calls =
      ((Tracer.finalize status (failure.map .fault) id).runIn w).2.calls := by
    unfold carryOut
    rw [Act.runIn_bind]
    rcases (Tracer.finalize status (failure.map .fault) id).runIn w with ⟨e | b, v⟩
    · rfl
    · cases b <;> cases failure <;> rfl
  have heq : ∀ calls', ((Tracer.finalize status (failure.map .fault) id).runIn w).2.calls =
      w.calls ++ calls' → calls = calls' := fun _ hc => h.calls_eq (hcalls.trans hc)
  cases hf : w.failures.of? .finalize with
  | some e =>
    have hcall : calls = [.failed .finalize] := by
      refine heq _ ?_
      rw [Tracer.finalize_failed hf]
      exact World.calls_enter _ _
    rw [hcall]
    exact iff_of_false (by simp [TracerCall.finalizes?]) nofun
  | none =>
    have hout := Tracer.finalize_outcome status (failure.map .fault) hid
    generalize (Tracer.finalize status (failure.map .fault) id).runIn w = out at hout heq
    cases hout with
    | failed e he =>
      rw [hf] at he
      cases he
    | refused e _ hc =>
      rw [not_refused] at hc
      cases hc
    | late w' hs hb =>
      rw [heq _ (hb r).calls]
      exact iff_of_false (by simp [TracerCall.finalizes?]) fun hne => hne.1 hs
    | effective w' hs _ hb =>
      rw [heq _ (hb r).calls]
      exact iff_of_true (List.mem_singleton.mpr rfl) ⟨hs, rfl⟩

/-- The end of a normal pass over a handled request finalizes its span exactly if the span and its
request do not say that it is finalized, after a success that leaves nothing to an error handler. -/
theorem conclude_finalizes_iff {c : String} (hid : id < w.spans.length)
    (hasync : (w.attributes r).isAsyncStarted = false)
    (hhandled : (w.attributes r).isErrorHandled = true)
    (hclose : (w.attributes r).shouldClose = false)
    (h : Adds w ((conclude c r status (some id) failure).runIn w).2 calls exports) :
    id ∈ calls.filterMap (·.finalizes?) ↔
      (w.span id).state ≠ .finalized ∧ (w.attributes r).isAlreadyFinalized = false ∧
      isSuccessfulStatus status = true ∧
      (∃ b, (w.coordinator c).answer = .ok b ∧ (failure.isSome && b) = false) ∧
      w.failures.of? .finalize = none := by
  cases ha : (w.coordinator c).answer with
  | error e =>
    obtain ⟨w', hrun, hb⟩ := conclude_raises r status failure id ha hasync
    rw [hrun] at h
    rw [h.calls_eq (hb id).calls]
    refine iff_of_false List.not_mem_nil ?_
    rintro ⟨-, -, -, ⟨_, hb, -⟩, -⟩
    cases hb
  | ok b =>
    obtain ⟨v, hv, hrun⟩ := conclude_carriesOut r status id failure ha hasync
    generalize ho : outcome w r status id failure b = o at hrun
    obtain ⟨hverdict, -⟩ := Outcome.decide_handled (o := o) (by rw [← ho]; rfl)
      (by rw [← ho]; exact hhandled) (by rw [← ho]; exact hclose)
    have hagain : (o.successful && !o.alreadyFinalized && !(o.hasException && o.hasErrorHandler)) =
        (isSuccessfulStatus status && !(w.attributes r).isAlreadyFinalized &&
          !(failure.isSome && b)) := by
      rw [← ho]
      rfl
    have hmark := hv.trans (marking_becomes o.decide r status (hv.length ▸ hid))
    rw [hrun, hverdict, hagain] at h
    cases hc : isSuccessfulStatus status && !(w.attributes r).isAlreadyFinalized &&
        !(failure.isSome && b) with
    | false =>
      rw [hc] at h
      rw [h.calls_eq hmark.calls]
      refine iff_of_false List.not_mem_nil ?_
      rintro ⟨-, hfinal, hs, ⟨_, hanswer, hx⟩, -⟩
      cases hanswer
      rw [hfinal, hs, hx] at hc
      cases hc
    | true =>
      rw [hc] at h
      simp only [Bool.and_eq_true, Bool.not_eq_true'] at hc
      have hstate : ((marked o.decide r status id v).span id).state = (w.span id).state := by
        rw [marking_state o.decide r status (hv.length ▸ hid), hv.itsSpan]
      have hadds : Adds (marked o.decide r status id v)
          ((carryOut .finalize r status id failure).runIn (marked o.decide r status id v)).2
          calls exports := by
        have hcalls := hmark.calls
        have hexports := hmark.exports
        simp only [Upshot.andThen, List.append_nil] at hcalls hexports
        exact ⟨by rw [hcalls]; exact h.calls, by rw [hexports]; exact h.exports⟩
      rw [carryOut_finalizes_iff (by rw [hmark.length]; exact hid) hadds, hstate, hmark.failures]
      constructor
      · rintro ⟨hs, hf⟩
        exact ⟨hs, hc.1.2, hc.1.1, ⟨b, rfl, hc.2⟩, hf⟩
      · rintro ⟨hs, -, -, -, hf⟩
        exact ⟨hs, hf⟩

end Pass

/-! ## Further passes -/

/-- A request and a span are as they were. -/
structure Untouched (r : RequestName) (id : SpanId) (w w' : World) : Prop where
  attributes : w'.attributes r = w.attributes r
  span : w'.span id = w.span id

/-- Nothing was finalized or exported. -/
def FinalizesNone (w w' : World) : Prop :=
  ∃ calls, Adds w w' calls [] ∧ calls.filterMap (·.finalizes?) = []

/-- Any number of passes over a request, with chains that touch neither it nor a span, and between
them anything else that touches neither. -/
inductive Revisited (r : RequestName) (id : SpanId) (w : World) : World → Prop where
  | start : Revisited r id w w
  | aside {u v : World} (h : Revisited r id w u) (hv : Follows u v) (hs : Untouched r id u v) :
      Revisited r id w v
  | pass {ρ : Type} {u : World} {x : Exchange} {chain : Chain ρ} (c : String)
      (h : Revisited r id w u) (hx : x.request = r) (hrun : Pass.IsRun chain)
      (hc : ∀ v, x.chainStart? c u = some v → Untouched r id v (chain v).world) :
      Revisited r id w (x.handle c chain u).world

/-- An error pass was over the request, and the application has reported the span and neither gone
asynchronous nor asked for the span to be closed. -/
structure Attributes.IsSelfReported (m : Attributes) : Prop where
  handled : m.isErrorHandled = true
  reported : m.isErrorSpanReported = true
  notAsync : m.isAsyncStarted = false
  notClosing : m.shouldClose = false

theorem Attributes.IsSelfReported.retains {m m' : Attributes} (h : m.IsSelfReported)
    (hm : m.Retains m') : m'.IsSelfReported where
  handled := hm.handled h.handled
  reported := (hm.notice .errorSpanReported rfl).trans h.reported
  notAsync := (hm.notice .asyncStarted rfl).trans h.notAsync
  notClosing := (hm.notice .shouldClose rfl).trans h.notClosing

/-- The request still goes by a span that neither of them says is finalized, and a pass over it
started and ended with a success, leaves no failure to an error handler, and can finalize. -/
structure ReportsAgain {ρ : Type} (x : Exchange) (c : String) (id : SpanId) (u : World)
    (done : ChainEnd ρ) : Prop where
  active : (u.attributes x.request).activeSpan = some (.span id)
  unfinalized : (u.span id).state ≠ .finalized
  unmarked : (u.attributes x.request).isAlreadyFinalized = false
  begun : isSuccessfulStatus x.status = true
  ended : isSuccessfulStatus done.status = true
  kept : ∃ b, (done.world.coordinator c).answer = .ok b ∧
    ((Pass.failureOf done.raised).isSome && b) = false
  working : done.world.failures.of? .finalize = none

/-- What is known of a request at any time after its error pass. -/
theorem Revisited.selfReported {r : RequestName} {id : SpanId} {w u : World}
    (h : Revisited r id w u) (hw : w.Sound) (hid : id < w.spans.length)
    (hm : (w.attributes r).IsSelfReported) :
    u.Sound ∧ id < u.spans.length ∧ (u.attributes r).IsSelfReported := by
  induction h with
  | start => exact ⟨hw, hid, hm⟩
  | aside _ hv hs ih =>
    obtain ⟨-, hlt, hm⟩ := ih
    exact ⟨hv.sound, Nat.lt_of_lt_of_le hlt hv.run.length_le, hs.attributes ▸ hm⟩
  | @pass ρ u x chain c _ hx hrun hc ih =>
    obtain ⟨hu, hlt, hm⟩ := ih
    have hfollows := Exchange.handle_follows hrun hu x c
    subst hx
    exact ⟨hfollows.sound, Nat.lt_of_lt_of_le hlt hfollows.run.length_le,
      hm.retains (Exchange.handle_retains hu hrun fun v hv => (hc v hv).attributes)⟩

theorem TracerCall.IsOn.eq_of_finalizes {i j : SpanId} {call : TracerCall} (h : call.IsOn i)
    (hj : call.finalizes? = some j) : j = i := by
  cases call with
  | finalized k status cause b =>
    cases b with
    | false => cases hj
    | true =>
      cases hj
      exact h
  | _ => cases hj

/-- What a normal pass does to a span that the application has reported, by what its chain has left. -/
theorem Pass.runNormal_finalizes_iff {x : Exchange} {c : String} {v : World} {ρ : Type}
    {chain : Chain ρ} {id : SpanId} {calls : List TracerCall} {exports : List ExportedSpan}
    (scope : Scope) (hid : id < (chain v).world.spans.length)
    (hm : ((chain v).world.attributes x.request).IsSelfReported)
    (h : Adds (chain v).world (runNormal c x id scope chain v).world calls exports) :
    let done := (chain v).world
    id ∈ calls.filterMap (·.finalizes?) ↔
      (done.span id).state ≠ .finalized ∧ (done.attributes x.request).isAlreadyFinalized = false ∧
      isSuccessfulStatus (chain v).status = true ∧
      (∃ b, (done.coordinator c).answer = .ok b ∧
        ((failureOf (chain v).raised).isSome && b) = false) ∧
      done.failures.of? .finalize = none := by
  intro done
  have hn := noteFailure_becomes x (chain v).raised id done
  have hm' : ((noteFailure x (chain v).raised done).attributes x.request).IsSelfReported := by
    rw [hn.itsAttributes]
    exact hm.retains (.of_marks (.noted _ _))
  have hadds : Adds (noteFailure x (chain v).raised done)
      ((conclude c x.request (chain v).status (some id) (failureOf (chain v).raised)).runIn
        (noteFailure x (chain v).raised done)).2 calls exports := by
    rw [← finishWith_snd _ (chain v).raised]
    generalize hw : (finishWith _ (chain v).raised (noteFailure x (chain v).raised done)).2 = w
    have hclose := Becomes.close x.request id w scope
    have hlast : (runNormal c x id scope chain v).world = w.close scope :=
      congrArg (World.close · scope) hw
    rw [hlast] at h
    refine ⟨?_, ?_⟩
    · rw [hn.calls, List.append_nil, ← h.calls, hclose.calls, List.append_nil]
    · rw [hn.exports, List.append_nil, ← h.exports, hclose.exports, List.append_nil]
  have hfinal : (notedAttributes (chain v).raised (done.attributes x.request)).isAlreadyFinalized =
      (done.attributes x.request).isAlreadyFinalized := (Attributes.Keeps.noted _ _).final
  rw [conclude_finalizes_iff (hn.length ▸ hid) hm'.notAsync hm'.handled hm'.notClosing hadds,
    hn.itsSpan, hn.itsAttributes, hfinal, hn.answer, hn.failures]

namespace Exchange

variable {x : Exchange} {c : String} {u v : World} {ρ : Type} {chain : Chain ρ} {id : SpanId}
  {calls : List TracerCall} {exports : List ExportedSpan}

/-- A pass is over a span that was there before exactly if the request goes by it. -/
theorem spanIn_eq_iff (h : x.chainStart? c u = some v) (hid : id < u.spans.length) :
    x.spanIn u = id ↔ (u.attributes x.request).activeSpan = some (.span id) := by
  unfold spanIn
  cases ha : Attribute.present? (u.attributes x.request).activeSpan with
  | none =>
    refine iff_of_false (Nat.ne_of_gt hid) fun hactive => ?_
    rw [hactive] at ha
    cases ha
  | some a =>
    obtain ⟨j, rfl⟩ := chainStart?_active h ha
    rw [Attribute.of_present? ha]
    exact ⟨fun hj => congrArg (some ∘ Attribute.span) hj, fun hj => by cases hj; rfl⟩

/-- The end of a pass over a request whose span the application has reported. -/
theorem handle_finalizes_iff (hu : u.Sound) (hid : id < u.spans.length)
    (hm : (u.attributes x.request).IsSelfReported) (h : x.chainStart? c u = some v)
    (hrun : Pass.IsRun chain) (hc : Untouched x.request id v (chain v).world)
    (hadds : Adds (chain v).world (x.handle c chain u).world calls exports) :
    id ∈ calls.filterMap (·.finalizes?) ↔ ReportsAgain x c id u (chain v) := by
  have hlt := Nat.lt_of_lt_of_le (spanIn_lt h hu)
    (hrun v (chainStart?_follows hu x c h).sound).run.length_le
  by_cases hi : x.spanIn u = id
  · have hactive := (spanIn_eq_iff h hid).mp hi
    have ha : Attribute.present? (u.attributes x.request).activeSpan = some (.span id) := by
      rw [hactive]
      rfl
    have hopen := chainStart?_resumes h ha id
    rw [Attributes.markSpanContinued_of_isErrorHandled hm.handled] at hopen
    have hattributes : (chain v).world.attributes x.request = u.attributes x.request :=
      hc.attributes.trans hopen.itsAttributes
    have hspan := hc.span.trans hopen.itsSpan
    have hm' : ((chain v).world.attributes x.request).IsSelfReported := by
      rw [hattributes]
      exact hm
    obtain ⟨scope, hhandle⟩ := handle_started h chain
    have hpass : x.isErrorPass u = !isSuccessfulStatus x.status := by
      unfold isErrorPass
      rw [ha]
      rfl
    rw [hpass, hi] at hhandle
    cases hs : isSuccessfulStatus x.status with
    -- the error pass heeds what the application has said
    | false =>
      rw [hs] at hhandle
      obtain ⟨u', hu', hb⟩ := Pass.concludeError_idle x.request (chain v).status id
        (chain v).world (.inr (.inl hm'.reported))
      have hall := (hb id).thenSame (Becomes.close x.request id u' scope)
      have hlast : (x.handle c chain u).world = u'.close scope := by
        rw [hhandle]
        exact congrArg ChainEnd.world (Pass.runError_ok hu')
      rw [hlast] at hadds
      rw [hadds.calls_eq hall.calls]
      exact iff_of_false List.not_mem_nil fun hr => Bool.false_ne_true (hs.symm.trans hr.begun)
    | true =>
      rw [hs] at hhandle
      have hlast : (x.handle c chain u).world = (Pass.runNormal c x id scope chain v).world :=
        congrArg ChainEnd.world hhandle
      rw [hlast] at hadds
      refine (Pass.runNormal_finalizes_iff scope (hi ▸ hlt) hm' hadds).trans ?_
      rw [hspan, hattributes]
      exact ⟨fun ⟨h₁, h₂, h₃, h₄, h₅⟩ => ⟨hactive, h₁, h₂, hs, h₃, h₄, h₅⟩,
        fun hr => ⟨hr.unfinalized, hr.unmarked, hr.ended, hr.kept, hr.working⟩⟩
  · refine iff_of_false (fun hmem => ?_) fun hr => hi ((spanIn_eq_iff h hid).mpr hr.active)
    obtain ⟨calls', exports', hadds', hon, -⟩ := (handle_treats h hlt).adds
    rw [hadds.calls_eq hadds'.calls] at hmem
    obtain ⟨call, hcall, hf⟩ := List.mem_filterMap.mp hmem
    exact hi ((hon call hcall).eq_of_finalizes hf).symm

/-- Before its chain a pass finalizes and exports nothing. -/
theorem chainStart?_finalizesNone (h : x.chainStart? c u = some v) : FinalizesNone u v := by
  cases ha : Attribute.present? (u.attributes x.request).activeSpan with
  | none =>
    have hb := chainStart?_begins h ha
    exact ⟨_, ⟨hb.calls, hb.exports.trans (List.append_nil _).symm⟩, rfl⟩
  | some a =>
    obtain ⟨j, rfl⟩ := chainStart?_active h ha
    have hb := chainStart?_resumes h ha j
    exact ⟨_, ⟨hb.calls, hb.exports⟩, rfl⟩

theorem refused_finalizesNone (h : x.chainStart? c u = none) (chain : Chain ρ) :
    FinalizesNone u (x.handle c chain u).world := by
  obtain ⟨m, calls, hb, hcalls, -⟩ := handle_refused h chain
  refine ⟨calls, ⟨(hb 0).calls, (hb 0).exports⟩, ?_⟩
  rcases hcalls with rfl | rfl <;> rfl

end Exchange

/-! ## Main statement -/

/-- The application has reported the span of an error pass, and has neither gone asynchronous nor
asked for the span to be closed.  Whatever passes over the request have followed since, with chains
that touch neither it nor the span: the next one makes an effective finalization of the span exactly
if it started and ended with a success, the span is still active and neither finalized nor marked
so, no failure is left to an error handler, and the tracer works.  All that any pass exports is its
span, as it has finalized it. -/
theorem reported_again_iff {ρ : Type} {w v : World} {x : Exchange} {c : String} {chain : Chain ρ}
    (hw : w.Sound) (hpass : x.isErrorPass w = true) (hv : x.chainStart? c w = some v)
    (hrun : Pass.IsRun chain)
    (hreported :
      ((x.handle c chain w).world.attributes x.request).isErrorSpanReported = true)
    (hasync : ((x.handle c chain w).world.attributes x.request).isAsyncStarted = false)
    (hclose : ((x.handle c chain w).world.attributes x.request).shouldClose = false)
    {u : World} (hu : Revisited x.request (x.spanIn w) (x.handle c chain w).world u) :
    ∀ {ρ' : Type} (x' : Exchange) (c' : String) (chain' : Chain ρ'), x'.request = x.request →
      Pass.IsRun chain' →
      (∀ v', x'.chainStart? c' u = some v' →
        Untouched x.request (x.spanIn w) v' (chain' v').world) →
      let last := (x'.handle c' chain' u).world
      (x'.chainStart? c' u = none → FinalizesNone u last) ∧
      ∀ v', x'.chainStart? c' u = some v' → FinalizesNone u v' ∧
        ∃ calls exports, Adds (chain' v').world last calls exports ∧
          (x.spanIn w ∈ calls.filterMap (·.finalizes?) ↔
            ReportsAgain x' c' (x.spanIn w) u (chain' v')) ∧
          ∀ e ∈ exports, x'.spanIn u ∈ calls.filterMap (·.finalizes?) ∧
            e = (last.span (x'.spanIn u)).toExported := by
  intro ρ' x' c' chain' hrequest hrun' hchain' last
  have hstart := Exchange.chainStart?_follows hw x c hv
  have hid := Nat.lt_of_lt_of_le (Exchange.spanIn_lt hv hw) (hrun v hstart.sound).run.length_le
  have hfirst := Exchange.handle_follows hrun hw x c
  have hhandled : ((x.handle c chain w).world.attributes x.request).isErrorHandled = true := by
    obtain ⟨scope, hhandle⟩ := Exchange.handle_started hv chain
    rw [hhandle, hpass]
    exact Pass.runError_handles x scope hid
  obtain ⟨hsound, hlt, hm⟩ := hu.selfReported hfirst.sound
    (by rw [(Exchange.handle_treats hv hid).length]; exact hid)
    ⟨hhandled, hreported, hasync, hclose⟩
  refine ⟨fun hnone => Exchange.refused_finalizesNone hnone chain', fun v' hv' => ?_⟩
  have hstart' := Exchange.chainStart?_follows hsound x' c' hv'
  have hid' := Nat.lt_of_lt_of_le (Exchange.spanIn_lt hv' hsound)
    (hrun' v' hstart'.sound).run.length_le
  obtain ⟨calls, exports, hadds, -, hexports⟩ := (Exchange.handle_treats hv' hid').adds
  rw [← hrequest] at hm hchain'
  refine ⟨Exchange.chainStart?_finalizesNone hv', calls, exports, hadds,
    Exchange.handle_finalizes_iff hsound hlt hm hv' hrun' (hchain' v' hv') hadds, fun e he => ?_⟩
  obtain ⟨-, hspan, hmem⟩ := hexports e he
  exact ⟨hmem, hspan⟩

/-- The world after a request has failed under an error handler after a success. -/
def failedWorld : World :=
  ((visit 0).handle "c" (runActions outerRequest 0 [.status 200, .raise { kind := .valueError }])
    handlingWorld).world

/-- The chain of an error pass that says that the span is reported. -/
def reporting : Chain (List Answer) :=
  runActions outerRequest 500 [.store none .markErrorSpanReported]

/-- A chain that answers with a success. -/
def forwarding : Chain Unit := fun w => { world := w, status := 200, reply := () }

/-- After an error pass over the request and a further one, a forward reports the span. -/
theorem forwarded_reported_again :
    let first := ((visit 500).handle "c" reporting failedWorld).world
    let u := ((visit 404).handle "c" answering first).world
    let last := ((visit 200).handle "c" forwarding u).world
    ∃ v calls exports, (visit 200).chainStart? "c" u = some v ∧ Adds v last calls exports ∧
      0 ∈ calls.filterMap (·.finalizes?) ∧ ∀ e ∈ exports, e = (last.span 0).toExported := by
  intro first u last
  have hw : failedWorld.Sound :=
    (Exchange.handle_follows (fun v hv => runActions_follows outerRequest 0 _ hv)
      (fun _ _ hr => by cases hr) (visit 0) "c").sound
  have hid : (visit 500).spanIn failedWorld = 0 := by decide +kernel
  have hu : Revisited outerRequest ((visit 500).spanIn failedWorld) first u :=
    .pass "c" .start rfl (fun v hv => .refl hv) fun v _ => ⟨rfl, rfl⟩
  obtain ⟨v₀, hv₀⟩ : ∃ v, (visit 500).chainStart? "c" failedWorld = some v :=
    Option.isSome_iff_exists.mp (by decide +kernel)
  obtain ⟨v, hv⟩ : ∃ v, (visit 200).chainStart? "c" u = some v :=
    Option.isSome_iff_exists.mp (by decide +kernel)
  obtain ⟨-, hnext⟩ := reported_again_iff hw (by decide +kernel) hv₀
    (fun v hv => runActions_follows outerRequest 500 _ hv) (by decide +kernel) (by decide +kernel)
    (by decide +kernel) hu (visit 200) "c" forwarding rfl (fun v hv => .refl hv)
    fun v _ => ⟨rfl, rfl⟩
  obtain ⟨-, calls, exports, hadds, hagain, hexports⟩ := hnext v hv
  rw [hid] at hagain
  have hspan : (visit 200).spanIn u = 0 := by decide +kernel
  have hactive := (Exchange.spanIn_eq_iff hv (by decide +kernel)).mp hspan
  have hopen := Exchange.chainStart?_resumes hv (congrArg Attribute.present? hactive) 0
  have hreports : ReportsAgain (visit 200) "c" 0 u (forwarding v) :=
    { active := hactive
      unfinalized := by decide +kernel
      unmarked := by decide +kernel
      begun := rfl
      ended := rfl
      kept := ⟨true, hopen.answer "c", rfl⟩
      working := congrArg (Failures.of? · .finalize) hopen.failures }
  rw [hspan] at hexports
  exact ⟨v, calls, exports, hv, hadds, hagain.mpr hreports, fun e he => (hexports e he).2⟩

/-- A span that the application has reported is finalized and exported by a forward that touches
neither it nor its request. -/
theorem selfReported_span_exported :
    let first := ((visit 500).handle "c" reporting failedWorld).world
    let m := first.attributes outerRequest
    let last := ((visit 200).handle "c" forwarding first).world
    (visit 500).isErrorPass failedWorld = true ∧ (visit 500).spanIn failedWorld = 0 ∧
      m.isErrorSpanReported = true ∧ m.isAsyncStarted = false ∧ m.shouldClose = false ∧
      (∀ v, Untouched outerRequest 0 v (forwarding v).world) ∧
      first.calls.filterMap (·.finalizes?) = [] ∧ first.exports.length = 0 ∧
      last.calls.filterMap (·.finalizes?) = [0] ∧ last.exports.length = 1 :=
  ⟨by decide +kernel, by decide +kernel, by decide +kernel, by decide +kernel,
    by decide +kernel, fun _ => ⟨rfl, rfl⟩, by decide +kernel, by decide +kernel,
    by decide +kernel, by decide +kernel⟩

end SpanLifecycle
