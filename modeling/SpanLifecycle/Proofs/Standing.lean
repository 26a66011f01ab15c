import SpanLifecycle.Proofs.Run

/-!
# What passes and continuations may do

All that passes and continuations do to spans and requests comes down to two relations.  `Keeps`
says that no span changes its state and no request its standing; `Settles` says so with one
exception, a request and a span: if that span is finalized, then the request is marked as finalized
with it.  The ends of passes and the uses of continuations settle the request that they are about.
-/

namespace SpanLifecycle

/-! ## Standing -/

/-- From one world to another no span changes its state and no request its standing. -/
structure Keeps (w w' : World) : Prop where
  length : w.spans.length ≤ w'.spans.length
  state : ∀ j, (w'.span j).state = (w.span j).state
  attributes : ∀ q, (w.attributes q).Keeps (w'.attributes q)

namespace Keeps

variable {w w' w'' : World}

theorem refl (w : World) : Keeps w w :=
  ⟨Nat.le_refl _, fun _ => rfl, fun q => .refl (w.attributes q)⟩

theorem trans (h : Keeps w w') (g : Keeps w' w'') : Keeps w w'' where
  length := Nat.le_trans h.length g.length
  state j := (g.state j).trans (h.state j)
  attributes q := (h.attributes q).trans (g.attributes q)

theorem of_becomes {r : RequestName} {id : SpanId} {u : Upshot} (h : Becomes r id w w' u)
    (hs : u.span.state = (w.span id).state) (hm : (w.attributes r).Keeps u.attributes) :
    Keeps w w' where
  length := Nat.le_of_eq h.length.symm
  state j := by
    by_cases hj : j = id
    · rw [hj, h.itsSpan, hs]
    · rw [h.span j hj]
  attributes q := by
    by_cases hq : q = r
    · rw [hq, h.itsAttributes]
      exact hm
    · rw [h.attributes q hq]
      exact .refl _

/-- A step on anything but spans and requests. -/
theorem aside (spans : w'.spans = w.spans) (requests : w'.requests = w.requests) :
    Keeps w w' where
  length := Nat.le_of_eq (congrArg List.length spans.symm)
  state j := by
    unfold World.span
    rw [spans]
  attributes q := by
    unfold World.attributes
    rw [requests]
    exact .refl _

theorem log (w : World) (logger : String) (e : LogEvent) : Keeps w (w.log logger e) :=
  of_becomes (.log outerRequest 0 w logger e) rfl (.refl _)

theorem failed (w : World) (v : Verb) : Keeps w (w.enter (.call (.failed v))) :=
  of_becomes (.call outerRequest 0 w _) rfl (.refl _)

theorem openRequest (w : World) (r : RequestName) : Keeps w (w.openRequest r) :=
  of_becomes (.openRequest r 0 w r) rfl (.refl _)

theorem modifyAttributes (w : World) (r : RequestName) (f : Attributes → Attributes)
    (hf : (w.attributes r).Keeps (f (w.attributes r))) : Keeps w (w.modifyAttributes r f) :=
  of_becomes (.modifyAttributes r 0 w f) rfl hf

theorem tag (w : World) {id : SpanId} (hid : id < w.spans.length) (key value : String) :
    Keeps w (w.modifySpan id (·.tag key value)) :=
  of_becomes (.modifySpan outerRequest id w _ hid) rfl (.refl _)

theorem close (w : World) (s : Scope) : Keeps w (w.close s) :=
  of_becomes (.close outerRequest 0 w s) rfl (.refl _)

/-- A change that depends on a condition. -/
theorem ite {c : Prop} [Decidable c] (h : c → Keeps w w') : Keeps w (if c then w' else w) := by
  by_cases hc : c
  · rw [if_pos hc]
    exact h hc
  · rw [if_neg hc]
    exact refl w

end Keeps

/-! ## Settling -/

/-- From one world to another no other span than one changes its state, and no other request than
one its standing; and that one is marked as finalized whenever the span is finalized. -/
structure Settles (r : RequestName) (id : SpanId) (w w' : World) : Prop where
  length : w.spans.length ≤ w'.spans.length
  state : ∀ j, j ≠ id → (w'.span j).state = (w.span j).state
  attributes : ∀ q, q ≠ r → (w.attributes q).Keeps (w'.attributes q)
  active : (w'.attributes r).activeSpan = (w.attributes r).activeSpan ∨
    (w'.attributes r).activeSpan = none
  async : (w.attributes r).isAsyncStarted = true → (w'.attributes r).isAsyncStarted = true
  final : ((w'.span id).state = .finalized ∧ (w'.attributes r).isAlreadyFinalized = true) ∨
    (((w'.span id).state = .finalized ↔ (w.span id).state = .finalized) ∧
      (w'.attributes r).isAlreadyFinalized = (w.attributes r).isAlreadyFinalized)

theorem Keeps.settles {w w' : World} (h : Keeps w w') (r : RequestName) (id : SpanId) :
    Settles r id w w' where
  length := h.length
  state j _ := h.state j
  attributes q _ := h.attributes q
  active := (h.attributes r).active
  async := (h.attributes r).async
  final := .inr ⟨by rw [h.state id], (h.attributes r).final⟩

namespace Settles

variable {r : RequestName} {id : SpanId} {w w' w'' : World}

theorem refl (r : RequestName) (id : SpanId) (w : World) : Settles r id w w :=
  (Keeps.refl w).settles r id

theorem trans (h : Settles r id w w') (g : Settles r id w' w'') : Settles r id w w'' where
  length := Nat.le_trans h.length g.length
  state j hj := (g.state j hj).trans (h.state j hj)
  attributes q hq := (h.attributes q hq).trans (g.attributes q hq)
  active := g.active.elim (fun hg => h.active.imp hg.trans hg.trans) .inr
  async := g.async ∘ h.async
  final := by
    rcases g.final with hg | ⟨hg, hflag⟩
    · exact .inl hg
    · rw [hg, hflag]
      exact h.final

/-- A change to the request and its span only. -/
theorem of_becomes {u : Upshot} (h : Becomes r id w w' u)
    (active : u.attributes.activeSpan = (w.attributes r).activeSpan ∨
      u.attributes.activeSpan = none)
    (async : (w.attributes r).isAsyncStarted = true → u.attributes.isAsyncStarted = true)
    (final : (u.span.state = .finalized ∧ u.attributes.isAlreadyFinalized = true) ∨
      ((u.span.state = .finalized ↔ (w.span id).state = .finalized) ∧
        u.attributes.isAlreadyFinalized = (w.attributes r).isAlreadyFinalized)) :
    Settles r id w w' where
  length := Nat.le_of_eq h.length.symm
  state j hj := congrArg Span.state (h.span j hj)
  attributes q hq := by
    rw [h.attributes q hq]
    exact .refl _
  active := by rwa [h.itsAttributes]
  async := by rwa [h.itsAttributes]
  final := by rwa [h.itsSpan, h.itsAttributes]

theorem thenKeeps (h : Settles r id w w') (g : Keeps w' w'') : Settles r id w w'' :=
  h.trans (g.settles r id)

/-- A computation settles if its first part does, and the rest from wherever that ends. -/
theorem bind {α β : Type} {a : Act α} {f : α → Act β} (h : Settles r id w (a.runIn w).2)
    (g : ∀ x v, a.runIn w = (.ok x, v) → Settles r id w v → Settles r id v ((f x).runIn v).2) :
    Settles r id w ((a >>= f).runIn w).2 :=
  Act.runIn_bind_rel (R := Settles r id) trans h g

end Settles

namespace Tracer

variable {id : SpanId} {w : World}

/-- An operation that is bound to fail has done nothing before it does. -/
theorem failing_keeps {α : Type} (verb : Verb) (e : Fault) (w : World) :
    Keeps w ((do failIfTold verb; throw e : Act α).runIn w).2 := by
  rw [Act.runIn_bind]
  cases hf : w.failures.of? verb with
  | none =>
    rw [failIfTold_of_none hf]
    exact .refl w
  | some e =>
    rw [failIfTold_of_some hf]
    exact .failed w verb

/-- A finalization settles the span's request if that is marked when it takes effect. -/
theorem finalize_settles (r : RequestName) (status : Int) (cause : Option Attribute)
    (hid : id < w.spans.length) :
    let done := (finalize status cause id).runIn w
    Settles r id w (match done.1 with
      | .ok true => done.2.modifyAttributes r (·.raiseFlag .alreadyFinalized)
      | _ => done.2) := by
  have h := finalize_outcome status cause hid
  generalize (finalize status cause id).runIn w = out at h
  cases h with
  | failed e _ => exact (Keeps.failed w _).settles r id
  | late w' _ hw => exact (Keeps.of_becomes (hw r) rfl (.refl _)).settles r id
  | refused e _ _ => exact .refl r id w
  | effective w' _ _ hw =>
    refine .of_becomes ((hw r).thenModifyAttributes (·.raiseFlag .alreadyFinalized)) (.inl ?_)
      (fun hasync => ?_) (.inl ⟨rfl, ?_⟩)
    · simp [finalizedUpshot]
    · simpa [finalizedUpshot] using hasync
    · simp [finalizedUpshot, Attribute.truthy, Value.truthy]

/-- However a finalization goes, it leaves all requests and all other spans alone. -/
theorem finalize_becomes (r : RequestName) (status : Int) (cause : Option Attribute)
    (hid : id < w.spans.length) :
    ∃ s calls exports, Becomes r id w ((finalize status cause id).runIn w).2
      { span := s, attributes := w.attributes r, calls, exports } := by
  have h := finalize_outcome status cause hid
  generalize (finalize status cause id).runIn w = out at h
  cases h with
  | failed e _ => exact ⟨_, _, _, .call r id w _⟩
  | late w' _ h => exact ⟨_, _, _, h r⟩
  | refused e _ _ => exact ⟨_, _, _, .refl r id w⟩
  | effective w' _ _ h => exact ⟨_, _, _, h r⟩

/-- So does an abandonment, and it never finalizes. -/
theorem abandon_becomes (r : RequestName) (hid : id < w.spans.length) :
    ∃ s calls, (s.state = .finalized ↔ (w.span id).state = .finalized) ∧
      Becomes r id w ((abandon id).runIn w).2
        { span := s, attributes := w.attributes r, calls } := by
  have h := abandon_outcome hid
  generalize (abandon id).runIn w = out at h
  cases h with
  | failed e _ => exact ⟨_, _, Iff.rfl, .call r id w _⟩
  | late w' _ h => exact ⟨_, _, Iff.rfl, h r⟩
  | effective w' hs h => exact ⟨_, _, by rw [hs]; exact ⟨nofun, nofun⟩, h r⟩

theorem abandon_settles (r : RequestName) (hid : id < w.spans.length) :
    Settles r id w ((abandon id).runIn w).2 := by
  obtain ⟨s, calls, hs, h⟩ := abandon_becomes r hid
  exact .of_becomes h (.inl rfl) (fun hasync => hasync) (.inr ⟨hs, rfl⟩)

end Tracer

/-! ## The ends of passes -/

namespace Pass

variable {id : SpanId} {w : World}

theorem marked_keeps (d : Decision) (r : RequestName) (status : Int) (hid : id < w.spans.length) :
    Keeps w (marked d r status id w) := by
  have htag : Keeps w (if d.tagStatus && (w.span id).state != .finalized then
      w.modifySpan id (·.tag httpStatusCode (toString status)) else w) :=
    .ite fun _ => .tag w hid _ _
  refine htag.trans (.ite fun _ => .modifyAttributes _ r _ ⟨.inr (by simp), ?_, by simp⟩)
  intro hasync
  simpa using hasync

/-- What is pending may be forgotten. -/
theorem takePendingException_keeps (w : World) (r : RequestName) :
    Keeps w (w.modifyAttributes r fun m => m.takePendingException.2) := by
  refine .modifyAttributes w r _ ⟨.inl (by simp), ?_, by simp⟩
  intro hasync
  simpa using hasync

theorem carryOut_settles (v : Verdict) (r : RequestName) (status : Int) (failure : Option Fault)
    (hid : id < w.spans.length) :
    Settles r id w ((carryOut v r status id failure).runIn w).2 := by
  unfold carryOut
  cases v with
  | defer => exact .refl r id w
  | abandon =>
    rw [Act.runIn_discard]
    have h := Tracer.abandon_settles r hid
    revert h
    rcases (Tracer.abandon id).runIn w with ⟨e | b, v⟩ <;> exact fun h => h
  | finalize =>
    have h := Tracer.finalize_settles r status (failure.map .fault) hid
    rw [Act.runIn_bind]
    revert h
    rcases (Tracer.finalize status (failure.map .fault) id).runIn w with ⟨e | b, v⟩
    · exact fun h => h
    · intro h
      cases b with
      | false => exact h
      | true => cases failure with
        | none => exact h.thenKeeps (takePendingException_keeps _ r)
        | some e => exact h

theorem settle_settles (c : String) (r : RequestName) (status : Int) (failure : Option Fault)
    (hid : id < w.spans.length) :
    Settles r id w ((settle c r status id failure).runIn w).2 := by
  obtain ⟨v, hv, -, hb⟩ := hasErrorHandler_answer c w
  have hkeeps : Keeps w v := .of_becomes (hb r id) rfl (.refl _)
  unfold settle
  refine .bind (by rw [hv]; exact hkeeps.settles r id) fun b u hu _ => ?_
  rw [hv] at hu
  obtain rfl : v = u := congrArg Prod.snd hu
  simp only [Act.runIn_bind, Act.runIn_get, Act.runIn_modify, applyDecision_runIn]
  generalize (outcome v r status id failure b).decide = d
  have hlog := Keeps.log v logger
    { severity := .debug, event := "span_decision"
      fields := [("verdict", .text d.verdict.label), ("reason", .text d.reason.label),
        ("status_code", .int status)] ++ Tracer.idFields (v.span id) }
  have hid' := Nat.lt_of_lt_of_le hid (hkeeps.trans hlog).length
  have hmark := marked_keeps d r status hid'
  exact ((hlog.trans hmark).settles r id).trans
    (carryOut_settles d.verdict r status failure (Nat.lt_of_lt_of_le hid' hmark.length))

theorem conclude_settles (c : String) (r : RequestName) (status : Int) (failure : Option Fault)
    (hid : id < w.spans.length) :
    Settles r id w ((conclude c r status (some id) failure).runIn w).2 := by
  unfold conclude
  rw [Act.runIn_bind, Act.runIn_get]
  dsimp only
  split
  · exact (Keeps.log w logger _).settles r id
  · exact settle_settles c r status failure hid

theorem handled_keeps (r : RequestName) (w : World) : Keeps w (handled r w) := by
  have hmark : Keeps w (w.modifyAttributes r (·.markErrorHandled)) := by
    refine .modifyAttributes w r _ ⟨.inl (Attributes.markErrorHandled_activeSpan _), ?_, by simp⟩
    intro hasync
    simpa using hasync
  exact hmark.trans (takePendingException_keeps _ r)

theorem concludeError_settles (r : RequestName) (status : Int) (hid : id < w.spans.length) :
    Settles r id w ((concludeError r status id).runIn w).2 := by
  by_cases hidle : (w.attributes r).isAsyncStarted = true ∨
      (w.attributes r).isErrorSpanReported = true ∨ (w.attributes r).isAlreadyFinalized = true
  · obtain ⟨w', h, hb⟩ := concludeError_idle r status id w hidle
    rw [h]
    refine (Keeps.of_becomes (hb id) rfl ⟨.inl ?_, fun hasync => ?_, ?_⟩).settles r id
    · exact Attributes.markErrorHandled_activeSpan _
    · simpa using hasync
    · simp
  · simp only [not_or, Bool.not_eq_true] at hidle
    rw [concludeError_runIn r status id w hidle.1 hidle.2.1 hidle.2.2]
    have hkeeps := handled_keeps r w
    have h := Tracer.finalize_settles r status
      (Attribute.present? (w.attributes r).pendingException)
      (Nat.lt_of_lt_of_le hid hkeeps.length)
    refine (hkeeps.settles r id).trans ?_
    revert h
    rcases (Tracer.finalize status _ id).runIn (handled r w) with ⟨e | b, v⟩
    · exact fun h => h
    · cases b <;> exact fun h => h

variable {ρ : Type} {chain : Chain ρ}

/-- The end of a normal pass settles its request and its span. -/
theorem runNormal_ends (c : String) (x : Exchange) (scope : Scope)
    (hid : id < (chain w).world.spans.length) :
    Settles x.request id (chain w).world (runNormal c x id scope chain w).world := by
  have hnote : Keeps (chain w).world (noteFailure x (chain w).raised (chain w).world) :=
    .of_becomes (noteFailure_becomes x (chain w).raised id (chain w).world) rfl (.noted _ _)
  have h := conclude_settles c x.request (chain w).status (failureOf (chain w).raised)
    (Nat.lt_of_lt_of_le hid hnote.length)
  rw [← finishWith_snd _ (chain w).raised] at h
  exact ((hnote.settles x.request id).trans h).thenKeeps (.close _ scope)

/-- The end of an error pass does as well. -/
theorem runError_ends (x : Exchange) (scope : Scope)
    (hid : id < (chain w).world.spans.length) :
    Settles x.request id (chain w).world (runError x id scope chain w).world := by
  have h := concludeError_settles x.request (chain w).status hid
  rw [← finishWith_snd _ (chain w).raised] at h
  exact h.thenKeeps (.close _ scope)

end Pass

/-! ## Uses of continuations -/

/-- What a use of a continuation does: it settles a request whose active span it takes, or nothing
of the kind. -/
inductive Uses (w w' : World) : Prop where
  | keeps (h : Keeps w w')
  | settles (r : RequestName) (id : SpanId)
      (ha : (w.attributes r).activeSpan = some (.span id)) (h : Settles r id w w')

namespace Continuation

variable {w : World}

theorem takeSpan_keeps (label : String) (w : World) :
    Keeps w ((takeSpan label).runIn w).2 ∧ ∀ r a v, (takeSpan label).runIn w = (.ok (some (r, a)), v) →
      (w.attributes r).activeSpan = some a := by
  cases h : w.continuations.get? label with
  | none =>
    rw [takeSpan_missing h]
    exact ⟨.refl w, fun _ _ _ hv => by cases hv⟩
  | some k =>
    cases hk : k.done with
    | true =>
      rw [takeSpan_done h hk]
      exact ⟨.log w Pass.logger _, fun _ _ _ hv => by cases hv⟩
    | false =>
      have hspent : Keeps w (spent label k w) := .aside rfl rfl
      cases ha : Attribute.present? (w.attributes k.request).activeSpan with
      | none =>
        rw [takeSpan_bare h hk ha]
        exact ⟨hspent.trans (.log _ Pass.logger _), fun _ _ _ hv => by cases hv⟩
      | some a =>
        rw [takeSpan_taken h hk ha]
        refine ⟨hspent.trans (.modifyAttributes _ k.request taken ⟨.inr (taken_activeSpan _), ?_, ?_⟩),
          fun r b v hv => ?_⟩
        · intro hasync
          rwa [taken_isAsyncStarted]
        · unfold taken
          simp
        · cases hv
          exact Attribute.of_present? ha

theorem complete_uses (hw : w.Sound) (label : String) (status : Int) (failure : Option Fault) :
    Uses w ((complete label status failure).runIn w).2 := by
  obtain ⟨hkeeps, hactive⟩ := takeSpan_keeps label w
  unfold complete
  rw [Act.runIn_bind]
  rcases h : (takeSpan label).runIn w with ⟨e | _ | ⟨r, a⟩, v⟩ <;> rw [h] at hkeeps
  · exact .keeps hkeeps
  · exact .keeps hkeeps
  · have ha := hactive r a v h
    cases a with
    | span id =>
      refine .settles r id ha ?_
      dsimp only
      rw [Act.runIn_bind, Act.runIn_get]
      simp only [Act.runIn_when]
      have hid := Nat.lt_of_lt_of_le (hw r id ha) hkeeps.length
      have htag : Keeps v (if failure.isNone && (v.attributes r).isSpanWithoutParent &&
          100 ≤ status then v.modifySpan id (·.tag httpStatusCode (toString status)) else v) :=
        .ite fun _ => .tag v hid _ _
      have hfinal := Tracer.finalize_settles r status (failure.map .fault)
        (Nat.lt_of_lt_of_le hid htag.length)
      refine ((hkeeps.trans htag).settles r id).trans ?_
      rw [Act.runIn_bind]
      revert hfinal
      rcases (Tracer.finalize status _ id).runIn _ with ⟨e | b, u⟩
      · exact fun h => h
      · cases b <;> exact fun h => h
    | _ =>
      refine .keeps (hkeeps.trans ?_)
      simp only [Act.runIn_bind, Act.runIn_get]
      split
      · exact .refl v
      · exact Tracer.failing_keeps .finalize _ v

theorem abandon_uses (hw : w.Sound) (label : String) :
    Uses w ((abandon label).runIn w).2 := by
  obtain ⟨hkeeps, hactive⟩ := takeSpan_keeps label w
  unfold abandon
  rw [Act.runIn_bind]
  rcases h : (takeSpan label).runIn w with ⟨e | _ | ⟨r, a⟩, v⟩ <;> rw [h] at hkeeps
  · exact .keeps hkeeps
  · exact .keeps hkeeps
  · have ha := hactive r a v h
    cases a with
    | span id =>
      have hid := Nat.lt_of_lt_of_le (hw r id ha) hkeeps.length
      exact .settles r id ha ((hkeeps.settles r id).trans (Tracer.abandon_settles r hid))
    | _ => exact .keeps (hkeeps.trans (Tracer.failing_keeps .abandon _ v))

end Continuation

end SpanLifecycle
