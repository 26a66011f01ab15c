import SpanLifecycle.Proofs.Tracer
import SpanLifecycle.Program
import Mathlib.Logic.Relation

/-!
# Steps

What can become of spans is little: one is started, one is tagged, or one moves from state to state
by a call that takes effect.  `Step` is that list, with a step that does nothing to spans beside it,
and `Run` is any number of steps.

The one thing that no operation may be handed is an active span that was never started.  `Follows`
says of an operation that it is a run and keeps it so; the operations of the tracer and of the
bookkeeping all follow.
-/

namespace SpanLifecycle

/-- From one world to another one span may have changed, and calls and exports were added. -/
structure Change (w w' : World) (id : SpanId) (s : Span) (calls : List TracerCall)
    (exports : List ExportedSpan) : Prop where
  backend : w'.backend = w.backend
  exporting : w'.exporting = w.exporting
  span : ∀ j, w'.span j = if j = id then s else w.span j
  calls : w'.calls = w.calls ++ calls
  exports : w'.exports = w.exports ++ exports

/-- The elementary changes. -/
inductive Step (w w' : World) : Prop where
  | aside (id : SpanId) (calls : List TracerCall) (hc : ∀ c ∈ calls, c.IsIdle)
      (hl : w'.spans.length = w.spans.length) (h : Change w w' id (w.span id) calls [])
  | started (s : Span) (name : String) (origin : Option SpanContext)
      (hs : Tracer.IsNew w.backend origin s) (hl : w'.spans.length = w.spans.length + 1)
      (h : Change w w' w.spans.length s [.created w.spans.length name] [])
  | tagged (id : SpanId) (key value : String) (hid : id < w.spans.length)
      (hl : w'.spans.length = w.spans.length)
      (h : Change w w' id ((w.span id).tag key value) [] [])
  | finalized (id : SpanId) (status : Int) (cause : Option Attribute) (hid : id < w.spans.length)
      (hs : (w.span id).state ≠ .finalized) (hc : Tracer.isRefused (w.span id) cause = false)
      (hl : w'.spans.length = w.spans.length)
      (h : Change w w' id ((w.span id).report status cause).finish
        [.finalized id status cause true]
        (if (w.span id).recording && w.exporting then
          [((w.span id).report status cause).toExported] else []))
  | abandoned (id : SpanId) (hid : id < w.spans.length) (hs : (w.span id).state = .opened)
      (hl : w'.spans.length = w.spans.length)
      (h : Change w w' id { w.span id with state := .abandoned } [.abandoned id true] [])

/-- Any number of steps. -/
abbrev Run : World → World → Prop := Relation.ReflTransGen Step

theorem Step.length_le {w w' : World} (h : Step w w') : w.spans.length ≤ w'.spans.length := by
  cases h with
  | aside _ _ _ hl | tagged _ _ _ _ hl | finalized _ _ _ _ _ _ hl | abandoned _ _ _ hl =>
    exact Nat.le_of_eq hl.symm
  | started _ _ _ _ hl => omega

/-- No span is ever forgotten. -/
theorem Run.length_le {w w' : World} (h : Run w w') : w.spans.length ≤ w'.spans.length := by
  induction h with
  | refl => exact Nat.le_refl _
  | tail _ h ih => exact Nat.le_trans ih h.length_le

/-- The active spans of all requests have been started. -/
def World.Sound (w : World) : Prop :=
  ∀ r id, (w.attributes r).at? .activeSpan = some (.span id) → id < w.spans.length

/-- Attributes in which the active span is the old one, or none, or one that was started. -/
def World.Admits (w : World) (m m' : Attributes) : Prop :=
  ∀ id, m'.at? .activeSpan = some (.span id) →
    m.at? .activeSpan = some (.span id) ∨ id < w.spans.length

theorem World.admits_of_eq {w : World} {m m' : Attributes}
    (h : m'.at? .activeSpan = m.at? .activeSpan) : w.Admits m m' := fun _ hid => .inl (h ▸ hid)

namespace Becomes

variable {r : RequestName} {id : SpanId} {w w' : World} {u : Upshot}

theorem change (h : Becomes r id w w' u) : Change w w' id u.span u.calls u.exports where
  backend := h.backend
  exporting := h.exporting
  span j := by
    by_cases hj : j = id
    · rw [if_pos hj, hj, h.itsSpan]
    · rw [if_neg hj, h.span j hj]
  calls := h.calls
  exports := h.exports

theorem sound (h : Becomes r id w w' u) (hw : w.Sound)
    (hm : w.Admits (w.attributes r) u.attributes) : w'.Sound := by
  intro q j hq
  rw [h.length]
  by_cases hr : q = r
  · subst hr
    rw [h.itsAttributes] at hq
    exact (hm j hq).elim (hw q j) fun hj => hj
  · rw [h.attributes q hr] at hq
    exact hw q j hq

end Becomes

/-- What every operation does to a sound world: a run that ends in a sound world. -/
structure Follows (w w' : World) : Prop where
  run : Run w w'
  sound : w'.Sound

namespace Follows

variable {w w' w'' : World}

theorem refl (hw : w.Sound) : Follows w w := ⟨.refl, hw⟩

theorem trans (h : Follows w w') (g : Follows w' w'') : Follows w w'' :=
  ⟨h.run.trans g.run, g.sound⟩

/-- A step that leaves all spans alone. -/
theorem of_becomes {r : RequestName} {id : SpanId} {m : Attributes} {calls : List TracerCall}
    (hw : w.Sound) (h : Becomes r id w w' { span := w.span id, attributes := m, calls })
    (hm : w.Admits (w.attributes r) m) (hc : ∀ c ∈ calls, c.IsIdle) :
    Follows w w' :=
  ⟨.single (.aside id calls hc h.length h.change), h.sound hw hm⟩

/-- A step that adds no calls either. -/
theorem of_quiet {r : RequestName} {id : SpanId} {m : Attributes} (hw : w.Sound)
    (h : Becomes r id w w' { span := w.span id, attributes := m })
    (hm : w.Admits (w.attributes r) m) : Follows w w' :=
  of_becomes hw h hm fun _ hc => absurd hc List.not_mem_nil

/-- A step on anything but spans, requests and the journal. -/
theorem aside (hw : w.Sound) (backend : w'.backend = w.backend)
    (exporting : w'.exporting = w.exporting) (spans : w'.spans = w.spans)
    (requests : w'.requests = w.requests) (journal : w'.journal = w.journal) : Follows w w' where
  run := .single <| .aside 0 [] (fun _ hc => absurd hc List.not_mem_nil) (by rw [spans])
    { backend, exporting
      span := fun j => by
        unfold World.span
        rw [spans, ite_eq_right_iff.mpr]
        intro hj
        rw [hj]
      calls := by unfold World.calls; rw [journal, List.append_nil]
      exports := by unfold World.exports; rw [journal, List.append_nil] }
  sound r id h := by
    unfold World.attributes at h
    rw [requests] at h
    rw [spans]
    exact hw r id h

theorem log (hw : w.Sound) (logger : String) (e : LogEvent) : Follows w (w.log logger e) :=
  of_quiet hw (Becomes.log outerRequest 0 w logger e) (World.admits_of_eq rfl)

theorem failed (hw : w.Sound) (v : Verb) : Follows w (w.enter (.call (.failed v))) := by
  refine of_becomes hw (Becomes.call outerRequest 0 w (.failed v)) (World.admits_of_eq rfl) ?_
  intro c hc
  rw [List.mem_singleton.mp hc]
  exact ⟨rfl, rfl⟩

theorem modifyAttributes (hw : w.Sound) (r : RequestName) (f : Attributes → Attributes)
    (hf : w.Admits (w.attributes r) (f (w.attributes r))) : Follows w (w.modifyAttributes r f) :=
  of_quiet hw (Becomes.modifyAttributes r 0 w f) hf

theorem openRequest (hw : w.Sound) (r : RequestName) : Follows w (w.openRequest r) :=
  of_quiet hw (Becomes.openRequest r 0 w r) (World.admits_of_eq rfl)

theorem tag (hw : w.Sound) {id : SpanId} (hid : id < w.spans.length) (key value : String) :
    Follows w (w.modifySpan id (·.tag key value)) := by
  have h := Becomes.modifySpan outerRequest id w (·.tag key value) hid
  exact ⟨.single (.tagged id key value hid h.length h.change), h.sound hw (World.admits_of_eq rfl)⟩

/-- A computation follows if its first part does, and the rest from wherever that ends. -/
theorem bind {α β : Type} {a : Act α} {f : α → Act β} (h : Follows w (a.runIn w).2)
    (g : ∀ x v, a.runIn w = (.ok x, v) → Follows w v → Follows v ((f x).runIn v).2) :
    Follows w ((a >>= f).runIn w).2 :=
  Act.runIn_bind_rel (R := Follows) trans h g

/-- A change that depends on a condition. -/
theorem ite {c : Prop} [Decidable c] (hw : w.Sound) (h : c → Follows w w') :
    Follows w (if c then w' else w) := by
  by_cases hc : c
  · rw [if_pos hc]
    exact h hc
  · rw [if_neg hc]
    exact refl hw

end Follows

/-! ## The tracer -/

namespace Tracer

theorem failIfTold_follows {w : World} (hw : w.Sound) (v : Verb) :
    Follows w ((failIfTold v).runIn w).2 := by
  cases hf : w.failures.of? v with
  | none =>
    rw [failIfTold_of_none hf]
    exact .refl hw
  | some e =>
    rw [failIfTold_of_some hf]
    exact .failed hw v

theorem finalize_follows (status : Int) (cause : Option Attribute) {id : SpanId} {w : World}
    (hw : w.Sound) (hid : id < w.spans.length) :
    Follows w ((finalize status cause id).runIn w).2 := by
  have h := finalize_outcome status cause hid
  generalize (finalize status cause id).runIn w = out at h
  cases h with
  | failed => exact .failed hw _
  | late w' _ h =>
    refine .of_becomes hw (h outerRequest) (World.admits_of_eq rfl) ?_
    intro c hc
    rw [List.mem_singleton.mp hc]
    exact ⟨rfl, rfl⟩
  | refused => exact .refl hw
  | effective w' hs hc h =>
    have h := h outerRequest
    exact ⟨.single (.finalized id status cause hid hs hc h.length h.change),
      h.sound hw (World.admits_of_eq rfl)⟩

theorem abandon_follows {id : SpanId} {w : World} (hw : w.Sound) (hid : id < w.spans.length) :
    Follows w ((abandon id).runIn w).2 := by
  have h := abandon_outcome hid
  generalize (abandon id).runIn w = out at h
  cases h with
  | failed => exact .failed hw _
  | late w' _ h =>
    refine .of_becomes hw (h outerRequest) (World.admits_of_eq rfl) ?_
    intro c hc
    rw [List.mem_singleton.mp hc]
    exact ⟨rfl, rfl⟩
  | effective w' hs h =>
    have h := h outerRequest
    exact ⟨.single (.abandoned id hid hs h.length h.change),
      h.sound hw (World.admits_of_eq rfl)⟩

theorem Started.follows {headers : Headers} {name : String} {w w' : World} (hw : w.Sound)
    (h : Started headers name w w') : Follows w w' := by
  obtain ⟨s, hspans, hnew⟩ := h.spans
  have hl : w'.spans.length = w.spans.length + 1 := by rw [hspans, List.length_append]; rfl
  refine ⟨.single (.started s name _ hnew hl ⟨h.backend, h.exporting,
    World.span_append hspans, h.calls, ?_⟩), ?_⟩
  · rw [h.exports, List.append_nil]
  · intro q j hq
    unfold World.attributes at hq
    rw [h.requests] at hq
    rw [hl]
    exact Nat.lt_succ_of_lt (hw q j hq)

theorem start_follows (headers : Headers) (name method path : String) {w : World}
    (hw : w.Sound) : Follows w ((start headers name method path).runIn w).2 := by
  cases hf : w.failures.of? .create with
  | some e =>
    rw [start_failed hf]
    exact .failed hw _
  | none =>
    obtain ⟨w', h, hs⟩ := start_ok hf headers name method path
    rw [h]
    exact hs.follows hw

end Tracer

/-! ## The bookkeeping -/

/-- A stored span is one that the caller holds. -/
theorem World.store_admits {w : World} {q : Option RequestName} {call : StoreCall}
    (h : w.missing? (.store q call) = none) (m : Attributes) : w.Admits m (call.run m).2 := by
  have started : ∀ id, (if id < w.spans.length then none else some HandleKind.span) = none →
      id < w.spans.length := by
    intro id hid
    split at hid
    · assumption
    · cases hid
  cases call with
  | setActiveSpan a =>
    intro id hid
    simp only [StoreCall.run, Attributes.setActiveSpan, Attributes.at?_put, if_true] at hid
    cases hid
    exact .inr (started id h)
  | setRaw key a =>
    intro id hid
    simp only [StoreCall.run, Attributes.at?_set] at hid
    split at hid
    · cases hid
      exact .inr (started id h)
    · exact .inl hid
  | deleteRaw key =>
    intro id hid
    simp only [StoreCall.run, Attributes.at?_erase] at hid
    split at hid
    · cases hid
    · exact .inl hid
  | clearActiveSpan => intro id hid; simp [StoreCall.run] at hid
  | markSpanContinued =>
    refine World.admits_of_eq ?_
    simp only [StoreCall.run, Attributes.markSpanContinued]
    split
    · simp
    · rfl
  | _ => exact World.admits_of_eq (by simp [StoreCall.run])

theorem World.store_follows {w : World} (hw : w.Sound) {q : Option RequestName} {call : StoreCall}
    (h : w.missing? (.store q call) = none) (r : RequestName) :
    Follows w (w.store r call).2 := by
  have hopen := Follows.openRequest hw r
  refine hopen.trans ?_
  refine .modifyAttributes hopen.sound r (fun m => (call.run m).2) ?_
  exact World.store_admits h _

end SpanLifecycle
