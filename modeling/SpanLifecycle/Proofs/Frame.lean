import SpanLifecycle.Proofs.Attributes
import SpanLifecycle.World

/-!
# What a step leaves alone

The steps of a pass are about one request and one span.  `Within r id w w'` says that from `w` to
`w'` nothing else has changed, up to what is current, the log, and what coordinators remember;
`Becomes` adds what has come of the span, the attributes, and which calls and exports were entered
in the journal.
Both compose, so that a pass is followed step by step without looking at whole worlds.
-/

namespace SpanLifecycle

/-- What a coordinator says about an error handler: its first answer for good, before that what the
lookup says. -/
def Coordinator.answer (x : Coordinator) : Except Fault Bool :=
  match x.known with
  | some b => .ok b
  | none => x.lookup

namespace World

/-! ## Views after an elementary change -/

@[simp] theorem calls_enter (w : World) (e : Entry) :
    (w.enter e).calls = w.calls ++ (match e with | .call c => [c] | _ => []) := by
  unfold calls enter
  rw [List.filterMap_append]
  cases e <;> rfl

@[simp] theorem exports_enter (w : World) (e : Entry) :
    (w.enter e).exports = w.exports ++ (match e with | .exported s => [s] | _ => []) := by
  unfold exports enter
  rw [List.filterMap_append]
  cases e <;> rfl

/-- Logging adds at most one record, and may fix the service of a logger. -/
theorem log_eq (w : World) (logger : String) (e : LogEvent) :
    ∃ (logs : LogSetup) (rs : List LogRecord),
      w.log logger e = { w with logs, journal := w.journal ++ rs.map .log } := by
  unfold log
  split
  · exact ⟨w.logs, [], by simp⟩
  · next service _ =>
    simp only [write]
    split
    · exact ⟨_, [_], rfl⟩
    · exact ⟨w.logs.use logger, [], by simp⟩

theorem log_coordinators (w : World) (logger : String) (e : LogEvent) :
    (w.log logger e).coordinators = w.coordinators := by
  obtain ⟨logs, rs, h⟩ := w.log_eq logger e
  rw [h]

theorem span_default {w : World} {id : SpanId} (h : w.spans.length ≤ id) :
    w.span id = default := by
  unfold span
  rw [List.getD_eq_getElem?_getD, List.getElem?_eq_none h]
  rfl

theorem span_modifySpan (w : World) (id : SpanId) (f : Span → Span) (j : SpanId)
    (h : id < w.spans.length) :
    (w.modifySpan id f).span j = if j = id then f (w.span id) else w.span j := by
  unfold modifySpan span
  simp only [List.getD_eq_getElem?_getD, List.getElem?_modify]
  by_cases hj : j = id
  · subst hj
    simp [h]
  · simp [hj, Ne.symm hj]

theorem span_append {w w' : World} {s : Span} (h : w'.spans = w.spans ++ [s]) (j : SpanId) :
    w'.span j = if j = w.spans.length then s else w.span j := by
  unfold span
  rw [h, List.getD_eq_getElem?_getD, List.getD_eq_getElem?_getD, List.getElem?_append]
  rcases Nat.lt_trichotomy j w.spans.length with hj | hj | hj
  · rw [if_pos hj, if_neg (Nat.ne_of_lt hj)]
  · rw [if_neg (by omega), if_pos hj, hj, Nat.sub_self]
    rfl
  · have h₁ : [s].length ≤ j - w.spans.length := Nat.sub_pos_of_lt hj
    rw [if_neg (Nat.lt_asymm hj), if_neg (Nat.ne_of_gt hj), List.getElem?_eq_none h₁,
      List.getElem?_eq_none (Nat.le_of_lt hj)]

@[simp] theorem attributes_setAttributes (w : World) (r q : RequestName) (m : Attributes) :
    (w.setAttributes r m).attributes q = if q = r then m else w.attributes q := by
  unfold setAttributes attributes
  rw [Mapping.get?_set]
  by_cases h : q = r
  · simp only [h, if_true, Option.getD_some]
  · simp only [h, if_false]

@[simp] theorem attributes_openRequest (w : World) (r q : RequestName) :
    (w.openRequest r).attributes q = w.attributes q := by
  unfold openRequest attributes Mapping.setDefault Mapping.has
  cases h : w.requests.get? r with
  | some m => simp only [Option.isSome_some, if_true]
  | none =>
    simp only [Option.isSome_none, Bool.false_eq_true, if_false, Mapping.get?_set]
    by_cases hq : q = r
    · subst hq
      simp only [if_true, h, Option.getD_some, Option.getD_none]
    · simp only [hq, if_false]

@[simp] theorem coordinator_setCoordinator (w : World) (c d : String) (x : Coordinator) :
    (w.setCoordinator c x).coordinator d = if d = c then x else w.coordinator d := by
  unfold setCoordinator coordinator
  rw [Mapping.get?_set]
  by_cases h : d = c
  · simp only [h, if_true, Option.getD_some]
  · simp only [h, if_false]

end World

/-! ## Frames -/

/-- From one world to another nothing has changed beyond one request, one span, what is current, the
journal and what coordinators remember. -/
structure Within (r : RequestName) (id : SpanId) (w w' : World) : Prop where
  backend : w'.backend = w.backend
  exporting : w'.exporting = w.exporting
  failures : w'.failures = w.failures
  traceCount : w'.traceCount = w.traceCount
  spanCount : w'.spanCount = w.spanCount
  continuations : w'.continuations = w.continuations
  scopes : w'.scopes = w.scopes
  contextFields : w'.contextFields = w.contextFields
  length : w'.spans.length = w.spans.length
  span : ∀ j, j ≠ id → w'.span j = w.span j
  attributes : ∀ q, q ≠ r → w'.attributes q = w.attributes q
  stem : ∀ c, (w'.coordinator c).stem = (w.coordinator c).stem
  answer : ∀ c, (w'.coordinator c).answer = (w.coordinator c).answer

/-- The log and the journal are outside every frame. -/
theorem Within.of_journal (r : RequestName) (id : SpanId) (w : World) (logs : LogSetup)
    (journal : List Entry) : Within r id w { w with logs, journal } :=
  ⟨rfl, rfl, rfl, rfl, rfl, rfl, rfl, rfl, rfl, fun _ _ => rfl, fun _ _ => rfl, fun _ => rfl,
    fun _ => rfl⟩

theorem Within.refl (r : RequestName) (id : SpanId) (w : World) : Within r id w w :=
  Within.of_journal r id w w.logs w.journal

theorem Within.trans {r : RequestName} {id : SpanId} {w w' w'' : World} (h : Within r id w w')
    (g : Within r id w' w'') : Within r id w w'' where
  backend := g.backend.trans h.backend
  exporting := g.exporting.trans h.exporting
  failures := g.failures.trans h.failures
  traceCount := g.traceCount.trans h.traceCount
  spanCount := g.spanCount.trans h.spanCount
  continuations := g.continuations.trans h.continuations
  scopes := g.scopes.trans h.scopes
  contextFields := g.contextFields.trans h.contextFields
  length := g.length.trans h.length
  span j hj := (g.span j hj).trans (h.span j hj)
  attributes q hq := (g.attributes q hq).trans (h.attributes q hq)
  stem c := (g.stem c).trans (h.stem c)
  answer c := (g.answer c).trans (h.answer c)

/-- What comes of a request and its span, and what was entered about them in the journal. -/
structure Upshot where
  span : Span
  attributes : Attributes
  calls : List TracerCall := []
  exports : List ExportedSpan := []

/-- A further upshot after a first one: the later span and attributes, the entries of both. -/
def Upshot.andThen (u v : Upshot) : Upshot :=
  { v with calls := u.calls ++ v.calls, exports := u.exports ++ v.exports }

/-- From one world to another, a request and a span have come to an upshot, and nothing else has
changed. -/
structure Becomes (r : RequestName) (id : SpanId) (w w' : World) (u : Upshot) : Prop
    extends Within r id w w' where
  itsSpan : w'.span id = u.span
  itsAttributes : w'.attributes r = u.attributes
  calls : w'.calls = w.calls ++ u.calls
  exports : w'.exports = w.exports ++ u.exports

namespace Becomes

variable {r : RequestName} {id : SpanId} {w w' w'' : World} {u v : Upshot}

theorem refl (r : RequestName) (id : SpanId) (w : World) :
    Becomes r id w w { span := w.span id, attributes := w.attributes r } :=
  ⟨Within.refl r id w, rfl, rfl, (List.append_nil _).symm, (List.append_nil _).symm⟩

theorem trans (h : Becomes r id w w' u) (g : Becomes r id w' w'' v) :
    Becomes r id w w'' (u.andThen v) where
  toWithin := h.toWithin.trans g.toWithin
  itsSpan := g.itsSpan
  itsAttributes := g.itsAttributes
  calls := by rw [g.calls, h.calls, List.append_assoc]; rfl
  exports := by rw [g.exports, h.exports, List.append_assoc]; rfl

/-! ## Elementary steps -/

theorem log (r : RequestName) (id : SpanId) (w : World) (logger : String) (e : LogEvent) :
    Becomes r id w (w.log logger e) { span := w.span id, attributes := w.attributes r } := by
  obtain ⟨logs, rs, h⟩ := w.log_eq logger e
  rw [h]
  refine ⟨Within.of_journal r id w _ _, rfl, rfl, ?_, ?_⟩
  · unfold World.calls
    simp [List.filterMap_map]
  · unfold World.exports
    simp [List.filterMap_map]

theorem call (r : RequestName) (id : SpanId) (w : World) (c : TracerCall) :
    Becomes r id w (w.enter (.call c))
      { span := w.span id, attributes := w.attributes r, calls := [c] } :=
  ⟨Within.of_journal r id w _ _, rfl, rfl, w.calls_enter _, w.exports_enter _⟩

theorem exported (r : RequestName) (id : SpanId) (w : World) (s : ExportedSpan) :
    Becomes r id w (w.enter (.exported s))
      { span := w.span id, attributes := w.attributes r, exports := [s] } :=
  ⟨Within.of_journal r id w _ _, rfl, rfl, w.calls_enter _, w.exports_enter _⟩

theorem modifySpan (r : RequestName) (id : SpanId) (w : World) (f : Span → Span)
    (h : id < w.spans.length) :
    Becomes r id w (w.modifySpan id f)
      { span := f (w.span id), attributes := w.attributes r } where
  toWithin :=
    { Within.refl r id w with
      length := List.length_modify ..
      span := fun j hj => by rw [World.span_modifySpan w id f j h, if_neg hj] }
  itsSpan := by rw [World.span_modifySpan w id f id h, if_pos rfl]
  itsAttributes := rfl
  calls := (List.append_nil _).symm
  exports := (List.append_nil _).symm

theorem modifyAttributes (r : RequestName) (id : SpanId) (w : World)
    (f : Attributes → Attributes) :
    Becomes r id w (w.modifyAttributes r f)
      { span := w.span id, attributes := f (w.attributes r) } where
  toWithin :=
    { Within.refl r id w with
      attributes := fun q hq => by
        unfold World.modifyAttributes
        rw [World.attributes_setAttributes, if_neg hq] }
  itsSpan := rfl
  itsAttributes := by
    unfold World.modifyAttributes
    rw [World.attributes_setAttributes, if_pos rfl]
  calls := (List.append_nil _).symm
  exports := (List.append_nil _).symm

theorem openRequest (r : RequestName) (id : SpanId) (w : World) (q : RequestName) :
    Becomes r id w (w.openRequest q) { span := w.span id, attributes := w.attributes r } where
  toWithin :=
    { Within.refl r id w with attributes := fun p _ => World.attributes_openRequest w q p }
  itsSpan := rfl
  itsAttributes := World.attributes_openRequest w q r
  calls := (List.append_nil _).symm
  exports := (List.append_nil _).symm

theorem setCurrent (r : RequestName) (id : SpanId) (w : World) (current : Option SpanId) :
    Becomes r id w { w with current } { span := w.span id, attributes := w.attributes r } where
  toWithin := { Within.refl r id w with }
  itsSpan := rfl
  itsAttributes := rfl
  calls := (List.append_nil _).symm
  exports := (List.append_nil _).symm

theorem close (r : RequestName) (id : SpanId) (w : World) (s : Scope) :
    Becomes r id w (w.close s) { span := w.span id, attributes := w.attributes r } := by
  unfold World.close
  split
  · exact refl r id w
  · exact setCurrent r id w s.restores

/-- A coordinator may come to remember its answer. -/
theorem setCoordinator (r : RequestName) (id : SpanId) (w : World) (c : String) (x : Coordinator)
    (hs : x.stem = (w.coordinator c).stem) (ha : x.answer = (w.coordinator c).answer) :
    Becomes r id w (w.setCoordinator c x) { span := w.span id, attributes := w.attributes r } where
  toWithin :=
    { Within.refl r id w with
      stem := fun d => by
        rw [World.coordinator_setCoordinator]
        by_cases h : d = c
        · rw [if_pos h, hs, h]
        · rw [if_neg h]
      answer := fun d => by
        rw [World.coordinator_setCoordinator]
        by_cases h : d = c
        · rw [if_pos h, ha, h]
        · rw [if_neg h] }
  itsSpan := rfl
  itsAttributes := rfl
  calls := (List.append_nil _).symm
  exports := (List.append_nil _).symm

/-! ## Further steps -/

theorem thenLog (h : Becomes r id w w' u) (logger : String) (e : LogEvent) :
    Becomes r id w (w'.log logger e) u := by
  have g := Becomes.log r id w' logger e
  rw [h.itsSpan, h.itsAttributes] at g
  simpa [Upshot.andThen] using h.trans g

theorem thenModifyAttributes (h : Becomes r id w w' u) (f : Attributes → Attributes) :
    Becomes r id w (w'.modifyAttributes r f) { u with attributes := f u.attributes } := by
  have g := Becomes.modifyAttributes r id w' f
  rw [h.itsSpan, h.itsAttributes] at g
  simpa [Upshot.andThen] using h.trans g

/-- A step that changes neither the span nor the attributes. -/
theorem thenSame (h : Becomes r id w w' u)
    (g : Becomes r id w' w'' { span := w'.span id, attributes := w'.attributes r }) :
    Becomes r id w w'' u := by
  rw [h.itsSpan, h.itsAttributes] at g
  simpa [Upshot.andThen] using h.trans g

/-- A step that does not change its span changes none. -/
theorem span_eq {m : Attributes}
    (h : Becomes r id w w' { span := w.span id, attributes := m }) (j : SpanId) :
    w'.span j = w.span j := by
  by_cases hj : j = id
  · rw [hj]
    exact h.itsSpan
  · exact h.span j hj

end Becomes

end SpanLifecycle
