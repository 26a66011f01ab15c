import SpanLifecycle.Proofs.Anonymous
import SpanLifecycle.Proofs.Current

/-!
# Two worlds that a request cannot tell apart

A request is served in a crowded world, in which others were served before it, and in one that it
has for itself.  An `Offset` says what the crowd has left: spans, exported spans, and continuations
of its own requests.  Two worlds are `Alike` if they agree on all that belongs to the request, up to
the place of its spans and up to ids.  The log, the tracer's calls and everything of other requests
is outside the relation.

Whatever is done to both worlds alike leaves them alike; the lemmas here say so of every elementary
change.
-/

namespace SpanLifecycle

/-! ## Attributes -/

/-- The attribute in the crowded world. -/
def Attribute.shift (n : Nat) : Attribute → Attribute
  | span id => .span (n + id)
  | a => a

theorem Attribute.shift_truthy (n : Nat) (a : Attribute) : (a.shift n).truthy = a.truthy := by
  cases a <;> rfl

theorem Attribute.shift_kindName (n : Nat) (a : Attribute) : (a.shift n).kindName = a.kindName := by
  cases a <;> rfl

theorem Attribute.present?_shift (n : Nat) (a : Option Attribute) :
    Attribute.present? (a.map (·.shift n)) = (Attribute.present? a).map (·.shift n) := by
  rcases a with _ | (v | _ | _ | _)
  case some.value => cases v <;> rfl
  all_goals rfl

/-- Exceptions are the same in both worlds. -/
theorem Attribute.map_fault_shift (n : Nat) (failure : Option Fault) :
    (failure.map Attribute.fault).map (·.shift n) = failure.map .fault := by
  cases failure <;> rfl

namespace Attributes

variable (n : Nat) (m : Attributes) (k : Key)

/-- The attributes in the crowded world. -/
def shift : Attributes := m.map fun entry => (entry.1, entry.2.shift n)

theorem shift_get? (key : String) : (m.shift n).get? key = (m.get? key).map (·.shift n) := by
  induction m with
  | nil => rfl
  | cons entry rest ih =>
    obtain ⟨key', a⟩ := entry
    show (if key' = key then some (a.shift n) else Mapping.get? (shift n rest) key) =
      (if key' = key then some a else Mapping.get? rest key).map (·.shift n)
    by_cases h : key' = key
    · rw [if_pos h, if_pos h]
      rfl
    · rw [if_neg h, if_neg h]
      exact ih

theorem shift_set (key : String) (a : Attribute) :
    shift n (m.set key a) = (m.shift n).set key (a.shift n) := by
  induction m with
  | nil => rfl
  | cons entry rest ih =>
    obtain ⟨key', b⟩ := entry
    show shift n (if key' = key then (key, a) :: rest else (key', b) :: Mapping.set rest key a) =
      if key' = key then (key, a.shift n) :: shift n rest
      else (key', b.shift n) :: Mapping.set (shift n rest) key (a.shift n)
    by_cases h : key' = key
    · rw [if_pos h, if_pos h]
      rfl
    · rw [if_neg h, if_neg h, ← ih]
      rfl

theorem shift_erase (key : String) : shift n (m.erase key) = (m.shift n).erase key := by
  induction m with
  | nil => rfl
  | cons entry rest ih =>
    obtain ⟨key', b⟩ := entry
    show shift n
        (if key' = key then Mapping.erase rest key else (key', b) :: Mapping.erase rest key) =
      if key' = key then Mapping.erase (shift n rest) key
      else (key', b.shift n) :: Mapping.erase (shift n rest) key
    by_cases h : key' = key
    · rw [if_pos h, if_pos h]
      exact ih
    · rw [if_neg h, if_neg h, ← ih]
      rfl

theorem shift_at? : (m.shift n).at? k = (m.at? k).map (·.shift n) := m.shift_get? n k.name

theorem shift_flag : (m.shift n).flag k = m.flag k := by
  unfold flag
  rw [shift_at?]
  cases m.at? k with
  | none => rfl
  | some a => exact a.shift_truthy n

theorem shift_requestState : (m.shift n).requestState = m.requestState.shift n := by
  unfold requestState
  rw [shift_at?]
  cases m.at? .requestState <;> rfl

theorem shift_inState (s : RequestState) : (m.shift n).inState s = m.inState s := by
  unfold inState
  rw [shift_requestState]
  cases m.requestState <;> rfl

/-- A change of attributes that has nothing to do with the place of spans. -/
def Shifts (f : Attributes → Attributes) : Prop := ∀ n m, f (shift n m) = shift n (f m)

theorem Shifts.comp {f g : Attributes → Attributes} (hf : Shifts f) (hg : Shifts g) :
    Shifts fun m => f (g m) := by
  intro n m
  dsimp only
  rw [hg, hf]

theorem put_shifts {a : Attribute} (h : ∀ n, a.shift n = a) : Shifts (·.put k a) := by
  intro n m
  refine Eq.trans ?_ (m.shift_set n k.name a).symm
  rw [h n]
  rfl

theorem drop_shifts : Shifts (·.drop k) := fun n m => (m.shift_erase n k.name).symm

theorem raiseFlag_shifts : Shifts (·.raiseFlag k) := put_shifts k fun _ => rfl

theorem markErrorHandled_shifts : Shifts (·.markErrorHandled) :=
  put_shifts .requestState fun _ => rfl

theorem markSpanContinued_shifts : Shifts (·.markSpanContinued) := by
  intro n m
  show (shift n m).markSpanContinued = shift n m.markSpanContinued
  unfold markSpanContinued
  rw [shift_inState]
  split
  · exact put_shifts .requestState (fun _ => rfl) n m
  · rfl

end Attributes

/-! ## The relation -/

/-- What all requests have in common, and none of them may change. -/
structure Setting where
  backend : Backend
  exporting : Bool
  failures : Failures
  /-- What spans are named after, and what is said about an error handler, by coordinator. -/
  stem : String → String
  answer : String → Except Fault Bool

/-- The setting that a world is. -/
def World.setting (w : World) : Setting :=
  { backend := w.backend, exporting := w.exporting, failures := w.failures
    stem := fun c => (w.coordinator c).stem, answer := fun c => (w.coordinator c).answer }

theorem Within.setting {r : RequestName} {id : SpanId} {w w' : World} (h : Within r id w w') :
    w'.setting = w.setting := by
  unfold World.setting
  rw [h.backend, h.exporting, h.failures]
  simp only [h.stem, h.answer]

/-- The continuation of a request under a label, if there is one: whether it was used. -/
def World.own? (w : World) (r : RequestName) (label : String) : Option Bool :=
  ((w.continuations.get? label).filter fun k => k.request = r).map (·.done)

/-- What tells a crowded world from one that a request has for itself. -/
structure Offset where
  setting : Setting
  /-- The number of spans that the crowd has started, and what it has exported. -/
  spans : Nat
  exports : List ExportedSpan
  /-- The requests whose continuations the crowd has left behind. -/
  others : RequestName → Prop
  /-- The name of the request in the crowded world, and in the world of its own. -/
  here : RequestName
  alone : RequestName
  /-- Labels under which the request has a continuation. -/
  labels : List String := []

namespace Offset

/-- A crowded world, and one that a request has for itself, as far as the request is concerned. -/
structure Alike (o : Offset) (w w₀ : World) : Prop where
  setting : w.setting = o.setting
  setting₀ : w₀.setting = o.setting
  length : w.spans.length = o.spans + w₀.spans.length
  span : ∀ id, (w.span (o.spans + id)).anonymous = (w₀.span id).anonymous
  current : w.current = w₀.current.map (o.spans + ·)
  attributes : w.attributes o.here = (w₀.attributes o.alone).shift o.spans
  own : ∀ label, w.own? o.here label = w₀.own? o.alone label
  held : ∀ label ∈ o.labels, w₀.own? o.alone label ≠ none
  owner : ∀ label k, w.continuations.get? label = some k →
    k.request = o.here ∨ o.others k.request
  exports : w.exports.map (·.anonymous) = o.exports ++ w₀.exports.map (·.anonymous)

namespace Alike

variable {o : Offset} {w w₀ : World}

theorem failures (h : o.Alike w w₀) : w.failures = w₀.failures :=
  congrArg Setting.failures (h.setting.trans h.setting₀.symm)

theorem exporting (h : o.Alike w w₀) : w.exporting = w₀.exporting :=
  congrArg Setting.exporting (h.setting.trans h.setting₀.symm)

theorem backend (h : o.Alike w w₀) : w.backend = w₀.backend :=
  congrArg Setting.backend (h.setting.trans h.setting₀.symm)

theorem stem (h : o.Alike w w₀) (c : String) : (w.coordinator c).stem = (w₀.coordinator c).stem :=
  congrArg (fun s : Setting => s.stem c) (h.setting.trans h.setting₀.symm)

theorem answer_eq (h : o.Alike w w₀) (c : String) :
    (w.coordinator c).answer = o.setting.answer c :=
  congrArg (fun s : Setting => s.answer c) h.setting

theorem answer_eq₀ (h : o.Alike w w₀) (c : String) :
    (w₀.coordinator c).answer = o.setting.answer c :=
  congrArg (fun s : Setting => s.answer c) h.setting₀

theorem flag (h : o.Alike w w₀) (k : Key) :
    (w.attributes o.here).flag k = (w₀.attributes o.alone).flag k := by
  rw [h.attributes]
  exact Attributes.shift_flag ..

theorem inState (h : o.Alike w w₀) (s : RequestState) :
    (w.attributes o.here).inState s = (w₀.attributes o.alone).inState s := by
  rw [h.attributes]
  exact Attributes.shift_inState ..

theorem at? (h : o.Alike w w₀) (k : Key) :
    (w.attributes o.here).at? k = ((w₀.attributes o.alone).at? k).map (·.shift o.spans) := by
  rw [h.attributes]
  exact Attributes.shift_at? ..

/-- What is stored under a key is stored in both worlds, or in neither. -/
theorem present? (h : o.Alike w w₀) (k : Key) :
    Attribute.present? ((w.attributes o.here).at? k) =
      (Attribute.present? ((w₀.attributes o.alone).at? k)).map (·.shift o.spans) := by
  rw [h.at? k]
  exact Attribute.present?_shift ..

theorem anchor (h : o.Alike w w₀) (id : SpanId) :
    w.anchor (o.spans + id) = (w₀.anchor id).map (o.spans + ·) := by
  unfold World.anchor
  rw [Span.isValid_eq (h.span id)]
  split <;> rfl

theorem isCurrent (h : o.Alike w w₀) (id : SpanId) :
    w.isCurrent (o.spans + id) = w₀.isCurrent id := by
  -- both sides compare options, and moving spans to their place does not merge any
  have hinj : Function.Injective (Option.map (o.spans + ·)) :=
    Option.map_injective fun _ _ hij => Nat.add_left_cancel hij
  unfold World.isCurrent
  rw [h.anchor, h.current]
  exact decide_eq_decide.mpr hinj.eq_iff

/-! ## Elementary changes -/

/-- A change that no request can see, in either world. -/
theorem of_becomes (h : o.Alike w w₀) {v : World}
    (hb : ∀ r id, Becomes r id w v { span := w.span id, attributes := w.attributes r })
    (hc : v.current = w.current) : o.Alike v w₀ := by
  have hb₀ := hb o.here 0
  exact
    { setting := hb₀.setting.trans h.setting
      setting₀ := h.setting₀
      length := hb₀.length.trans h.length
      span := fun id => by rw [(hb o.here _).itsSpan]; exact h.span id
      current := hc.trans h.current
      attributes := hb₀.itsAttributes.trans h.attributes
      own := fun label => by
        unfold World.own?
        rw [hb₀.continuations]
        exact h.own label
      held := h.held
      owner := fun label k hk => h.owner label k (by rw [← hb₀.continuations]; exact hk)
      exports := by rw [hb₀.exports, List.append_nil]; exact h.exports }

theorem of_becomes₀ (h : o.Alike w w₀) {v : World}
    (hb : ∀ r id, Becomes r id w₀ v { span := w₀.span id, attributes := w₀.attributes r })
    (hc : v.current = w₀.current) : o.Alike w v := by
  have hb₀ := hb o.alone 0
  exact
    { setting := h.setting
      setting₀ := hb₀.setting.trans h.setting₀
      length := h.length.trans (congrArg (o.spans + ·) hb₀.length.symm)
      span := fun id => by rw [(hb o.alone id).itsSpan]; exact h.span id
      current := by rw [hc]; exact h.current
      attributes := by rw [hb₀.itsAttributes]; exact h.attributes
      own := fun label => by
        rw [h.own label]
        unfold World.own?
        rw [hb₀.continuations]
      held := fun label hl => by
        unfold World.own?
        rw [hb₀.continuations]
        exact h.held label hl
      owner := h.owner
      exports := by rw [hb₀.exports, List.append_nil]; exact h.exports }

/-- What is done in one case only, the same one in both worlds. -/
theorem ite {b : Bool} {v v₀ : World} (h : o.Alike v v₀) (h' : o.Alike w w₀) :
    o.Alike (if b then v else w) (if b then v₀ else w₀) := by
  split
  · exact h
  · exact h'

/-- Whatever is logged. -/
theorem log (h : o.Alike w w₀) (logger logger₀ : String) (e e₀ : LogEvent) :
    o.Alike (w.log logger e) (w₀.log logger₀ e₀) :=
  (h.of_becomes (fun r id => Becomes.log r id w logger e) (w.log_current logger e)).of_becomes₀
    (fun r id => Becomes.log r id w₀ logger₀ e₀) (w₀.log_current logger₀ e₀)

/-- Whatever calls of the tracer are noted. -/
theorem call (h : o.Alike w w₀) (c c₀ : TracerCall) :
    o.Alike (w.enter (.call c)) (w₀.enter (.call c₀)) :=
  { h with
    exports := by
      rw [World.exports_enter, World.exports_enter, List.append_nil, List.append_nil]
      exact h.exports }

theorem exported (h : o.Alike w w₀) {s s₀ : ExportedSpan} (hs : s.anonymous = s₀.anonymous) :
    o.Alike (w.enter (.exported s)) (w₀.enter (.exported s₀)) :=
  { h with
    exports := by
      rw [World.exports_enter, World.exports_enter, List.map_append, List.map_append, h.exports,
        List.append_assoc]
      exact congrArg (fun t => o.exports ++ (_ ++ [t])) hs }

theorem openRequest (h : o.Alike w w₀) (r r₀ : RequestName) :
    o.Alike (w.openRequest r) (w₀.openRequest r₀) :=
  (h.of_becomes (fun q id => Becomes.openRequest q id w r) rfl).of_becomes₀
    (fun q id => Becomes.openRequest q id w₀ r₀) rfl

theorem setAttributes (h : o.Alike w w₀) (m : Attributes) :
    o.Alike (w.setAttributes o.here (m.shift o.spans)) (w₀.setAttributes o.alone m) :=
  { h with
    attributes := by
      rw [World.attributes_setAttributes, if_pos rfl, World.attributes_setAttributes, if_pos rfl] }

theorem modifyAttributes (h : o.Alike w w₀) {f : Attributes → Attributes}
    (hf : Attributes.Shifts f) :
    o.Alike (w.modifyAttributes o.here f) (w₀.modifyAttributes o.alone f) := by
  unfold World.modifyAttributes
  rw [h.attributes, hf]
  exact h.setAttributes _

/-- A span becomes active in its place. -/
theorem setActiveSpan (h : o.Alike w w₀) (id : SpanId) :
    o.Alike (w.modifyAttributes o.here (·.setActiveSpan (.span (o.spans + id))))
      (w₀.modifyAttributes o.alone (·.setActiveSpan (.span id))) := by
  have hset := h.setAttributes ((w₀.attributes o.alone).setActiveSpan (.span id))
  have hshift : ((w₀.attributes o.alone).setActiveSpan (.span id)).shift o.spans =
      (w.attributes o.here).setActiveSpan (.span (o.spans + id)) := by
    rw [h.attributes]
    exact Attributes.shift_set ..
  rw [hshift] at hset
  exact hset

theorem modifySpan (h : o.Alike w w₀) (id : SpanId) {f f₀ : Span → Span}
    (hf : (f (w.span (o.spans + id))).anonymous = (f₀ (w₀.span id)).anonymous) :
    o.Alike (w.modifySpan (o.spans + id) f) (w₀.modifySpan id f₀) := by
  refine { h with length := ?_, span := ?_ }
  · unfold World.modifySpan
    dsimp only
    rw [List.length_modify, List.length_modify]
    exact h.length
  · intro j
    rcases Nat.lt_or_ge id w₀.spans.length with hid | hid
    · have hid' : o.spans + id < w.spans.length := by
        rw [h.length]
        exact Nat.add_lt_add_left hid o.spans
      rw [World.span_modifySpan _ _ _ _ hid', World.span_modifySpan _ _ _ _ hid]
      by_cases hj : j = id
      · rw [if_pos (congrArg _ hj), if_pos hj]
        exact hf
      · rw [if_neg fun hn => hj (Nat.add_left_cancel hn), if_neg hj]
        exact h.span j
    · -- there is no such span in either world
      have hid' : w.spans.length ≤ o.spans + id := by
        rw [h.length]
        exact Nat.add_le_add_left hid o.spans
      have hsame : ∀ {v : World} {i : SpanId} (g : Span → Span), v.spans.length ≤ i →
          v.modifySpan i g = v := by
        intro v i g hi
        unfold World.modifySpan
        rw [List.modify_eq_self hi]
      rw [hsame f hid', hsame f₀ hid]
      exact h.span j

theorem modifyImpersonal (h : o.Alike w w₀) (id : SpanId) {f : Span → Span}
    (hf : Span.Impersonal f) : o.Alike (w.modifySpan (o.spans + id) f) (w₀.modifySpan id f) :=
  h.modifySpan id (hf.anonymous_eq (h.span id))

theorem addSpan (h : o.Alike w w₀) {s s₀ : Span} (hs : s.anonymous = s₀.anonymous) :
    o.Alike { w with spans := w.spans ++ [s] } { w₀ with spans := w₀.spans ++ [s₀] } := by
  refine { h with length := ?_, span := ?_ }
  · simp only [List.length_append]
    rw [h.length, Nat.add_assoc]
    rfl
  · intro j
    have happend : ∀ (v : World) (t : Span) (i : SpanId),
        World.span { v with spans := v.spans ++ [t] } i =
          if i = v.spans.length then t else v.span i := fun v t i => World.span_append rfl i
    rw [happend, happend, h.length]
    by_cases hj : j = w₀.spans.length
    · rw [if_pos (congrArg _ hj), if_pos hj]
      exact hs
    · rw [if_neg fun hn => hj (Nat.add_left_cancel hn), if_neg hj]
      exact h.span j

theorem setCurrent (h : o.Alike w w₀) (current : Option SpanId) :
    o.Alike { w with current := current.map (o.spans + ·) } { w₀ with current } :=
  { h with current := rfl }

theorem activate (h : o.Alike w w₀) (id : SpanId) :
    o.Alike (w.activate (o.spans + id)).2 (w₀.activate id).2 :=
  { h with current := h.anchor id }

/-- A request that holds a continuation has it in both worlds, used or not. -/
theorem continuation (h : o.Alike w w₀) {label : String} (hl : label ∈ o.labels) :
    ∃ done, w.continuations.get? label = some { request := o.here, done } ∧
      w₀.continuations.get? label = some { request := o.alone, done } := by
  have hsome : ∀ {v : World} {r : RequestName} {done : Bool}, v.own? r label = some done →
      v.continuations.get? label = some { request := r, done } := by
    intro v r done hv
    unfold World.own? at hv
    obtain ⟨k, hk, hdone⟩ := Option.map_eq_some_iff.mp hv
    obtain ⟨hget, hrequest⟩ := Option.filter_eq_some_iff.mp hk
    rw [hget, ← hdone, ← of_decide_eq_true hrequest]
  -- the request holds it in its own world; the crowded one has it used or unused just the same
  obtain ⟨done, hdone⟩ := Option.ne_none_iff_exists'.mp (h.held label hl)
  exact ⟨done, hsome ((h.own label).trans hdone), hsome hdone⟩

/-- The request holds a continuation, a new one or one that it held before. -/
theorem setContinuation (h : o.Alike w w₀) (label : String) (done : Bool) :
    { o with labels := label :: o.labels : Offset }.Alike
      { w with continuations := w.continuations.set label { request := o.here, done } }
      { w₀ with continuations := w₀.continuations.set label { request := o.alone, done } } := by
  have hset : ∀ (v : World) (r : RequestName) (l : String),
      World.own? { v with continuations := v.continuations.set label { request := r, done } } r l =
        if l = label then some done else v.own? r l := by
    intro v r l
    unfold World.own?
    dsimp only
    rw [Mapping.get?_set]
    by_cases hl : l = label
    · rw [if_pos hl, if_pos hl]
      exact congrArg (Option.map Continuation.done) (Option.filter_some_pos (decide_eq_true rfl))
    · rw [if_neg hl, if_neg hl]
  refine { h with own := ?_, held := ?_, owner := ?_ }
  · intro l
    rw [hset, hset, h.own l]
  · intro l hl
    rw [hset]
    rcases List.mem_cons.mp hl with rfl | hl
    · rw [if_pos rfl]
      exact Option.some_ne_none done
    · split
      · exact Option.some_ne_none done
      · exact h.held l hl
  · intro l k hk
    dsimp only at hk
    rw [Mapping.get?_set] at hk
    by_cases hl : l = label
    · rw [if_pos hl] at hk
      cases hk
      exact .inl rfl
    · rw [if_neg hl] at hk
      exact h.owner l k hk

/-- What the request holds may be forgotten. -/
theorem forget {labels : List String} (h : { o with labels : Offset }.Alike w w₀)
    (hl : ∀ label ∈ o.labels, label ∈ labels) : o.Alike w w₀ :=
  { h with held := fun label hlabel => h.held label (hl label hlabel) }

/-! ## What is seen -/

theorem view (h : o.Alike w w₀) (a : Attribute) :
    (w.view (a.shift o.spans)).anonymous = (w₀.view a).anonymous := by
  cases a with
  | span id =>
    have hs := h.span id
    show AttributeView.span (w.span (o.spans + id)).context.anonymous _ =
      .span (w₀.span id).context.anonymous _
    rw [Span.state_eq hs]
    exact congrArg (AttributeView.span · _) (congrArg Span.context hs)
  | _ => rfl

theorem viewAll (h : o.Alike w w₀) (m : Attributes) :
    anonymousViews (w.viewAll (m.shift o.spans)) = anonymousViews (w₀.viewAll m) := by
  unfold anonymousViews World.viewAll Attributes.shift
  rw [List.map_map, List.map_map, List.map_map]
  refine congrArg (m.map ·) (funext fun entry => ?_)
  exact congrArg (entry.1, ·) (h.view entry.2)

theorem viewRequest (h : o.Alike w w₀) :
    anonymousViews (w.viewAll (w.attributes o.here)) =
      anonymousViews (w₀.viewAll (w₀.attributes o.alone)) := by
  rw [h.attributes]
  exact h.viewAll _

end Alike

end Offset

end SpanLifecycle
