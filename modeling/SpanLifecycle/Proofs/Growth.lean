import SpanLifecycle.Proofs.Taking

/-!
# What all other deeds leave

A deed that uses no continuation starts spans or makes them advance (`Grows`), unless it sets a tag by
hand, and it leaves continuations alone, but for one that it may hand out.  `Does.leaves` is the one
case analysis over such deeds, as `Does.takes` is about uses.
-/

namespace SpanLifecycle

/-! ## Attributes of spans -/

namespace Mapping

variable {κ α : Type} [DecidableEq κ] {m : Mapping κ α} {k : κ}

theorem get?_concat (h : m.get? k = none) (v : α) : get? (m ++ [(k, v)]) k = some v := by
  induction m with
  | nil => simp [get?]
  | cons entry rest ih =>
    obtain ⟨k₀, v₀⟩ := entry
    by_cases hk : k₀ = k
    · simp [get?, hk] at h
    · simp only [get?, if_neg hk] at h
      simp only [List.cons_append, get?, if_neg hk]
      exact ih h

theorem get?_concat_of_ne {k' : κ} (hk : k' ≠ k) (v : α) :
    get? (m ++ [(k', v)]) k = m.get? k := by
  induction m with
  | nil => simp [get?, hk]
  | cons entry rest ih =>
    simp only [List.cons_append, get?]
    rw [ih]

theorem get?_drop_one (h : m.get? k = none) : get? (m.drop 1) k = none := by
  cases m with
  | nil => rfl
  | cons entry rest =>
    by_cases hk : entry.1 = k
    · simp [get?, hk] at h
    · simpa [get?, hk] using h

end Mapping

namespace SpanAttributes

variable {m : SpanAttributes} {key : String}

theorem get?_makeRoom (h : Mapping.get? m key = none) : Mapping.get? m.makeRoom key = none := by
  unfold makeRoom
  split
  · exact h
  · exact Mapping.get?_drop_one h

theorem get?_record (m : SpanAttributes) (value : String) (hk : key ≠ "") :
    Mapping.get? (m.record key value) key = some value := by
  unfold record
  rw [if_neg hk]
  refine Mapping.get?_concat ?_ value
  split
  · rw [Mapping.get?_erase, if_pos rfl]
  · next h => exact get?_makeRoom (Option.not_isSome_iff_eq_none.mp h)

theorem get?_record_of_ne {k : String} (value : String) (h : Mapping.get? m k = none)
    (hk : key ≠ k) : Mapping.get? (m.record key value) k = none := by
  unfold record
  split
  · exact h
  · rw [Mapping.get?_concat_of_ne hk]
    split
    · rw [Mapping.get?_erase, if_neg (Ne.symm hk)]
      exact h
    · exact get?_makeRoom h

end SpanAttributes

namespace Span

/-- A span on which nothing was set yet.  It records if it is sampled, on a backend that records. -/
structure IsUnset (b : Backend) (s : Span) : Prop where
  state : s.state = .opened
  tags : s.tags = []
  attributes : s.attributes = []
  recording : s.recording = (decide (b = .recording) && s.context.isSampled)

/-- A span as it is started: a new one, tagged with the method and the path of a request. -/
def IsStarted (b : Backend) (method path : String) (s : Span) : Prop :=
  ∃ t : Span, t.IsUnset b ∧ s = (t.tag httpMethod method).tag httpPath path

/-- A span that does not tell the status of a response yet. -/
structure IsBlank (s : Span) : Prop where
  state : s.state = .opened
  untagged : s.tags.get? httpStatusCode = none
  unset : s.attributes.get? httpStatusCode = none

theorem unset_tag {s : Span} {key : String}
    (h : Mapping.get? s.attributes httpStatusCode = none) (hk : key ≠ httpStatusCode)
    (value : String) : Mapping.get? (s.tag key value).attributes httpStatusCode = none := by
  unfold tag
  dsimp only
  split
  · exact SpanAttributes.get?_record_of_ne value h hk
  · exact h

theorem IsStarted.unset {b : Backend} {method path : String} {s : Span}
    (h : s.IsStarted b method path) : Mapping.get? s.attributes httpStatusCode = none := by
  obtain ⟨t, ht, rfl⟩ := h
  refine unset_tag (unset_tag ?_ (by decide) method) (by decide) path
  rw [ht.attributes]
  rfl

end Span

/-! ## New spans -/

namespace Tracer

variable {w : World}

theorem newSpan_isUnset (w : World) (parent : Option SpanContext) (name : String) :
    (newSpan w parent name).1.IsUnset w.backend := by
  unfold newSpan
  cases hb : w.backend <;> exact ⟨rfl, rfl, rfl, rfl⟩

/-- The span that is started is tagged with the method and the path. -/
theorem start_span (hf : w.failures.of? .create = none) (headers : Headers)
    (name method path : String) :
    (((start headers name method path).runIn w).2.span w.spans.length).IsStarted w.backend
      method path := by
  obtain ⟨traceCount, spanCount, logs, rs, h⟩ := start_eq hf headers name method path
  rw [h, World.span_append (w := w) rfl, if_pos rfl]
  exact ⟨_, newSpan_isUnset w _ name, rfl⟩

end Tracer

theorem Pass.startSpan_spans (stem : String) (x : Exchange) (w : World) :
    ((startSpan stem x).runIn w).2.spans =
      ((Tracer.start x.headers (stem ++ ":" ++ x.path) x.method x.path).runIn w).2.spans := by
  unfold startSpan
  rw [Act.runIn_bind]
  rcases (Tracer.start x.headers (stem ++ ":" ++ x.path) x.method x.path).runIn w with ⟨e | id, v⟩
  · rfl
  · simp only [Act.runIn_bind, Act.runIn_modify, Act.runIn_get, Act.runIn_when, Act.runIn_pure]
    split <;> rfl

/-- So is the span that a pass gives its request. -/
theorem Exchange.chainStart?_span {x : Exchange} {c : String} {w v : World}
    (h : x.chainStart? c w = some v)
    (ha : Attribute.present? (w.attributes x.request).activeSpan = none) :
    (v.span w.spans.length).IsStarted w.backend x.method x.path := by
  have harrive := Pass.arrived_becomes x x.request 0 w
  unfold chainStart? at h
  dsimp only at h
  rw [World.attributes_openRequest, ha] at h
  generalize Pass.noteArrival x (w.openRequest x.request) = u at harrive h
  generalize ((w.openRequest x.request).coordinator c).stem = stem at h
  cases hf : u.failures.of? .create with
  | some e =>
    simp only [Pass.startSpan_failed hf] at h
    cases h
  | none =>
    have hspans := Pass.startSpan_spans stem x u
    obtain ⟨v', -, hrun⟩ := Pass.startSpan_ok hf stem x
    have hstarted := Tracer.start_span hf x.headers (stem ++ ":" ++ x.path) x.method x.path
    rw [hrun] at h hspans
    cases h
    unfold World.span at hstarted ⊢
    rw [← hspans] at hstarted
    rw [← harrive.length, ← harrive.backend]
    exact hstarted

/-! ## What deeds leave -/

theorem Treats.advances_at {r : RequestName} {i : SpanId} {w w' : World} (h : Treats r i w w')
    (id : SpanId) : (w.span id).Advances (w'.span id) := by
  by_cases hid : id = i
  · subst hid
    exact h.advances
  · rw [h.span id hid]

/-- From one world to another a span has advanced, or it is new. -/
def Grows (id : SpanId) (w w' : World) : Prop :=
  (w.span id).Advances (w'.span id) ∨ w.spans.length ≤ id ∧ (w'.span id).IsBlank

section

variable {actor : Actor} {id : SpanId} {w w' : World}

theorem Grows.of_eq (h : w'.span id = w.span id) : Grows id w w' := .inl (by rw [h])

theorem Tracer.Started.grows {headers : Headers} {name : String}
    (h : Started headers name w w')
    (hunset : (w'.span w.spans.length).attributes.get? httpStatusCode = none) : Grows id w w' := by
  obtain ⟨s, hspans, hnew⟩ := h.spans
  have hspan := World.span_append hspans
  by_cases hid : id = w.spans.length
  · subst hid
    rw [hspan, if_pos rfl] at hunset
    refine .inr ⟨Nat.le_refl _, ?_⟩
    rw [hspan, if_pos rfl]
    exact ⟨hnew.state, hnew.untagged, hunset⟩
  · exact .of_eq (by rw [hspan, if_neg hid])

/-- The label under which an actor hands out a continuation. -/
def Actor.gives? : Actor → Option String
  | .acts _ (.startAsync label _) => some label
  | _ => none

/-- Whether an actor sets a tag by hand. -/
def Actor.isTag : Actor → Bool
  | .acts _ (.tag ..) => true
  | _ => false

/-- From one world to another an actor has left all continuations alone that it has not handed out,
and spans have grown, if none was tagged by hand. -/
structure Leaves (actor : Actor) (w w' : World) : Prop where
  continuations : ∀ label, actor.gives? ≠ some label →
    w'.continuations.get? label = w.continuations.get? label
  grows : actor.isTag = false → ∀ id, Grows id w w'

/-- A step in which continuations are the same. -/
theorem Leaves.of_grows (hc : w'.continuations = w.continuations) (hs : ∀ id, Grows id w w') :
    Leaves actor w w' := ⟨fun _ _ => by rw [hc], fun _ => hs⟩

theorem Leaves.of_becomes {m : Attributes} {calls : List TracerCall} {r : RequestName}
    (h : ∀ id, Becomes r id w w' { span := w.span id, attributes := m, calls }) :
    Leaves actor w w' :=
  .of_grows (h 0).continuations fun id => .of_eq (h id).itsSpan

theorem Leaves.of_treats {r : RequestName} {i : SpanId} (h : Treats r i w w') :
    Leaves actor w w' :=
  .of_grows h.continuations fun id => .inl (h.advances_at id)

theorem Action.perform_leaves {a : Action} {q : RequestName} (hm : w.missing? a = none)
    (hu : a.use? = none) : Leaves (.acts q a) w ((a.perform q).runIn w).2 := by
  cases a with
  | complete | abandonAsync => cases hu
  | store o call => exact .of_becomes (w.store_becomes _ call)
  | startAsync l o =>
    refine ⟨fun label hg => ?_, fun _ id => .of_eq rfl⟩
    have hl : label ≠ l := fun hl => hg (hl ▸ rfl)
    show Mapping.get? (Mapping.set _ l _) label = _
    rw [Mapping.get?_set, if_neg hl]
    rfl
  | start headers name method path =>
    unfold perform
    rw [Act.runIn_bind]
    cases hf : w.failures.of? .create with
    | some e =>
      rw [Tracer.start_failed hf]
      exact .of_becomes fun id => Becomes.call outerRequest id w _
    | none =>
      have hunset := (Tracer.start_span hf headers name method path).unset
      obtain ⟨v, hv, hs⟩ := Tracer.start_ok hf headers name method path
      rw [hv] at hunset ⊢
      exact .of_grows hs.continuations fun id => hs.grows hunset
  | finalize i code failure =>
    unfold perform
    rw [runIn_map_snd]
    exact .of_treats (Tracer.finalize_treats outerRequest code _ (lt_of_missing? hm))
  | abandon i =>
    unfold perform
    rw [runIn_map_snd]
    exact .of_treats (Tracer.abandon_treats outerRequest (lt_of_missing? hm))
  | tag => exact ⟨fun _ _ => rfl, nofun⟩
  | hasErrorHandler c =>
    unfold perform
    rw [runIn_map_snd]
    obtain ⟨v, hv, -, hb⟩ := Pass.hasErrorHandler_answer c w
    rw [hv]
    exact .of_becomes (hb outerRequest)
  | close l =>
    unfold perform
    simp only [Act.runIn_bind, Act.runIn_modify, Act.runIn_pure]
    split
    · exact .of_grows rfl fun id => .of_eq rfl
    · next scope _ =>
      have hclose := fun id => Becomes.close outerRequest id w scope
      exact .of_grows (hclose 0).continuations fun id => .of_eq (hclose id).itsSpan
  | _ => exact .of_grows rfl fun id => .of_eq rfl

/-- What a deed leaves that uses no continuation. -/
theorem Does.leaves (h : Does actor w w') (hu : actor.use? = none) : Leaves actor w w' := by
  cases h with
  | starts h ha =>
    have hb := Exchange.chainStart?_begins h ha
    refine .of_grows hb.continuations fun id => ?_
    by_cases hid : id = w.spans.length
    · subst hid
      exact .inr ⟨Nat.le_refl _, hb.span.state, hb.span.untagged,
        (Exchange.chainStart?_span h ha).unset⟩
    · exact .of_eq (hb.others id hid)
  | resumes h ha => exact .of_becomes (Exchange.chainStart?_resumes h ha)
  | refuses chain h =>
    obtain ⟨m, calls, hb, -⟩ := Exchange.handle_refused h chain
    exact .of_becomes hb
  | endsNormal scope chain hid => exact .of_treats (Pass.runNormal_treats _ _ scope hid)
  | endsError scope chain hid => exact .of_treats (Pass.runError_treats _ scope hid).1
  | acts hm =>
    rw [Action.performAt_world]
    exact Action.perform_leaves hm hu
  | shifts => exact .of_grows rfl fun id => .of_eq rfl

end

end SpanLifecycle
