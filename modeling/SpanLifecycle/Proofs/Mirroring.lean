import SpanLifecycle.Proofs.Closing
import SpanLifecycle.Proofs.FrozenTags
import SpanLifecycle.Proofs.Recency

/-!
# Attributes mirror tags

Every tag that is set on a span before its end is set as an attribute too, if the span is sampled.
So the attributes that the span is exported with can be told from its tags and the order in which they
were set (`Span.Mirrors`): they are the newest of them, and all of them as long as there are not too
many.  What is set after the end shows in the tags alone.

A tag is set in one of three ways: as the span starts, by hand, or by tracing itself, which writes
statuses.  `TaggedIn` lists the settings of a history in their order, `Deed.Sets` those of a single
deed.  The main statement is `attributes_mirror_tags`.
-/

namespace SpanLifecycle

/-! ## What tracing sets -/

/-- A status as it is written on a span. -/
def statusTag (code : Int) : String × String := (httpStatusCode, toString code)

/-- The status that a report writes on a span, if it is that of an unsuccessful response. -/
def reportedCodes (status : Int) : List Int :=
  if status ≠ 0 ∧ ¬isSuccessfulStatus status then [status] else []

namespace Span

/-- What tracing makes of a span: it writes statuses on it, reports it and abandons it.  The statuses
that are written before the end of the span are listed first, those that are written later apart. -/
inductive Undergoes (s : Span) : List Int → List Int → Span → Prop where
  | nothing : Undergoes s [] [] s
  | tagged {early late : List Int} {t : Span} (h : Undergoes s early late t)
      (ht : t.state ≠ .finalized) (code : Int) :
      Undergoes s (early ++ [code]) late (t.tag httpStatusCode (toString code))
  | taggedLate {early late : List Int} {t : Span} (h : Undergoes s early late t)
      (ht : t.state = .finalized) (code : Int) :
      Undergoes s early (late ++ [code]) (t.tag httpStatusCode (toString code))
  | reported {early late : List Int} {t : Span} (h : Undergoes s early late t)
      (ht : t.state ≠ .finalized) (status : Int) (cause : Option Attribute) :
      Undergoes s (early ++ reportedCodes status) late (t.report status cause).finish
  | abandoned {early late : List Int} {t : Span} (h : Undergoes s early late t)
      (ht : t.state = .opened) : Undergoes s early late { t with state := .abandoned }

theorem Undergoes.stamped (s : Span) (status : Option Int) :
    ∃ early late, s.Undergoes early late (s.stamped status) := by
  cases status with
  | none => exact ⟨_, _, .nothing⟩
  | some code =>
    by_cases hs : s.state = .finalized
    · exact ⟨_, _, .taggedLate .nothing hs code⟩
    · exact ⟨_, _, .tagged .nothing hs code⟩

/-- A span that advances undergoes something. -/
theorem Undergoes.advances {s t u : Span} {early late : List Int} (h : s.Undergoes early late t)
    (hu : t.Advances u) : ∃ early late, s.Undergoes early late u := by
  induction hu with
  | refl => exact ⟨early, late, h⟩
  | tail _ hstep ih =>
    obtain ⟨early, late, h⟩ := ih
    cases hstep with
    | tagged code ht => exact ⟨_, _, h.tagged ht code⟩
    | reported status cause ht => exact ⟨_, _, h.reported ht status cause⟩
    | abandoned ht => exact ⟨_, _, h.abandoned ht⟩

/-- Up to the status and the events that a span is exported with, a report writes on it what it has to
write. -/
theorem report_eq_retagged (s : Span) (status : Int) (cause : Option Attribute) :
    s.report status cause =
      { s.retagged (reportedCodes status) with
        status := (s.report status cause).status
        events := (s.report status cause).events } := by
  unfold report reportedCodes
  split
  · next e =>
    rw [recordFault_eq]
    split
    · split
      · rw [markFailed_eq]
        rfl
      · rfl
    · rfl
  · split
    · split
      · rw [markFailed_eq]
        rfl
      · rfl
    · rfl

/-- What a recording span is tagged with is its newest attribute. -/
theorem newest_tag (s : Span) (hr : s.recording = true) (code : Int) :
    (s.tag httpStatusCode (toString code)).attributes.getLast? = some (statusTag code) := by
  unfold tag
  rw [if_pos hr]
  exact getLast?_record s.attributes _ (show httpStatusCode ≠ "" by decide)

/-! ## Spans whose attributes mirror their tags -/

/-- The attributes of a span mirror its tags: it was set `early` before its end, and `late` since then,
and its attributes are what its tags were at the end, as far as they were newest. -/
structure Mirrors (early late : List (String × String)) (s : Span) : Prop where
  recording : s.recording = true ↔ s.state ≠ .finalized
  prompt : s.state ≠ .finalized → late = []
  tags : s.tags = (Mapping.update [] early).update late
  attributes : s.attributes =
    (Mapping.update [] early).entries (SpanAttributes.newestKeys early)

namespace Mirrors

variable {s : Span} {early late : List (String × String)}

theorem tag (h : s.Mirrors early late) (hs : s.state ≠ .finalized) (key value : String) :
    (s.tag key value).Mirrors (early ++ [(key, value)]) late where
  recording := h.recording
  prompt := h.prompt
  tags := by
    -- nothing was set late yet, so what is set now comes right after the early settings
    have htags := h.tags
    rw [h.prompt hs] at htags ⊢
    unfold Span.tag
    rw [htags, Mapping.update_concat]
    rfl
  attributes := by
    rw [← SpanAttributes.record_entries, ← h.attributes]
    unfold Span.tag
    exact if_pos (h.recording.mpr hs)

theorem tagLate (h : s.Mirrors early late) (hs : s.state = .finalized) (key value : String) :
    (s.tag key value).Mirrors early (late ++ [(key, value)]) where
  recording := h.recording
  prompt hf := absurd hs hf
  tags := by
    rw [Mapping.update_concat, ← h.tags]
    rfl
  attributes := by
    rw [← h.attributes]
    unfold Span.tag
    exact if_neg fun hr => h.recording.mp hr hs

theorem retagged (h : s.Mirrors early late) (hs : s.state ≠ .finalized) (codes : List Int) :
    (s.retagged codes).Mirrors (early ++ codes.map statusTag) late := by
  induction codes generalizing s early with
  | nil =>
    rw [List.map_nil, List.append_nil]
    exact h
  | cons code rest ih =>
    rw [List.map_cons, List.append_cons]
    exact ih (h.tag hs httpStatusCode (toString code)) hs

theorem reported (h : s.Mirrors early late) (hs : s.state ≠ .finalized) (status : Int)
    (cause : Option Attribute) :
    (s.report status cause).finish.Mirrors (early ++ (reportedCodes status).map statusTag) late := by
  have hwritten := h.retagged hs (reportedCodes status)
  rw [report_eq_retagged]
  exact ⟨⟨fun hr => absurd hr Bool.false_ne_true, fun hf => absurd rfl hf⟩, fun hf => absurd rfl hf,
    hwritten.tags, hwritten.attributes⟩

theorem abandoned (h : s.Mirrors early late) (hs : s.state = .opened) :
    Mirrors early late { s with state := .abandoned } := by
  have hopen : s.state ≠ .finalized := by rw [hs]; decide
  exact ⟨⟨fun _ => nofun, fun _ => h.recording.mpr hopen⟩, fun _ => h.prompt hopen, h.tags,
    h.attributes⟩

/-- Whatever tracing does to a span, its attributes go on mirroring its tags. -/
theorem undergoes {t : Span} {codes lateCodes : List Int} (h : s.Mirrors early late)
    (ht : s.Undergoes codes lateCodes t) :
    t.Mirrors (early ++ codes.map statusTag) (late ++ lateCodes.map statusTag) := by
  induction ht with
  | nothing => simpa using h
  | tagged _ ht code ih =>
    rw [List.map_append, ← List.append_assoc]
    exact ih.tag ht httpStatusCode (toString code)
  | taggedLate _ ht code ih =>
    rw [List.map_append, ← List.append_assoc]
    exact ih.tagLate ht httpStatusCode (toString code)
  | reported _ ht status cause ih =>
    rw [List.map_append, ← List.append_assoc]
    exact ih.reported ht status cause
  | abandoned _ ht ih => exact ih.abandoned ht

end Mirrors

/-- A sampled span mirrors from its start what it is tagged with. -/
theorem IsStarted.mirrors {b : Backend} {method path : String} {s : Span}
    (h : s.IsStarted b method path)
    (hs : (decide (b = .recording) && s.context.isSampled) = true) :
    s.Mirrors [(httpMethod, method), (httpPath, path)] [] := by
  obtain ⟨t, ht, rfl⟩ := h
  have hopen : t.state ≠ .finalized := by rw [ht.state]; decide
  have hunset : t.Mirrors [] [] :=
    ⟨⟨fun _ => hopen, fun _ => ht.recording.trans hs⟩, fun _ => rfl, ht.tags, ht.attributes⟩
  exact (hunset.tag hopen httpMethod method).tag hopen httpPath path

end Span

/-! ## Settings in a history -/

/-- What a deed sets on a span, before and after the end of the span: a tag by hand, or else the statuses
that tracing writes on it. -/
inductive Deed.Sets (id : SpanId) (d : Deed) :
    List (String × String) → List (String × String) → Prop where
  | byHand {q : RequestName} {key value : String} (ha : d.actor = .acts q (.tag id key value))
      (hs : (d.before.span id).state ≠ .finalized) : Sets id d [(key, value)] []
  | byHandLate {q : RequestName} {key value : String}
      (ha : d.actor = .acts q (.tag id key value))
      (hs : (d.before.span id).state = .finalized) : Sets id d [] [(key, value)]
  | byTracing {codes lateCodes : List Int}
      (ha : ∀ q key value, d.actor ≠ .acts q (.tag id key value))
      (h : (d.before.span id).Undergoes codes lateCodes (d.after.span id)) :
      Sets id d (codes.map statusTag) (lateCodes.map statusTag)

/-- What is set on a span by the deeds of a history, from its start on: first the settings before its
end, then the later ones, each in their order. -/
inductive TaggedIn (id : SpanId) :
    List Deed → List (String × String) → List (String × String) → Prop where
  | starts {past : List Deed} {d : Deed} {method path : String}
      (hnew : d.before.spans.length ≤ id) (hid : id < d.after.spans.length)
      (hs : (d.after.span id).IsStarted d.before.backend method path) :
      TaggedIn id (past ++ [d]) [(httpMethod, method), (httpPath, path)] []
  | next {past : List Deed} {d : Deed} {early late more moreLate : List (String × String)}
      (h : TaggedIn id past early late) (hs : d.Sets id more moreLate) :
      TaggedIn id (past ++ [d]) (early ++ more) (late ++ moreLate)

/-- The calls of the tracer during a deed. -/
def Deed.calls (d : Deed) : List TracerCall := d.after.calls.drop d.before.calls.length

/-- A deed by which a span is finalized for a status that is written on it just before: that of an
unsuccessful response, which finalizing itself writes; or that of any response for which nothing was
raised, which is written by a normal pass, or by the completion of a continuation, if the span of the
request started without a parent. -/
inductive Deed.EndsWith (d : Deed) (id : SpanId) (code : Int) : Prop where
  | byTracer {cause : Option Attribute} (hcall : .finalized id code cause true ∈ d.calls)
      (hcode : code ≠ 0) (hs : isSuccessfulStatus code = false)
  | byPass {r : RequestName} (hcall : .finalized id code none true ∈ d.calls)
      (ha : d.actor = .ends r id false ∨ d.actor.takes? d.before = some (r, id))
      (hroot : (d.before.attributes r).isSpanWithoutParent = true) (hcode : 100 ≤ code)

/-! ## Deeds -/

section

variable {actor : Actor} {id : SpanId} {w w' : World}

/-- A tag that is set by hand is all that becomes of a world. -/
theorem Does.tags {q : RequestName} {key value : String}
    (h : Does (.acts q (.tag id key value)) w w') (r : RequestName) :
    Becomes r id w w' { span := (w.span id).tag key value, attributes := w.attributes r } := by
  cases h with
  | acts hm => exact .modifySpan r id w (·.tag key value) (Action.lt_of_missing? hm)

/-- Unless it is tagged by hand, tracing sets nothing but statuses on a span. -/
theorem Does.undergoes (h : Does actor w w') (hw : w.Sound)
    (ha : ∀ q key value, actor ≠ .acts q (.tag id key value)) (hid : id < w.spans.length) :
    ∃ codes lateCodes, (w.span id).Undergoes codes lateCodes (w'.span id) := by
  by_cases ht : ∃ q j key value, actor = .acts q (.tag j key value)
  · obtain ⟨q, j, key, value, rfl⟩ := ht
    have hj : id ≠ j := fun hj => ha q key value (hj ▸ rfl)
    rw [(h.tags outerRequest).span id hj]
    exact ⟨_, _, .nothing⟩
  · have hnot : actor.isTag = false := by
      unfold Actor.isTag
      split
      · exact absurd ⟨_, _, _, _, rfl⟩ ht
      · rfl
    rcases h.advances hw hnot with hadvances | ⟨hnew, -⟩
    · obtain ⟨_, _, hstamped⟩ := Span.Undergoes.stamped (w.span id) (actor.stamp? w id)
      exact hstamped.advances hadvances
    · exact absurd hnew (Nat.not_le_of_lt hid)

/-- From one world to another a span was started, and no other one. -/
structure Starts (w w' : World) : Prop where
  length : w'.spans.length = w.spans.length + 1
  span : ∃ method path, (w'.span w.spans.length).IsStarted w.backend method path

theorem Action.perform_starts {a : Action} {q : RequestName} (hm : w.missing? a = none)
    (hu : a.use? = none) : ((a.perform q).runIn w).2.spans.length = w.spans.length ∨
      Starts w ((a.perform q).runIn w).2 := by
  cases a with
  | complete | abandonAsync => cases hu
  | store o call => exact .inl (w.store_becomes _ call 0).length
  | start headers name method path =>
    unfold perform
    rw [Act.runIn_bind]
    cases hf : w.failures.of? .create with
    | some e =>
      rw [Tracer.start_failed hf]
      exact .inl rfl
    | none =>
      have hstarted := Tracer.start_span hf headers name method path
      obtain ⟨v, hv, hs⟩ := Tracer.start_ok hf headers name method path
      rw [hv] at hstarted ⊢
      obtain ⟨s, hspans, -⟩ := hs.spans
      have hlength : v.spans.length = w.spans.length + 1 := by
        rw [hspans, List.length_append]
        rfl
      exact .inr ⟨hlength, method, path, hstarted⟩
  | finalize i code failure =>
    unfold perform
    rw [runIn_map_snd]
    exact .inl (Tracer.finalize_treats outerRequest code _ (lt_of_missing? hm)).length
  | abandon i =>
    unfold perform
    rw [runIn_map_snd]
    exact .inl (Tracer.abandon_treats outerRequest (lt_of_missing? hm)).length
  | tag i key value =>
    exact .inl (Becomes.modifySpan outerRequest i w (·.tag key value) (lt_of_missing? hm)).length
  | hasErrorHandler c =>
    unfold perform
    rw [runIn_map_snd]
    obtain ⟨v, hv, -, hb⟩ := Pass.hasErrorHandler_answer c w
    rw [hv]
    exact .inl (hb outerRequest 0).length
  | close l =>
    unfold perform
    simp only [Act.runIn_bind, Act.runIn_modify, Act.runIn_pure]
    split
    · exact .inl rfl
    · next scope _ => exact .inl (Becomes.close outerRequest 0 w scope).length
  | _ => exact .inl rfl

/-- A deed starts one span at most. -/
theorem Does.starts_or_keeps (h : Does actor w w') (hw : w.Sound) :
    w'.spans.length = w.spans.length ∨ Starts w w' := by
  have hdoes := h
  cases h with
  | starts h ha =>
    exact .inr ⟨(Exchange.chainStart?_begins h ha).length, _, _, Exchange.chainStart?_span h ha⟩
  | resumes h ha => exact .inl (Exchange.chainStart?_resumes h ha 0).length
  | refuses chain h =>
    obtain ⟨m, calls, hb, -⟩ := Exchange.handle_refused h chain
    exact .inl (hb 0).length
  | endsNormal scope chain hid => exact .inl (Pass.runNormal_treats _ _ scope hid).length
  | endsError scope chain hid => exact .inl (Pass.runError_treats _ scope hid).1.length
  | @acts q status a _ hm =>
    cases hu : a.use? with
    | none =>
      rw [Action.performAt_world]
      exact Action.perform_starts hm hu
    | some use =>
      have htakes := hdoes.takes hw hu
      left
      split at htakes
      · exact htakes.length
      · exact htakes.length
  | shifts => exact .inl rfl

/-- A deed sets something on every span that there is, be it nothing. -/
theorem Deed.Sets.exist {d : Deed} (hd : Does d.actor d.before d.after) (hw : d.before.Sound)
    (hid : id < d.before.spans.length) : ∃ more moreLate, d.Sets id more moreLate := by
  by_cases ha : ∃ q key value, d.actor = .acts q (.tag id key value)
  · obtain ⟨q, key, value, ha⟩ := ha
    by_cases hs : (d.before.span id).state = .finalized
    · exact ⟨_, _, .byHandLate ha hs⟩
    · exact ⟨_, _, .byHand ha hs⟩
  · have hnot : ∀ q key value, d.actor ≠ .acts q (.tag id key value) :=
      fun q key value h => ha ⟨q, key, value, h⟩
    obtain ⟨codes, lateCodes, h⟩ := hd.undergoes hw hnot hid
    exact ⟨_, _, .byTracing hnot h⟩

theorem Deed.Sets.mirrors {d : Deed} {early late more moreLate : List (String × String)}
    (h : d.Sets id more moreLate) (hd : Does d.actor d.before d.after)
    (hs : (d.before.span id).Mirrors early late) :
    (d.after.span id).Mirrors (early ++ more) (late ++ moreLate) := by
  cases h with
  | byHand ha hstate =>
    rw [ha] at hd
    rw [(hd.tags outerRequest).itsSpan, List.append_nil]
    exact hs.tag hstate _ _
  | byHandLate ha hstate =>
    rw [ha] at hd
    rw [(hd.tags outerRequest).itsSpan, List.append_nil]
    exact hs.tagLate hstate _ _
  | byTracing ha hundergoes => exact hs.undergoes hundergoes

/-! ## Runs -/

/-- Whether a span is sampled is settled at its start. -/
theorem Step.samples (h : Step w w') (hid : id < w.spans.length) :
    w'.samples id = w.samples id := by
  have same : ∀ {j s cs es}, Change w w' j s cs es → (id = j → s.context = (w.span j).context) →
      w'.samples id = w.samples id := by
    intro j s cs es h hs
    unfold World.samples
    rw [h.backend, h.span]
    by_cases hj : id = j
    · rw [if_pos hj, hs hj, hj]
    · rw [if_neg hj]
  cases h with
  | aside _ _ _ _ h | tagged _ _ _ _ _ h | abandoned _ _ _ _ h => exact same h fun _ => rfl
  | started _ _ _ _ _ h => exact same h fun hj => absurd hj (Nat.ne_of_lt hid)
  | finalized _ _ _ _ _ _ _ h =>
    refine same h fun _ => ?_
    unfold Span.finish
    rw [Span.report_eq]

theorem Run.samples (h : Run w w') (hid : id < w.spans.length) : w'.samples id = w.samples id := by
  induction h with
  | refl => rfl
  | tail h step ih => rw [step.samples (Nat.lt_of_lt_of_le hid (Run.length_le h)), ih]

/-- What was exported of a span is not changed afterwards. -/
theorem Step.record (h : Step w w') (hl : w.Ledger) (hid : id < w.spans.length)
    (hs : (w.span id).state = .finalized) : w'.record id = w.record id := by
  have same : ∀ {j s cs es}, Change w w' j s cs es → (id = j → s.toExported = w.record j) →
      w'.record id = w.record id := by
    intro j s cs es h hj
    rw [h.record]
    split
    · next hid => rw [hj hid, hid]
    · rfl
  cases h with
  | aside _ _ _ _ h => exact same h fun _ => rfl
  | started _ _ _ _ _ h => exact same h fun hj => absurd hj (Nat.ne_of_lt hid)
  | tagged j key value _ _ h =>
    refine same h fun hj => ?_
    subst hj
    exact Span.toExported_tag ((hl.kept id hid).ended hs) key value
  | finalized j _ _ _ hopen _ _ h => exact same h fun hj => absurd (hj ▸ hs) hopen
  | abandoned j _ hopen _ h =>
    refine same h fun hj => ?_
    rw [← hj, hs] at hopen
    cases hopen

theorem Run.record (h : Run w w') (hl : w.Ledger) (hid : id < w.spans.length)
    (hs : (w.span id).state = .finalized) : w'.record id = w.record id := by
  induction h with
  | refl => rfl
  | @tail v _ h step ih =>
    have hfinal : (v.span id).state = .finalized := by
      rcases Run.moves h hid with hsame | hmoves
      · exact hsame.trans hs
      · rw [hs] at hmoves
        cases hmoves
    rw [step.record (Run.ledger h hl) (Nat.lt_of_lt_of_le hid (Run.length_le h)) hfinal, ih]

end

/-! ## Along a story -/

theorem Story.follows {past l : List Deed} {w u : World} (h : Story past w l u) (hw : w.Sound) :
    Follows w u := by
  induction h with
  | done => exact .refl hw
  | next hd _ _ ih =>
    have hv := hd.follows hw
    exact hv.trans (ih hv.sound)

/-- All spans that there are were tagged since their start. -/
theorem Story.tagged {l : List Deed} {w u : World} (h : Story [] w l u) (hw : w.IsFresh)
    {id : SpanId} (hid : id < u.spans.length) : ∃ early late, TaggedIn id l early late := by
  refine (h.run (I := fun done v => id < v.spans.length → ∃ early late, TaggedIn id done early late)
    hw.sound (fun hid => ?_) ?_).2 hid
  · rw [hw.spans] at hid
    exact absurd hid (Nat.not_lt_zero id)
  · intro before d rest _ _ hd _ hs ih hid
    by_cases hold : id < d.before.spans.length
    · obtain ⟨early, late, h⟩ := ih hold
      obtain ⟨more, moreLate, hsets⟩ := Deed.Sets.exist hd hs hold
      exact ⟨_, _, h.next hsets⟩
    · rcases hd.starts_or_keeps hs with hlength | hstarts
      · exact absurd (hlength ▸ hid) hold
      · have hle : id ≤ d.before.spans.length := by
          rw [hstarts.length] at hid
          exact Nat.le_of_lt_succ hid
        have hge := Nat.le_of_not_lt hold
        obtain ⟨method, path, hstarted⟩ := hstarts.span
        rw [← Nat.le_antisymm hle hge] at hstarted
        exact ⟨_, _, .starts hge hid hstarted⟩

/-- The attributes of sampled spans mirror the tags that were set on them. -/
theorem TaggedIn.mirrors {id : SpanId} {l : List Deed} {early late : List (String × String)}
    (h : TaggedIn id l early late) {w u : World} (hstory : Story [] w l u) (hw : w.Sound) :
    id < u.spans.length ∧ (u.samples id = true → (u.span id).Mirrors early late) := by
  induction h generalizing u with
  | starts hnew hid hs =>
    obtain ⟨hd, hsound⟩ := hstory.sound_at hw
    cases hstory.after_deed
    refine ⟨hid, fun hsamples => hs.mirrors ?_⟩
    rw [← (hd.follows hsound).run.settings.1]
    exact hsamples
  | next h hs ih =>
    obtain ⟨hd, -, hnow⟩ := hstory.at_deed
    obtain ⟨-, hsound⟩ := hstory.sound_at hw
    obtain ⟨hid, hmirrors⟩ := ih hstory.cut.1
    cases hstory.after_deed
    have hrun := (hd.follows hsound).run
    rw [← hnow] at hid hmirrors
    refine ⟨Nat.lt_of_lt_of_le hid hrun.length_le, fun hsamples => hs.mirrors hd ?_⟩
    rw [hrun.samples hid] at hsamples
    exact hmirrors hsamples

/-! ## The status at the end -/

/-- A status that a recording span was tagged with last is still its newest attribute as the span is
closed with it. -/
theorem Tracer.Closing.newest {id : SpanId} {status : Int} {cause : Option Attribute}
    {exporting : Bool} {s t : Span} {calls : List TracerCall} {exports : List ExportedSpan}
    (h : Closing id status cause exporting s t calls exports) (hr : s.recording = true)
    (hs : s.attributes.getLast? = some (statusTag status)) :
    t.attributes.getLast? = some (statusTag status) := by
  cases h with
  | idle | abandoned => exact hs
  | finalized =>
    have hkept : (s.report status cause).recording = true ∧
        (s.report status cause).attributes.getLast? = some (statusTag status) :=
      Span.report_keeps
        (P := fun t => t.recording = true ∧ t.attributes.getLast? = some (statusTag status))
        (fun _ _ _ ht => ht) (fun _ _ t ht => ⟨ht.1, t.newest_tag ht.1 status⟩) ⟨hr, hs⟩ cause
    exact hkept.2

/-- A deed that concludes a sampled span with the status of a response for which nothing was raised
leaves that status as its newest attribute, if the span of the request started without a parent. -/
theorem Concludes.newest {r : RequestName} {id : SpanId} {w w' : World} {code : Int}
    (h : Concludes r id w w') (hcall : .finalized id code none true ∈ w'.calls.drop w.calls.length)
    (hroot : (w.attributes r).isSpanWithoutParent = true) (hcode : 100 ≤ code)
    (hr : (w.span id).state ≠ .finalized → (w.span id).recording = true) :
    (w'.span id).attributes.getLast? = some (statusTag code) := by
  obtain ⟨status, cause, stamp, calls, exports, hadds, hclosing, -, hstamp⟩ := h
  rw [hadds.calls, List.drop_left] at hcall
  obtain ⟨-, rfl, hcause⟩ := hclosing.of_finalized hcall
  rw [hstamp hroot hcode hcause.symm ⟨id, hcause ▸ hcall⟩] at hclosing
  have hrecording := hr (hclosing.unfinalized hcall)
  exact hclosing.newest hrecording ((w.span id).newest_tag hrecording code)

/-- A pass ends over a span that there is. -/
theorem Does.ends_lt {r : RequestName} {id : SpanId} {error : Bool} {w w' : World}
    (h : Does (.ends r id error) w w') : id < w.spans.length := by
  cases h with
  | endsNormal _ _ hid | endsError _ _ hid => exact hid

/-- A span that a deed finalizes for a status that it has written on it has that status as its newest
attribute. -/
theorem Deed.EndsWith.newest {d : Deed} {id : SpanId} {code : Int} (h : d.EndsWith id code)
    (hd : Does d.actor d.before d.after) (hw : d.before.Sound) (hl : d.before.Ledger)
    (hs : d.after.samples id = true) :
    (d.after.record id).attributes.getLast? = some (statusTag code) := by
  have hrun := (hd.follows hw).run
  cases h with
  | byTracer hcall hcode hunsuccessful =>
    have hcontents := (hrun.ledger hl).contents id code _ (List.mem_of_mem_drop hcall) hs
    exact hcontents.newest hcode hunsuccessful
  | @byPass r hcall ha hroot hcode =>
    have hconcludes : Concludes r id d.before d.after := by
      rcases ha with ha | ha
      · exact (ha ▸ hd).ends_concludes
      · exact hd.concludes hw ha
    have hid : id < d.before.spans.length := by
      rcases ha with ha | ha
      · exact (ha ▸ hd).ends_lt
      · obtain ⟨use, -, hnext⟩ := Option.bind_eq_some_iff.mp ha
        exact hw r id (Continuation.next?_eq_some hnext).2
    -- the span was sampled before the deed as it is afterwards, so it recorded until its end
    refine hconcludes.newest hcall hroot hcode fun hopen => ?_
    rw [hrun.samples hid] at hs
    exact ((hl.kept id hid).pristine hopen).2.2.trans hs

/-- It keeps it, whatever is set on it later. -/
theorem Story.newest {l : List Deed} {w u : World} (hstory : Story [] w l u) (hw : w.IsFresh)
    {id : SpanId} (hs : u.samples id = true) {d : Deed} (hd : d ∈ l) {code : Int}
    (hends : d.EndsWith id code) :
    (u.record id).attributes.getLast? = some (statusTag code) := by
  obtain ⟨before, rest, rfl⟩ := List.append_of_mem hd
  obtain ⟨hdoes, -, hnow⟩ := hstory.at_deed
  have hbefore := hstory.cut.1.follows hw.sound
  rw [← hnow] at hbefore
  have hafter := hdoes.follows hbefore.sound
  have hrest := (hstory.after_deed.follows hafter.sound).run
  have hthen := hafter.run.ledger (hbefore.run.ledger hw.ledger)
  have hfinal : (d.after.span id).state = .finalized := by
    refine (hthen.finalized id).mpr ?_
    cases hends with
    | byTracer hcall | byPass hcall => exact World.mem_finalizedIds (List.mem_of_mem_drop hcall)
  have hid' : id < d.after.spans.length := by
    by_contra hnot
    rw [World.span_default (Nat.le_of_not_lt hnot)] at hfinal
    cases hfinal
  -- the deed has settled what is exported, so it is enough to look at the span right after it
  rw [hrest.record hthen hid' hfinal]
  refine hends.newest hdoes hbefore.sound (hbefore.run.ledger hw.ledger) ?_
  rw [← hrest.samples hid']
  exact hs

/-! ## Main statement -/

/-- The attributes of a sampled span are those of its tags that were set most recently before its end:
the entries of the last 128 keys other than the empty one, in the order in which they were set last.
If there are no more keys than that, all tags are among the attributes.  As long as the span is not
finalized these are all of its tags; what is set later shows in the tags alone.  What is exported are
these attributes, and a status that is written on the span just before it is finalized is the newest
of them. -/
theorem attributes_mirror_tags {w : World} {r : RequestName} {status : Int}
    {actions : List Action} {past future : List Deed} {id : SpanId} (hw : w.IsFresh)
    (h : history r status actions w = past ++ future) (hid : id < (now w past).spans.length)
    (hsamples : (now w past).samples id = true) :
    let u := now w past
    (∃ early late, TaggedIn id past early late) ∧
    (∀ early late, TaggedIn id past early late →
      let tags := Mapping.update [] early
      (u.span id).tags = tags.update late ∧
      ((u.span id).state ≠ .finalized → late = []) ∧
      (u.record id).attributes = tags.entries (SpanAttributes.newestKeys early) ∧
      ((tags.filter (·.1 ≠ "")).length ≤ SpanAttributes.limit →
        (u.record id).attributes.Perm (tags.filter (·.1 ≠ "")))) ∧
    ((u.span id).state = .finalized → w.exporting = true → u.record id ∈ u.exports) ∧
    ∀ d ∈ past, ∀ code, d.EndsWith id code →
      (u.record id).attributes.getLast? = some (statusTag code) := by
  intro u
  have hstory := history_story r status actions hw.sound []
  rw [h] at hstory
  have hpast := hstory.cut.1
  have hrun := (hpast.follows hw.sound).run
  have hledger := hrun.ledger hw.ledger
  refine ⟨hpast.tagged hw hid, fun early late htagged => ?_, fun hfinal hexporting => ?_,
    fun d hd code hends => hpast.newest hw hsamples hd hends⟩
  · have hmirrors := (htagged.mirrors hpast hw.sound).2 hsamples
    have hattributes : (u.record id).attributes = _ := hmirrors.attributes
    refine ⟨hmirrors.tags, hmirrors.prompt, hattributes, fun hlimit => ?_⟩
    rw [hattributes]
    exact SpanAttributes.entries_newestKeys_perm hlimit
  · rw [hledger.exports (hrun.settings.2.trans hexporting)]
    exact List.mem_map_of_mem
      (List.mem_filter.mpr ⟨(hledger.finalized id).mp hfinal, hsamples⟩)

/-- A span that is tagged by hand under 130 keys and the empty one, then under one of them again, and
once more after it was finalized. -/
def crowded : List Action :=
  .start [] "job" "GET" "/jobs" ::
    (List.range 130).map (fun n => .tag 0 (toString n) "once") ++
    [.tag 0 "" "once", .tag 0 "0" "again", .finalize 0 404 none, .tag 0 "0" "late"]

/-- Whether a call has finalized a span for a status and no failure. -/
def TracerCall.endsPlainly (id : SpanId) (code : Int) : TracerCall → Bool
  | .finalized i status none true => i == id && status == code
  | _ => false

theorem TracerCall.eq_of_endsPlainly {id : SpanId} {code : Int} {c : TracerCall}
    (h : c.endsPlainly id code = true) : c = .finalized id code none true := by
  unfold endsPlainly at h
  split at h
  · simp only [Bool.and_eq_true, beq_iff_eq] at h
    rw [h.1, h.2]
  · cases h

set_option maxRecDepth 4000 in
/-- The oldest of its tags are not exported, and neither is what was set last. -/
theorem crowded_mirrors :
    let h := history outerRequest 0 crowded {}
    let u := now {} h
    (∃ early late, TaggedIn 0 h early late ∧ (u.record 0).attributes =
      (Mapping.update [] early).entries (SpanAttributes.newestKeys early)) ∧
    u.record 0 ∈ u.exports ∧
    (u.record 0).attributes.getLast? = some (statusTag 404) ∧
    (u.record 0).attributes.length = 128 ∧
    Mapping.get? (u.record 0).attributes "1" = none ∧
    Mapping.get? (u.record 0).attributes "0" = some "again" ∧
    Mapping.get? (u.span 0).tags "0" = some "late" := by
  intro h u
  have hfresh : World.IsFresh {} := ⟨rfl, rfl, rfl, fun _ _ hr => by cases hr⟩
  have hstarted : 0 < u.spans.length := by decide +kernel
  have hsampled : u.samples 0 = true := by decide +kernel
  have hfinal : (u.span 0).state = .finalized := by decide +kernel
  have hended : (h.any fun d => d.calls.any (·.endsPlainly 0 404)) = true := by decide +kernel
  obtain ⟨⟨early, late, htagged⟩, hmirrors, hexported, hnewest⟩ :=
    attributes_mirror_tags hfresh (List.append_nil h).symm hstarted hsampled
  obtain ⟨d, hd, hcalls⟩ := List.any_eq_true.mp hended
  obtain ⟨c, hcall, hc⟩ := List.any_eq_true.mp hcalls
  rw [TracerCall.eq_of_endsPlainly hc] at hcall
  refine ⟨⟨early, late, htagged, (hmirrors early late htagged).2.2.1⟩, hexported hfinal rfl,
    hnewest d hd 404 (.byTracer hcall (by decide) (by decide)), ?_⟩
  decide +kernel

end SpanLifecycle
