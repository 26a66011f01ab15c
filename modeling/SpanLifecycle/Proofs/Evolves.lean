import SpanLifecycle.Proofs.Records
import SpanLifecycle.Proofs.Run

/-!
# How a world evolves

Two things hold from any world to any later one.  Spans are only ever added, each with ids and a
parent of its own for good, and on the recording backend they are numbered in turn, as are the traces
that roots start (`World.Numbers`).  And every record that is logged names one span, as far as it names
any (`LogRecord.NamesOneOf`), unless the context adds ids of its own.

`World.Evolves` says both, and that whatever refers to a span refers to one that exists
(`World.Grounded`).  The operations of the tracer evolve a world, and so does every elementary change.
-/

namespace SpanLifecycle

/-- What is settled about a span as it starts: its context, and its parent. -/
def Span.identity (s : Span) : SpanContext × Option Nat := (s.context, s.parent)

theorem Span.identity_report (s : Span) (status : Int) (cause : Option Attribute) :
    (s.report status cause).identity = s.identity := by
  rw [Span.report_eq]
  rfl

namespace World

/-- The identities of all spans, in the order in which they were started. -/
def identities (w : World) : List (SpanContext × Option Nat) := w.spans.map (·.identity)

/-- The contexts of all spans, in the same order. -/
def contexts (w : World) : List SpanContext := w.spans.map (·.context)

theorem contexts_eq (w : World) : w.contexts = w.identities.map (·.1) := by
  unfold contexts identities
  rw [List.map_map]
  rfl

theorem context_mem {w : World} {id : SpanId} (hid : id < w.spans.length) :
    (w.span id).context ∈ w.contexts := by
  unfold span contexts
  rw [List.getD_eq_getElem?_getD, List.getElem?_eq_getElem hid]
  exact List.mem_map_of_mem (List.getElem_mem hid)

/-- A change that keeps the identity of a span keeps all identities. -/
theorem identities_modifySpan (w : World) (id : SpanId) {f : Span → Span}
    (hf : (f (w.span id)).identity = (w.span id).identity) :
    (w.modifySpan id f).identities = w.identities := by
  unfold identities modifySpan
  refine List.ext_getElem? fun j => ?_
  simp only [List.getElem?_map, List.getElem?_modify]
  by_cases hj : id = j
  · subst hj
    cases hs : w.spans[id]? with
    | none => rfl
    | some s =>
      have hspan : w.span id = s := by
        unfold span
        rw [List.getD_eq_getElem?_getD, hs]
        rfl
      rw [hspan] at hf
      simpa using hf
  · simp [hj]

/-- Every span that anything in a world refers to exists. -/
structure Grounded (w : World) : Prop where
  sound : w.Sound
  current : ∀ id, w.current = some id → id < w.spans.length
  scopes : ∀ label s, w.scopes.get? label = some s →
    ∀ id, s.restores = some id → id < w.spans.length

/-- The spans and traces that were started from one world to another are numbered in turn. -/
structure Numbers (w w' : World) (new : List (SpanContext × Option Nat)) : Prop where
  spanIds : new.map (·.1.spanId) = List.range' (w.spanCount + 1) new.length
  spanCount : w'.spanCount = w.spanCount + new.length
  traceIds : (new.filter (·.2.isNone)).map (·.1.traceId) =
    List.range' (w.traceCount + 1) (new.filter (·.2.isNone)).length
  traceCount : w'.traceCount = w.traceCount + (new.filter (·.2.isNone)).length

theorem Numbers.trans {w w' w'' : World} {new new' : List (SpanContext × Option Nat)}
    (h : w.Numbers w' new) (g : w'.Numbers w'' new') : w.Numbers w'' (new ++ new') where
  spanIds := by
    rw [List.map_append, h.spanIds, g.spanIds, h.spanCount, List.length_append,
      Nat.add_right_comm, List.range'_append_1]
  spanCount := by rw [g.spanCount, h.spanCount, List.length_append, Nat.add_assoc]
  traceIds := by
    rw [List.filter_append, List.map_append, h.traceIds, g.traceIds, h.traceCount,
      List.length_append, Nat.add_right_comm, List.range'_append_1]
  traceCount := by
    rw [g.traceCount, h.traceCount, List.filter_append, List.length_append, Nat.add_assoc]

/-- From one world to another spans were added and numbered, and records were logged that name one
span each. -/
structure Evolves (w w' : World) : Prop where
  grounded : w'.Grounded
  backend : w'.backend = w.backend
  started : ∃ new, w'.identities = w.identities ++ new ∧
    (w.backend = .recording → w.Numbers w' new)
  logged : w.contextFields.IsPlain → LogRecord.IsPlain w'.contextFields ∧
    ∃ entries, w'.journal = w.journal ++ entries ∧
      ∀ r, Entry.log r ∈ entries → r.NamesOneOf w'.contexts

/-! ## Elementary changes -/

namespace Grounded

variable {w w' : World}

/-- A world in which nothing has been traced yet. -/
theorem of_untouched (requests : w.requests = []) (current : w.current = none)
    (scopes : w.scopes = []) : w.Grounded where
  sound r id h := by
    unfold attributes at h
    rw [requests] at h
    cases h
  current id h := by
    rw [current] at h
    cases h
  scopes label s h := by
    rw [scopes] at h
    cases h

/-- A change that refers to no further span. -/
theorem aside (hw : w.Grounded) (hsound : w'.Sound) (length : w.spans.length ≤ w'.spans.length)
    (current : w'.current = w.current) (scopes : w'.scopes = w.scopes) : w'.Grounded where
  sound := hsound
  current id hid := Nat.lt_of_lt_of_le (hw.current id (current ▸ hid)) length
  scopes label s hs id hid :=
    Nat.lt_of_lt_of_le (hw.scopes label s (scopes ▸ hs) id hid) length

/-- Another span is current, if any. -/
theorem setCurrent (hw : w.Grounded) {current : Option SpanId}
    (h : ∀ id, current = some id → id < w.spans.length) : Grounded { w with current } where
  sound := hw.sound
  current := h
  scopes := hw.scopes

theorem currentContext_mem (hw : w.Grounded) {c : SpanContext} (h : w.currentContext = some c) :
    c ∈ w.contexts := by
  obtain ⟨id, hid, rfl⟩ := Option.map_eq_some_iff.mp h
  exact context_mem (hw.current id hid)

end Grounded

theorem anchor_lt {w : World} {id : SpanId} (hid : id < w.spans.length) :
    ∀ j, w.anchor id = some j → j < w.spans.length := by
  intro j hj
  unfold anchor at hj
  split at hj
  · cases hj
    exact hid
  · cases hj

namespace Evolves

variable {w w' w'' : World}

theorem contexts_subset (h : w.Evolves w') : w.contexts ⊆ w'.contexts := by
  obtain ⟨new, hnew, -⟩ := h.started
  rw [contexts_eq, contexts_eq, hnew, List.map_append]
  exact List.subset_append_left _ _

theorem length_le (h : w.Evolves w') : w.spans.length ≤ w'.spans.length := by
  obtain ⟨new, hnew, -⟩ := h.started
  have hlength := congrArg List.length hnew
  unfold identities at hlength
  rw [List.length_append, List.length_map, List.length_map] at hlength
  omega

/-- A change that starts no span, with entries in the journal. -/
theorem of_same (hw' : w'.Grounded) (backend : w'.backend = w.backend)
    (identities : w'.identities = w.identities) (spanCount : w'.spanCount = w.spanCount)
    (traceCount : w'.traceCount = w.traceCount)
    (contextFields : w'.contextFields = w.contextFields) (entries : List Entry)
    (journal : w'.journal = w.journal ++ entries)
    (hentries : w.contextFields.IsPlain → ∀ r, Entry.log r ∈ entries → r.NamesOneOf w'.contexts) :
    w.Evolves w' where
  grounded := hw'
  backend := backend
  started := ⟨[], by rw [identities, List.append_nil],
    fun _ => ⟨rfl, spanCount, rfl, traceCount⟩⟩
  logged h := ⟨contextFields ▸ h, entries, journal, hentries h⟩

/-- A change that enters nothing in the journal either. -/
theorem aside (hw' : w'.Grounded) (backend : w'.backend = w.backend)
    (identities : w'.identities = w.identities) (spanCount : w'.spanCount = w.spanCount)
    (traceCount : w'.traceCount = w.traceCount)
    (contextFields : w'.contextFields = w.contextFields) (journal : w'.journal = w.journal) :
    w.Evolves w' :=
  of_same hw' backend identities spanCount traceCount contextFields []
    (by rw [journal, List.append_nil]) fun _ _ h => absurd h List.not_mem_nil

theorem refl (hw : w.Grounded) : w.Evolves w := aside hw rfl rfl rfl rfl rfl rfl

theorem trans (h : w.Evolves w') (g : w'.Evolves w'') : w.Evolves w'' where
  grounded := g.grounded
  backend := g.backend.trans h.backend
  started := by
    obtain ⟨new, hnew, hnumbers⟩ := h.started
    obtain ⟨new', hnew', hnumbers'⟩ := g.started
    refine ⟨new ++ new', by rw [hnew', hnew, List.append_assoc], fun hb => ?_⟩
    exact (hnumbers hb).trans (hnumbers' (h.backend.trans hb))
  logged hplain := by
    obtain ⟨hplain', entries, hjournal, hnames⟩ := h.logged hplain
    obtain ⟨hplain'', entries', hjournal', hnames'⟩ := g.logged hplain'
    refine ⟨hplain'', entries ++ entries', by rw [hjournal', hjournal, List.append_assoc], ?_⟩
    intro r hr
    rcases List.mem_append.mp hr with hr | hr
    · exact (hnames r hr).mono g.contexts_subset
    · exact hnames' r hr

/-- A computation evolves if its first part does, and the rest from wherever that ends. -/
theorem bind {α β : Type} {a : Act α} {f : α → Act β} (h : w.Evolves (a.runIn w).2)
    (g : ∀ x v, a.runIn w = (.ok x, v) → w.Evolves v → v.Evolves ((f x).runIn v).2) :
    w.Evolves ((a >>= f).runIn w).2 :=
  Act.runIn_bind_rel (R := Evolves) trans h g

/-- A change that depends on a condition. -/
theorem ite {c : Prop} [Decidable c] (hw : w.Grounded) (h : c → w.Evolves w') :
    w.Evolves (if c then w' else w) := by
  by_cases hc : c
  · rw [if_pos hc]
    exact h hc
  · rw [if_neg hc]
    exact refl hw

theorem log (hw : w.Grounded) (logger : String) {e : LogEvent}
    (he : e.Fits w.contexts w.currentContext) : w.Evolves (w.log logger e) := by
  unfold World.log
  split
  · exact refl hw
  · next service _ =>
    unfold write
    dsimp only
    split
    · refine of_same (hw.aside hw.sound (Nat.le_refl _) rfl rfl) rfl rfl rfl rfl rfl [_] rfl
        fun hplain r hr => ?_
      cases List.mem_singleton.mp hr
      exact he.record (fun c hc => hw.currentContext_mem hc) hplain logger service
    · exact aside (hw.aside hw.sound (Nat.le_refl _) rfl rfl) rfl rfl rfl rfl rfl rfl

theorem enter (hw : w.Grounded) {e : Entry} (he : ∀ r, e ≠ .log r) : w.Evolves (w.enter e) :=
  of_same (hw.aside hw.sound (Nat.le_refl _) rfl rfl) rfl rfl rfl rfl rfl [e] rfl
    fun _ r hr => absurd (List.mem_singleton.mp hr).symm (he r)

theorem modifySpan (hw : w.Grounded) (id : SpanId) {f : Span → Span}
    (hf : (f (w.span id)).identity = (w.span id).identity) : w.Evolves (w.modifySpan id f) := by
  have hlength : (w.modifySpan id f).spans.length = w.spans.length := List.length_modify ..
  refine aside (hw.aside (fun r j hj => ?_) (Nat.le_of_eq hlength.symm) rfl rfl) rfl
    (w.identities_modifySpan id hf) rfl rfl rfl rfl
  rw [hlength]
  exact hw.sound r j hj

theorem modifyAttributes (hw : w.Grounded) (r : RequestName) (f : Attributes → Attributes)
    (hf : w.Admits (w.attributes r) (f (w.attributes r))) : w.Evolves (w.modifyAttributes r f) :=
  aside (hw.aside (Follows.modifyAttributes hw.sound r f hf).sound (Nat.le_refl _) rfl rfl)
    rfl rfl rfl rfl rfl rfl

theorem openRequest (hw : w.Grounded) (r : RequestName) : w.Evolves (w.openRequest r) :=
  aside (hw.aside (Follows.openRequest hw.sound r).sound (Nat.le_refl _) rfl rfl)
    rfl rfl rfl rfl rfl rfl

theorem setCurrent (hw : w.Grounded) {current : Option SpanId}
    (h : ∀ id, current = some id → id < w.spans.length) : w.Evolves { w with current } :=
  aside (hw.setCurrent h) rfl rfl rfl rfl rfl rfl

/-- The context changes, but stays a plain one. -/
theorem setContext (hw : w.Grounded) {contextFields : LogRecord}
    (h : w.contextFields.IsPlain → contextFields.IsPlain) : w.Evolves { w with contextFields } where
  grounded := ⟨hw.sound, hw.current, hw.scopes⟩
  backend := rfl
  started := ⟨[], (List.append_nil _).symm, fun _ => ⟨rfl, rfl, rfl, rfl⟩⟩
  logged hplain := ⟨h hplain, [], (List.append_nil _).symm, nofun⟩

/-- The context is again as it was at first. -/
theorem restoreContext (h : w.Evolves w') :
    w.Evolves { w' with contextFields := w.contextFields } where
  grounded := ⟨h.grounded.sound, h.grounded.current, h.grounded.scopes⟩
  backend := h.backend
  started := by
    obtain ⟨new, hnew, hnumbers⟩ := h.started
    refine ⟨new, hnew, fun hb => ?_⟩
    obtain ⟨hspans, hspanCount, htraces, htraceCount⟩ := hnumbers hb
    exact ⟨hspans, hspanCount, htraces, htraceCount⟩
  logged hplain := ⟨hplain, (h.logged hplain).2⟩

theorem activate (hw : w.Grounded) {id : SpanId} (hid : id < w.spans.length) :
    w.Evolves (w.activate id).2 := setCurrent hw (anchor_lt hid)

theorem close (hw : w.Grounded) {s : Scope} (hs : ∀ id, s.restores = some id → id < w.spans.length) :
    w.Evolves (w.close s) := by
  unfold World.close
  split
  · exact refl hw
  · exact setCurrent hw hs

end Evolves

end World

/-! ## The tracer -/

open World

namespace Tracer

variable {w : World}

theorem failIfTold_evolves (hw : w.Grounded) (v : Verb) : w.Evolves ((failIfTold v).runIn w).2 := by
  cases hf : w.failures.of? v with
  | none =>
    rw [failIfTold_of_none hf]
    exact .refl hw
  | some e =>
    rw [failIfTold_of_some hf]
    exact .enter hw nofun

theorem finalize_evolves (hw : w.Grounded) (status : Int) (cause : Option Attribute) {id : SpanId}
    (hid : id < w.spans.length) : w.Evolves ((finalize status cause id).runIn w).2 := by
  cases hf : w.failures.of? .finalize with
  | some e =>
    rw [finalize_failed hf]
    exact .enter hw nofun
  | none =>
    by_cases hs : (w.span id).state = .finalized
    · rw [finalize_late hf hs]
      have hlog := Evolves.log hw logger
        (e := { severity := .warning, event := "span_already_finalized"
                fields := idFields (w.span id) }) (.whole _ (context_mem hid) rfl rfl)
      exact hlog.trans (.enter hlog.grounded nofun)
    · cases hc : isRefused (w.span id) cause with
      | true =>
        obtain ⟨e, h⟩ := finalize_refused status hf hs hc
        rw [h]
        exact .refl hw
      | false =>
        rw [finalize_effective hf hs hc]
        have hended : w.Evolves (ended w id status cause) := by
          have hmodify := Evolves.modifySpan hw id
            (f := fun _ => ((w.span id).report status cause).finish)
            ((w.span id).identity_report status cause)
          unfold ended
          dsimp only
          split
          · exact hmodify.trans (.enter hmodify.grounded nofun)
          · exact hmodify
        have hlog := hended.trans (.log hended.grounded logger
          (.whole _ (hended.contexts_subset (context_mem hid)) rfl rfl :
            (finalizedEvent (w.span id) status cause).Fits _ _))
        exact hlog.trans (.enter hlog.grounded nofun)

theorem abandon_evolves (hw : w.Grounded) {id : SpanId} (hid : id < w.spans.length) :
    w.Evolves ((abandon id).runIn w).2 := by
  unfold abandon
  refine (failIfTold_evolves hw .abandon).bind fun _ v _ hv => ?_
  have hmem := context_mem (Nat.lt_of_lt_of_le hid hv.length_le)
  rw [Act.runIn_bind, Act.runIn_get]
  dsimp only
  split
  · simp only [Act.runIn_bind, Act.runIn_modify, Act.runIn_pure]
    have hmodify := Evolves.modifySpan hv.grounded id (f := fun s => { s with state := .abandoned })
      rfl
    have hlog := hmodify.trans (.log hmodify.grounded logger
      (e := { severity := .debug, event := "span_abandoned", fields := idFields (v.span id) })
      (.whole _ (hmodify.contexts_subset hmem) rfl rfl))
    exact hlog.trans (.enter hlog.grounded nofun)
  · split
    · simp only [Act.runIn_bind, Act.runIn_modify, Act.runIn_pure]
      have hlog := Evolves.log hv.grounded logger
        (e := { severity := .warning, event := "abandon_after_finalize"
                fields := idFields (v.span id) }) (.whole _ hmem rfl rfl)
      exact hlog.trans (.enter hlog.grounded nofun)
    · exact .enter hv.grounded nofun

/-! ## Starting -/

/-- The span that a start makes. -/
def born (headers : Headers) (name method path : String) (w : World) : Span :=
  ((newSpan w (SpanContext.ofHeaders? headers) name).1.tag httpMethod method).tag httpPath path

/-- The world that has it, before anything is said about it. -/
def bearing (headers : Headers) (name method path : String) (w : World) : World :=
  { (newSpan w (SpanContext.ofHeaders? headers) name).2 with
    spans := w.spans ++ [born headers name method path w] }

/-- The event that a start is logged with. -/
def startedEvent (s : Span) : LogEvent :=
  { severity := .debug, event := "span_started"
    fields := [("trace_id", .text s.context.traceText), ("span_id", .text s.context.spanText),
      ("parent_span_id", .ofText? s.parentText?)] }

theorem start_runIn (hf : w.failures.of? .create = none) (headers : Headers)
    (name method path : String) :
    (start headers name method path).runIn w = (.ok w.spans.length,
      ((bearing headers name method path w).log logger
        (startedEvent (born headers name method path w))).enter
          (.call (.created w.spans.length name))) := by
  obtain ⟨_, _, hcounted⟩ := newSpan_snd w (SpanContext.ofHeaders? headers) name
  have hspans := congrArg World.spans hcounted
  unfold start
  simp only [Act.runIn_bind, failIfTold_of_none hf, Act.runIn_get, Act.runIn_set,
    Act.runIn_modify, Act.runIn_pure]
  rw [hspans]
  rfl

/-- On the recording backend the new span has the next number, and a root the next trace. -/
theorem bearing_numbers (hb : w.backend = .recording) (headers : Headers)
    (name method path : String) :
    w.Numbers (bearing headers name method path w) [(born headers name method path w).identity] := by
  unfold bearing born newSpan
  rw [hb]
  cases SpanContext.ofHeaders? headers with
  | none => exact ⟨rfl, rfl, rfl, rfl⟩
  | some p => exact ⟨rfl, rfl, rfl, rfl⟩

theorem bearing_evolves (hw : w.Grounded) (headers : Headers) (name method path : String) :
    w.Evolves (bearing headers name method path w) := by
  have hspans : (bearing headers name method path w).spans =
      w.spans ++ [born headers name method path w] := rfl
  have hlength : w.spans.length ≤ (bearing headers name method path w).spans.length := by
    rw [hspans, List.length_append]
    exact Nat.le_add_right _ _
  obtain ⟨traceCount, spanCount, hcounted⟩ := newSpan_snd w (SpanContext.ofHeaders? headers) name
  have hrest : bearing headers name method path w =
      { w with traceCount, spanCount, spans := w.spans ++ [born headers name method path w] } := by
    unfold bearing
    rw [hcounted]
  refine ⟨hw.aside (fun r j hj => ?_) hlength ?_ ?_, ?_, ⟨_, ?_, fun hb => bearing_numbers hb ..⟩,
    fun hplain => ⟨?_, [], ?_, nofun⟩⟩
  · rw [hrest] at hj
    exact Nat.lt_of_lt_of_le (hw.sound r j hj) hlength
  · rw [hrest]
  · rw [hrest]
  · rw [hrest]
  · unfold World.identities
    rw [hspans, List.map_append]
    rfl
  · rw [hrest]
    exact hplain
  · rw [hrest, List.append_nil]

theorem start_evolves (hw : w.Grounded) (headers : Headers) (name method path : String) :
    w.Evolves ((start headers name method path).runIn w).2 := by
  cases hf : w.failures.of? .create with
  | some e =>
    rw [start_failed hf]
    exact .enter hw nofun
  | none =>
    rw [start_runIn hf]
    have hborn := bearing_evolves hw headers name method path
    have hmem : (born headers name method path w).context ∈
        (bearing headers name method path w).contexts :=
      List.mem_map_of_mem (List.mem_append_right _ (List.mem_singleton_self _))
    have hlog := hborn.trans (.log hborn.grounded logger
      (.whole _ hmem rfl rfl : (startedEvent _).Fits _ _))
    exact hlog.trans (.enter hlog.grounded nofun)

theorem start_lt {headers : Headers} {name method path : String} {id : SpanId} {v : World}
    (h : (start headers name method path).runIn w = (.ok id, v)) : id < v.spans.length := by
  cases hf : w.failures.of? .create with
  | some e =>
    rw [start_failed hf] at h
    cases h
  | none =>
    obtain ⟨u, hu, hstarted⟩ := start_ok hf headers name method path
    obtain ⟨s, hspans, -⟩ := hstarted.spans
    rw [hu] at h
    cases h
    rw [hspans, List.length_append]
    exact Nat.lt_succ_self _

end Tracer

end SpanLifecycle
