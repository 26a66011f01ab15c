import SpanLifecycle.World

/-!
# The ids that records show

A record gets its two ids one by one: from its event where that says one, else from the span that is
current (`LogEvent.record_traceId`, `LogEvent.record_spanId`).  So the ids of two spans could meet in
one record.  They do not where the event fits the world that it is logged in (`LogEvent.Fits`): it
says both ids of one span, or none, or the trace id alone of the span that is current then.
-/

namespace SpanLifecycle

namespace Mapping

variable {κ α : Type} [DecidableEq κ]

theorem get?_setDefault (m : Mapping κ α) (k k' : κ) (v : α) :
    (m.setDefault k v).get? k' = if k' = k then some ((m.get? k).getD v) else m.get? k' := by
  unfold setDefault has
  cases h : m.get? k with
  | none => simp [get?_set]
  | some a =>
    by_cases hk : k' = k
    · simp [hk, h]
    · simp [hk]

/-- Defaults for other keys make no difference to a key. -/
theorem get?_foldl_setDefault {k : κ} {entries : List (κ × α)} (h : ∀ e ∈ entries, e.1 ≠ k) :
    ∀ m : Mapping κ α, (entries.foldl (fun m e => m.setDefault e.1 e.2) m).get? k = m.get? k := by
  induction entries with
  | nil => exact fun _ => rfl
  | cons e rest ih =>
    intro m
    rw [List.foldl_cons, ih fun e he => h e (List.mem_cons_of_mem _ he), get?_setDefault,
      if_neg (h e List.mem_cons_self).symm]

end Mapping

/-- A context that adds to a record nothing but the path and the method of a request. -/
def LogRecord.IsPlain (context : LogRecord) : Prop :=
  ∀ field ∈ context, field.1 = "path" ∨ field.1 = "method"

/-- Setting the path or the method in such a context leaves it one. -/
theorem LogRecord.IsPlain.set {context : LogRecord} (h : context.IsPlain) {k : String}
    (hk : k = "path" ∨ k = "method") (v : Value) : LogRecord.IsPlain (Mapping.set context k v) := by
  induction context with
  | nil =>
    intro field hfield
    cases List.mem_singleton.mp hfield
    exact hk
  | cons entry rest ih =>
    obtain ⟨hentry, hrest⟩ := List.forall_mem_cons.mp h
    unfold Mapping.set
    split
    · exact List.forall_mem_cons.mpr ⟨hk, hrest⟩
    · exact List.forall_mem_cons.mpr ⟨hentry, ih hrest⟩

theorem LogRecord.IsPlain.get? {context : LogRecord} (h : context.IsPlain) {k : String}
    (hp : k ≠ "path") (hm : k ≠ "method") (r : LogRecord) :
    Mapping.get? (context.foldl (fun (r : LogRecord) field => Mapping.setDefault r field.1 field.2) r)
      k = Mapping.get? r k := by
  refine Mapping.get?_foldl_setDefault (fun e he => ?_) r
  rcases h e he with hk | hk
  · exact hk ▸ hp.symm
  · exact hk ▸ hm.symm

namespace LogRecord

theorem withSpan_traceId (r : LogRecord) (current : Option SpanContext) :
    Mapping.get? (r.withSpan current) "trace_id" =
      (Mapping.get? r "trace_id").or (current.map fun c => .text c.traceText) := by
  unfold withSpan
  cases current with
  | none => simp
  | some c =>
    rw [Mapping.get?_setDefault, if_neg (by decide), Mapping.get?_setDefault, if_pos rfl]
    cases Mapping.get? r "trace_id" <;> rfl

theorem withSpan_spanId (r : LogRecord) (current : Option SpanContext) :
    Mapping.get? (r.withSpan current) "span_id" =
      (Mapping.get? r "span_id").or (current.map fun c => .text c.spanText) := by
  unfold withSpan
  cases current with
  | none => simp
  | some c =>
    rw [Mapping.get?_setDefault, if_pos rfl, Mapping.get?_setDefault, if_neg (by decide)]
    cases Mapping.get? r "span_id" <;> rfl

end LogRecord

namespace LogEvent

/-- What an event says itself under a key. -/
def said (e : LogEvent) (key : String) : Option Value :=
  Mapping.get? (Mapping.update [] e.fields) key

variable {e : LogEvent} {logger service : String} {context : LogRecord}
  {current : Option SpanContext}

/-- A record is made from what the event says about ids and from the current span; all the rest that
goes into it is about other keys. -/
theorem record_ids (e : LogEvent) (logger service : String) (hc : context.IsPlain)
    (current : Option SpanContext) :
    ∃ r : LogRecord, ∀ key, key = "trace_id" ∨ key = "span_id" →
      Mapping.get? r key = e.said key ∧
      Mapping.get? (e.record logger service [] context current) key =
        Mapping.get? (r.withSpan current) key := by
  refine ⟨((((e.merged [] context).set "level" (.text e.severity.label)).set "logger"
    (.text logger)).erase "timestamp").setDefault "service" (.text service), fun key hkey => ⟨?_, ?_⟩⟩
  · have hmerged : Mapping.get? (e.merged [] context) key = e.said key := by
      unfold merged said
      rcases hkey with rfl | rfl <;>
      · rw [hc.get? (by decide) (by decide), Mapping.get?_set, if_neg (by decide)]
    rw [← hmerged]
    rcases hkey with rfl | rfl <;>
    · rw [Mapping.get?_setDefault, if_neg (by decide), Mapping.get?_erase, if_neg (by decide),
        Mapping.get?_set, if_neg (by decide), Mapping.get?_set, if_neg (by decide)]
  · unfold record
    dsimp only
    cases e.fault with
    | none => rcases hkey with rfl | rfl <;> rw [Mapping.get?_erase, if_neg (by decide)]
    | some f =>
      rcases hkey with rfl | rfl <;>
      · rw [Mapping.get?_set, if_neg (by decide), Mapping.get?_erase, if_neg (by decide)]

/-- The trace id of a record is the event's, or else that of the current span. -/
theorem record_traceId (e : LogEvent) (logger service : String) (hc : context.IsPlain)
    (current : Option SpanContext) :
    Mapping.get? (e.record logger service [] context current) "trace_id" =
      (e.said "trace_id").or (current.map fun c => .text c.traceText) := by
  obtain ⟨r, hr⟩ := record_ids e logger service hc current
  rw [(hr _ (.inl rfl)).2, LogRecord.withSpan_traceId, (hr _ (.inl rfl)).1]

/-- So is its span id. -/
theorem record_spanId (e : LogEvent) (logger service : String) (hc : context.IsPlain)
    (current : Option SpanContext) :
    Mapping.get? (e.record logger service [] context current) "span_id" =
      (e.said "span_id").or (current.map fun c => .text c.spanText) := by
  obtain ⟨r, hr⟩ := record_ids e logger service hc current
  rw [(hr _ (.inr rfl)).2, LogRecord.withSpan_spanId, (hr _ (.inr rfl)).1]

end LogEvent

/-! ## One span to a record -/

/-- A record with both ids has the two of one of the given spans, and there is no span id without a
trace id. -/
structure LogRecord.NamesOneOf (contexts : List SpanContext) (r : LogRecord) : Prop where
  one : ∀ t s, Mapping.get? r "trace_id" = some t → Mapping.get? r "span_id" = some s →
    ∃ c ∈ contexts, t = .text c.traceText ∧ s = .text c.spanText
  traced : (Mapping.get? r "span_id").isSome = true → (Mapping.get? r "trace_id").isSome = true

namespace LogRecord.NamesOneOf

variable {contexts contexts' : List SpanContext} {r : LogRecord}

theorem mono (h : r.NamesOneOf contexts) (hsub : contexts ⊆ contexts') : r.NamesOneOf contexts' where
  one t s ht hs := by
    obtain ⟨c, hc, heq⟩ := h.one t s ht hs
    exact ⟨c, hsub hc, heq⟩
  traced := h.traced

theorem of_both {c : SpanContext} (hc : c ∈ contexts)
    (ht : Mapping.get? r "trace_id" = some (.text c.traceText))
    (hs : Mapping.get? r "span_id" = some (.text c.spanText)) : r.NamesOneOf contexts where
  one t s h₁ h₂ := by
    rw [ht] at h₁
    rw [hs] at h₂
    exact ⟨c, hc, (Option.some.inj h₁).symm, (Option.some.inj h₂).symm⟩
  traced _ := by
    rw [ht]
    rfl

theorem of_unspanned (hs : Mapping.get? r "span_id" = none) : r.NamesOneOf contexts where
  one _ _ _ h := by
    rw [hs] at h
    cases h
  traced h := by
    rw [hs] at h
    cases h

end LogRecord.NamesOneOf

namespace LogEvent

variable {e : LogEvent} {context : LogRecord} {current : Option SpanContext}

/-- What an event may say about spans where another one may be current: both ids of a span, or its
trace id if no other one is current, or nothing. -/
inductive Fits (contexts : List SpanContext) (current : Option SpanContext) (e : LogEvent) :
    Prop where
  | whole (c : SpanContext) (hc : c ∈ contexts)
      (trace : e.said "trace_id" = some (.text c.traceText))
      (span : e.said "span_id" = some (.text c.spanText))
  | traced (c : SpanContext) (hc : c ∈ contexts) (hcurrent : ∀ c', current = some c' → c' = c)
      (trace : e.said "trace_id" = some (.text c.traceText)) (span : e.said "span_id" = none)
  | silent (trace : e.said "trace_id" = none) (span : e.said "span_id" = none)

/-- The record of such an event names one span. -/
theorem Fits.record {contexts : List SpanContext} (h : e.Fits contexts current)
    (hcurrent : ∀ c, current = some c → c ∈ contexts) (hc : context.IsPlain)
    (logger service : String) :
    (e.record logger service [] context current).NamesOneOf contexts := by
  have htrace := e.record_traceId logger service hc current
  have hspan := e.record_spanId logger service hc current
  cases h with
  | whole c hmem ht hs =>
    rw [ht] at htrace
    rw [hs] at hspan
    exact .of_both hmem htrace hspan
  | traced c hmem hsame ht hs =>
    rw [ht] at htrace
    rw [hs] at hspan
    cases current with
    | none => exact .of_unspanned hspan
    | some c' =>
      cases hsame c' rfl
      exact .of_both hmem htrace hspan
  | silent ht hs =>
    rw [ht] at htrace
    rw [hs] at hspan
    cases current with
    | none => exact .of_unspanned hspan
    | some c => exact .of_both (hcurrent c rfl) htrace hspan

end LogEvent

end SpanLifecycle
