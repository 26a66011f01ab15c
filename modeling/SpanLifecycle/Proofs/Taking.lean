import SpanLifecycle.Proofs.Ending
import SpanLifecycle.Proofs.Handover
import SpanLifecycle.Proofs.History

/-!
# What the use of a continuation takes

A use takes the span that its request goes by then (`next?`), if it is the first use of its
continuation: the request forgets the span, and whatever the tracer makes of it, nothing else is
treated (`Takes`).  Any other use treats no span (`Idles`).  A completion writes the status of its
response on the span that it has taken, whatever the state of the span (`Action.stamp?`).

`IsTaking.run` says so of both kinds of use, and `Does.takes` of the deeds of a history.
-/

namespace SpanLifecycle

/-- The active span is not set again by notes. -/
theorem Attributes.Marks.activeSpan_none {m m' : Attributes} (h : m.Marks m')
    (hm : m.activeSpan = none) : m'.activeSpan = none := by
  induction h with
  | refl => exact hm
  | tail _ hstep ih =>
    cases hstep with
    | cleared => simp
    | _ => simpa using ih

/-- A span that is replaced by itself. -/
theorem World.modifySpan_same (w : World) (id : SpanId) : w.modifySpan id (fun s => s) = w := by
  unfold modifySpan
  rw [show (w.spans.modify id fun s => s) = w.spans from List.modify_id ..]

/-- The span that a call is about. -/
def TracerCall.span? : TracerCall → Option SpanId
  | .created id _ | .finalized id .. | .abandoned id _ => some id
  | .failed _ => none

/-- The calls on a span are about no other one. -/
theorem TracerCall.IsOn.span_eq {id j : SpanId} {call : TracerCall} (h : call.IsOn id)
    (hj : call.span? = some j) : j = id := by
  cases call with
  | created => cases h
  | finalized => cases hj; exact h
  | abandoned => cases hj; exact h
  | failed => cases hj

/-- A use of a continuation: the label and what is done. -/
def Action.use? : Action → Option (String × Act Bool)
  | .complete label code failure => some (label, Continuation.complete label code failure)
  | .abandonAsync label => some (label, Continuation.abandon label)
  | _ => none

/-- The status that an action writes on the span of a request that it has taken: that of a response
for which nothing was raised, if the span started without a parent. -/
def Action.stamp? (a : Action) (m : Attributes) : Option Int :=
  match a with
  | .complete _ code none => if m.isSpanWithoutParent && 100 ≤ code then some code else none
  | _ => none

/-- A span with a status written on it, if there is one. -/
def Span.stamped (s : Span) (status : Option Int) : Span :=
  match status with
  | some code => s.tag httpStatusCode (toString code)
  | none => s

namespace Continuation

/-- The request and the span that the next use of a continuation takes. -/
def next? (w : World) (label : String) : Option (RequestName × SpanId) :=
  match ((takeSpan label).runIn w).1 with
  | .ok (some (r, .span id)) => some (r, id)
  | _ => none

variable {label : String} {r : RequestName} {id : SpanId} {w w' : World}

theorem next?_eq_some (h : next? w label = some (r, id)) :
    w.continuations.get? label = some { request := r } ∧
      (w.attributes r).activeSpan = some (.span id) := by
  unfold next? at h
  cases hk : w.continuations.get? label with
  | none =>
    rw [takeSpan_missing hk] at h
    cases h
  | some k =>
    obtain ⟨q, done⟩ := k
    cases done with
    | true =>
      rw [takeSpan_done hk rfl] at h
      cases h
    | false =>
      cases ha : Attribute.present? (w.attributes q).activeSpan with
      | none =>
        rw [takeSpan_bare hk rfl ha] at h
        cases h
      | some a =>
        rw [takeSpan_taken hk rfl ha] at h
        cases a with
        | span j =>
          cases h
          exact ⟨rfl, Attribute.of_present? ha⟩
        | _ => cases h

/-- From one world to another a span was taken from a request by a continuation, written on, and
given to the tracer. -/
structure Takes (label : String) (r : RequestName) (id : SpanId) (s : Span) (w w' : World) :
    Prop where
  length : w'.spans.length = w.spans.length
  span : ∀ j, j ≠ id → w'.span j = w.span j
  attributes : ∀ q, q ≠ r → w'.attributes q = w.attributes q
  inactive : (w'.attributes r).activeSpan = none
  continuations : w'.continuations = w.continuations.set label { request := r, done := true }
  advances : s.Advances (w'.span id)
  adds : ∃ calls exports, Adds w w' calls exports ∧ ∀ c ∈ calls, c.IsOn id

/-- From one world to another a continuation was used, and no span was treated. -/
structure Idles (label : String) (w w' : World) : Prop where
  length : w'.spans.length = w.spans.length
  span : ∀ j, w'.span j = w.span j
  done : isDone w' label = true
  others : ∀ l, l ≠ label → w'.continuations.get? l = w.continuations.get? l
  adds : ∃ calls, Adds w w' calls [] ∧ ∀ c ∈ calls, c.span? = none

/-- What a use of a continuation is, by what there is to take. -/
structure IsTaking (label : String) (stamp? : Attributes → Option Int) (use : Act Bool) :
    Prop where
  unread : ∀ m, stamp? (taken m) = stamp? m
  idle : ∀ {w w' : World}, (takeSpan label).runIn w = (.ok none, w') →
    use.runIn w = (.ok false, w')
  foreign : ∀ {w v : World} {r : RequestName} {a : Attribute},
    (takeSpan label).runIn w = (.ok (some (r, a)), v) → (∀ id, a ≠ .span id) →
    ∃ calls, (∀ j, Becomes r j v (use.runIn w).2
        { span := v.span j, attributes := v.attributes r, calls }) ∧ ∀ c ∈ calls, c.span? = none
  treats : ∀ {w v : World} {r : RequestName} {id : SpanId},
    (takeSpan label).runIn w = (.ok (some (r, .span id)), v) → id < v.spans.length →
    Treats r id (v.modifySpan id (·.stamped (stamp? (v.attributes r)))) (use.runIn w).2

/-- Both kinds of use fail where the request goes by something that is no span. -/
theorem foreign_becomes (verb : Verb) (e : Fault) (r : RequestName) (v : World) :
    ∃ calls, (∀ j, Becomes r j v ((do Tracer.failIfTold verb; throw e : Act Bool).runIn v).2
      { span := v.span j, attributes := v.attributes r, calls }) ∧ ∀ c ∈ calls, c.span? = none := by
  rw [Act.runIn_bind]
  cases hf : v.failures.of? verb with
  | none =>
    rw [Tracer.failIfTold_of_none hf]
    exact ⟨[], fun j => Becomes.refl r j v, nofun⟩
  | some e =>
    rw [Tracer.failIfTold_of_some hf]
    refine ⟨[.failed verb], fun j => Becomes.call r j v _, fun c hc => ?_⟩
    rw [List.mem_singleton.mp hc]
    rfl

/-- A completion that has taken a span writes on it, and finalizes it. -/
theorem complete_runIn {v : World} {code : Int} {failure : Option Fault}
    (h : (takeSpan label).runIn w = (.ok (some (r, .span id)), v)) :
    (complete label code failure).runIn w =
      match (Tracer.finalize code (failure.map .fault) id).runIn (v.modifySpan id
        (·.stamped ((Action.complete label code failure).stamp? (v.attributes r)))) with
      | (.ok true, u) => (.ok true, u.modifyAttributes r (·.raiseFlag .alreadyFinalized))
      | out => out := by
  have hstamp : v.modifySpan id
      (·.stamped ((Action.complete label code failure).stamp? (v.attributes r))) =
      if failure.isNone && (v.attributes r).isSpanWithoutParent && 100 ≤ code then
        v.modifySpan id (·.tag httpStatusCode (toString code)) else v := by
    unfold Action.stamp?
    cases failure with
    | some e => exact v.modifySpan_same id
    | none =>
      simp only [Option.isNone_none, Bool.true_and]
      split
      · rfl
      · exact v.modifySpan_same id
  unfold complete
  rw [Act.runIn_bind, h]
  simp only [Act.runIn_bind, Act.runIn_get]
  rw [Act.runIn_when, ← hstamp, Act.runIn_bind]
  rcases (Tracer.finalize code (failure.map .fault) id).runIn _ with ⟨e | b, u⟩
  · rfl
  · cases b <;> rfl

theorem abandon_runIn {v : World} (h : (takeSpan label).runIn w = (.ok (some (r, .span id)), v)) :
    (abandon label).runIn w = (Tracer.abandon id).runIn v := by
  unfold abandon
  rw [Act.runIn_bind, h]

theorem complete_isTaking (label : String) (code : Int) (failure : Option Fault) :
    IsTaking label (Action.complete label code failure).stamp? (complete label code failure) where
  unread m := by
    unfold Action.stamp? taken
    cases failure <;> simp
  idle h := (complete_isUse label code failure).idle h
  foreign := by
    intro w v r a h ha
    unfold complete
    rw [Act.runIn_bind, h]
    cases a with
    | span id => exact absurd rfl (ha id)
    | _ =>
      simp only [Act.runIn_bind, Act.runIn_get]
      split
      · exact ⟨[], fun j => Becomes.refl r j v, nofun⟩
      · exact foreign_becomes .finalize _ r v
  treats := by
    intro w v r id h hid
    rw [complete_runIn h]
    generalize hu : v.modifySpan id _ = u
    have hfinal := Tracer.finalize_treats (w := u) r code (failure.map .fault)
      (show id < u.spans.length by rw [← hu]; exact (List.length_modify ..).symm ▸ hid)
    revert hfinal
    rcases (Tracer.finalize code (failure.map .fault) id).runIn u with ⟨e | b, u'⟩
    · exact fun h => h
    · cases b with
      | false => exact fun h => h
      | true =>
        exact fun h => h.trans (.modifyAttributes r id u' (·.raiseFlag .alreadyFinalized) .finalized)

theorem abandon_isTaking (label : String) :
    IsTaking label (Action.abandonAsync label).stamp? (abandon label) where
  unread _ := rfl
  idle h := (abandon_isUse label).idle h
  foreign := by
    intro w v r a h ha
    unfold abandon
    rw [Act.runIn_bind, h]
    cases a with
    | span id => exact absurd rfl (ha id)
    | _ => exact foreign_becomes .abandon _ r v
  treats := by
    intro w v r id h hid
    have hsame : v.modifySpan id
        (·.stamped ((Action.abandonAsync label).stamp? (v.attributes r))) = v :=
      v.modifySpan_same id
    rw [hsame, abandon_runIn h]
    exact Tracer.abandon_treats r hid

theorem isDone_of_get? {k : Continuation} (h : w.continuations.get? label = some k) :
    isDone w label = k.done := by
  unfold isDone
  rw [h]
  rfl

/-- A first use that takes no span. -/
theorem Idles.of_spent {k : Continuation} {m : Attributes} {calls : List TracerCall}
    (hb : ∀ j, Becomes r j (spent label k w) w' { span := w.span j, attributes := m, calls })
    (hc : ∀ c ∈ calls, c.span? = none) : Idles label w w' where
  length := (hb 0).length
  span j := (hb j).itsSpan
  done := by
    have hget : w'.continuations.get? label = some { k with done := true } := by
      rw [(hb 0).continuations]
      unfold spent
      rw [Mapping.get?_set, if_pos rfl]
    exact isDone_of_get? hget
  others l hl := by
    rw [(hb 0).continuations]
    unfold spent
    rw [Mapping.get?_set, if_neg hl]
  adds := ⟨calls, ⟨(hb 0).calls, (hb 0).exports⟩, hc⟩

/-- A use that comes too late. -/
theorem Idles.of_done {k : Continuation} (hk : w.continuations.get? label = some k)
    (hd : k.done = true) : Idles label w (Pass.log doneEvent w) := by
  have hlog := fun j => Becomes.log outerRequest j w Pass.logger doneEvent
  have hget : (Pass.log doneEvent w).continuations.get? label = some k := by
    rw [← hk]
    exact congrArg (Mapping.get? · label) (hlog 0).continuations
  exact
    { length := (hlog 0).length
      span := fun j => (hlog j).itsSpan
      done := (isDone_of_get? hget).trans hd
      others := fun l _ => congrArg (Mapping.get? · l) (hlog 0).continuations
      adds := ⟨[], ⟨(hlog 0).calls, (hlog 0).exports⟩, nofun⟩ }

/-- A use that treats the span it has taken, and written on. -/
theorem Takes.of_treats {k : Continuation} {write : Span → Span} (hid : id < w.spans.length)
    (h : Treats k.request id
      (((spent label k w).modifyAttributes k.request taken).modifySpan id write) w') :
    Takes label k.request id (write (w.span id)) w w' := by
  have htaken := Becomes.modifyAttributes k.request id (spent label k w) taken
  have hboth := htaken.trans (Becomes.modifySpan k.request id _ write (htaken.length ▸ hid))
  obtain ⟨calls, exports, hadds, hon, -⟩ := h.adds
  have hadvances := h.advances
  rw [hboth.itsSpan] at hadvances
  exact
    { length := h.length.trans hboth.length
      span := fun j hj => (h.span j hj).trans (hboth.span j hj)
      attributes := fun q hq => (h.attributes q hq).trans (hboth.attributes q hq)
      inactive := by
        refine h.marks.activeSpan_none ?_
        rw [hboth.itsAttributes]
        exact (congrArg Attributes.activeSpan htaken.itsAttributes).trans (taken_activeSpan _)
      continuations := h.continuations.trans hboth.continuations
      advances := hadvances
      adds := ⟨calls, exports, ⟨hadds.calls, hadds.exports⟩, hon⟩ }

/-- A use takes the span that there is to take, or none. -/
theorem IsTaking.run {stamp? : Attributes → Option Int} {use : Act Bool}
    (h : IsTaking label stamp? use) (hw : w.Sound) (hlabel : w.continuations.has label = true) :
    match next? w label with
    | some (r, id) =>
      Takes label r id ((w.span id).stamped (stamp? (w.attributes r))) w (use.runIn w).2
    | none => Idles label w (use.runIn w).2 := by
  obtain ⟨k, hk⟩ := Option.isSome_iff_exists.mp hlabel
  unfold next?
  cases hd : k.done with
  | true =>
    rw [takeSpan_done hk hd, h.idle (takeSpan_done hk hd)]
    exact .of_done hk hd
  | false =>
    cases ha : Attribute.present? (w.attributes k.request).activeSpan with
    | none =>
      rw [takeSpan_bare hk hd ha, h.idle (takeSpan_bare hk hd ha)]
      exact .of_spent (fun j => Becomes.log k.request j _ Pass.logger bareEvent) nofun
    | some a =>
      have htake := takeSpan_taken hk hd ha
      have htaken := fun j => Becomes.modifyAttributes k.request j (spent label k w) taken
      have hforeign : (∀ id, a ≠ .span id) → Idles label w (use.runIn w).2 := by
        intro ha
        obtain ⟨calls, hb, hc⟩ := h.foreign htake ha
        have hall := fun j => (htaken j).trans (hb j)
        simp only [fun j => (htaken j).itsSpan] at hall
        exact .of_spent hall hc
      rw [htake]
      cases a with
      | span id =>
        have hid := hw k.request id (Attribute.of_present? ha)
        have htreats := h.treats htake ((htaken id).length ▸ hid)
        -- the status goes by the mapping, of which the taking leaves what is asked
        rw [(htaken id).itsAttributes, h.unread] at htreats
        exact .of_treats hid htreats
      | _ => exact hforeign nofun

/-- Once something was taken from a request, a use is about the request and one span, if any. -/
theorem IsTaking.within {stamp? : Attributes → Option Int} {use : Act Bool}
    (h : IsTaking label stamp? use) {v : World} {a : Attribute}
    (htake : (takeSpan label).runIn w = (.ok (some (r, a)), v))
    (hid : ∀ id, a = .span id → id < v.spans.length) :
    ∃ id, Within r id v (use.runIn w).2 ∧
      (v.attributes r).Marks ((use.runIn w).2.attributes r) := by
  by_cases hspan : ∀ id, a ≠ .span id
  · obtain ⟨calls, hb, -⟩ := h.foreign htake hspan
    exact ⟨0, (hb 0).toWithin, (hb 0).itsAttributes ▸ .refl⟩
  · obtain ⟨id, rfl⟩ := not_forall_not.mp hspan
    have htreats := h.treats htake (hid id rfl)
    have hwrite := Becomes.modifySpan r id v (·.stamped (stamp? (v.attributes r))) (hid id rfl)
    exact ⟨id, hwrite.toWithin.trans htreats.toWithin, hwrite.itsAttributes ▸ htreats.marks⟩

/-- A use takes from the request that its continuation was handed out for, and marks it, or it leaves
the request alone; it leaves all others alone in any case. -/
theorem IsTaking.marks {stamp? : Attributes → Option Int} {use : Act Bool}
    (h : IsTaking label stamp? use) (hw : w.Sound) (q : RequestName) :
    (use.runIn w).2.attributes q = w.attributes q ∨
      (∃ k, w.continuations.get? label = some k ∧ k.request = q) ∧
        (taken (w.attributes q)).Marks ((use.runIn w).2.attributes q) := by
  cases hk : w.continuations.get? label with
  | none => exact .inl (by rw [h.idle (takeSpan_missing hk)])
  | some k =>
    cases hd : k.done with
    | true =>
      rw [h.idle (takeSpan_done hk hd)]
      exact .inl (Becomes.log q 0 w Pass.logger doneEvent).itsAttributes
    | false =>
      cases ha : Attribute.present? (w.attributes k.request).activeSpan with
      | none =>
        rw [h.idle (takeSpan_bare hk hd ha)]
        exact .inl (Becomes.log q 0 (spent label k w) Pass.logger bareEvent).itsAttributes
      | some a =>
        have htaken := Becomes.modifyAttributes k.request 0 (spent label k w) taken
        obtain ⟨id, hwithin, hmarks⟩ := h.within (takeSpan_taken hk hd ha) fun id hid => by
          subst hid
          exact htaken.length ▸ hw k.request id (Attribute.of_present? ha)
        by_cases hq : q = k.request
        · subst hq
          rw [htaken.itsAttributes] at hmarks
          exact .inr ⟨⟨k, rfl, rfl⟩, hmarks⟩
        · exact .inl ((hwithin.attributes q hq).trans (htaken.attributes q hq))

/-- A continuation that was used does nothing more. -/
theorem IsTaking.again {stamp? : Attributes → Option Int} {use : Act Bool}
    (h : IsTaking label stamp? use) (hd : isDone w label = true) :
    use.runIn w = (.ok false, Pass.log doneEvent w) := by
  cases hk : w.continuations.get? label with
  | none =>
    unfold isDone at hd
    rw [hk] at hd
    cases hd
  | some k => exact h.idle (takeSpan_done hk ((isDone_of_get? hk).symm.trans hd))

/-- A use makes its continuation a used one, and no other. -/
theorem IsTaking.isDone_run {stamp? : Attributes → Option Int} {use : Act Bool}
    (h : IsTaking label stamp? use) (hw : w.Sound) (hlabel : w.continuations.has label = true)
    (l : String) : isDone (use.runIn w).2 l = (decide (l = label) || isDone w l) := by
  have hrun := h.run hw hlabel
  by_cases hl : l = label
  · rw [decide_eq_true hl, Bool.true_or, hl]
    cases hn : next? w label with
    | none =>
      rw [hn] at hrun
      exact hrun.done
    | some p =>
      rw [hn] at hrun
      refine isDone_of_get? (k := { request := p.1, done := true }) ?_
      rw [hrun.continuations, Mapping.get?_set, if_pos rfl]
  · rw [decide_eq_false hl, Bool.false_or]
    have hget : (use.runIn w).2.continuations.get? l = w.continuations.get? l := by
      cases hn : next? w label with
      | none =>
        rw [hn] at hrun
        exact hrun.others l hl
      | some p =>
        rw [hn] at hrun
        rw [hrun.continuations, Mapping.get?_set, if_neg hl]
    unfold isDone
    rw [hget]

end Continuation

/-! ## Deeds -/

section

variable {a : Action} {label : String} {use : Act Bool} {w w' : World}

theorem Action.performAt_world (a : Action) (q : RequestName) (status : Int) (w : World) :
    (a.performAt q status w).world = ((a.perform q).runIn w).2 := by
  unfold performAt
  rcases (a.perform q).runIn w with ⟨e | answer, v⟩ <;> rfl

theorem Action.use?_isTaking (h : a.use? = some (label, use)) :
    Continuation.IsTaking label a.stamp? use := by
  cases a with
  | complete l code failure =>
    cases h
    exact Continuation.complete_isTaking label code failure
  | abandonAsync l =>
    cases h
    exact Continuation.abandon_isTaking label
  | _ => cases h

/-- A use gives back what the continuation says, or raises what it raises. -/
theorem Action.performAt_use (h : a.use? = some (label, use)) (r : RequestName) (status : Int)
    (w : World) : a.performAt r status w =
      match use.runIn w with
      | (.ok b, v) => { world := v, status, reply := .flag b }
      | (.error e, v) => { world := v, status, reply := .nothing, raised := some e } := by
  have hperform : a.perform r = do return .flag (← use) := by
    cases a with
    | complete | abandonAsync =>
      cases h
      rfl
    | _ => cases h
  unfold performAt
  rw [hperform, Act.runIn_bind]
  rcases use.runIn w with ⟨e | b, v⟩ <;> rfl

/-- The use of a continuation that an actor makes: its label, and what is done. -/
def Actor.use? : Actor → Option (String × Act Bool)
  | .acts _ a => a.use?
  | _ => none

theorem Actor.of_use? {actor : Actor} (h : actor.use? = some (label, use)) :
    ∃ q a, actor = .acts q a ∧ a.use? = some (label, use) := by
  cases actor with
  | acts q a => exact ⟨q, a, rfl, h⟩
  | _ => cases h

/-- The request and the span that an actor takes by the use of a continuation. -/
def Actor.takes? (actor : Actor) (w : World) : Option (RequestName × SpanId) :=
  actor.use?.bind fun use => Continuation.next? w use.1

/-- A use is done with a continuation that was handed out. -/
theorem Does.of_use {q : RequestName} (h : Does (.acts q a) w w')
    (hu : a.use? = some (label, use)) :
    w.continuations.has label = true ∧ w' = (use.runIn w).2 := by
  cases h with
  | acts hm =>
    constructor
    · cases a with
      | complete | abandonAsync =>
        cases hu
        simpa [World.missing?] using hm
      | _ => cases hu
    · rw [Action.performAt_use hu]
      rcases use.runIn w with ⟨e | b, v⟩ <;> rfl

/-- A deed by which a continuation is used takes the span that there is to take, or none. -/
theorem Does.takes {q : RequestName} (h : Does (.acts q a) w w') (hw : w.Sound)
    (hu : a.use? = some (label, use)) :
    match Continuation.next? w label with
    | some (r, id) =>
      Continuation.Takes label r id ((w.span id).stamped (a.stamp? (w.attributes r))) w w'
    | none => Continuation.Idles label w w' := by
  obtain ⟨hlabel, hw'⟩ := h.of_use hu
  rw [hw']
  exact (Action.use?_isTaking hu).run hw hlabel

end

end SpanLifecycle
