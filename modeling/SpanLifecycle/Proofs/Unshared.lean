import SpanLifecycle.Proofs.AlreadyFinalized
import SpanLifecycle.Proofs.Growth

/-!
# Continuations do not share spans

As long as only passes give spans to requests, no two requests ever have the same active span, and a
span that a continuation has taken is the active span of no request again.  `Parts` is that
invariant, over all continuations, requests and spans together, and every deed keeps it
(`Parts.step`).  Whether a continuation was used is a matter of its own (`Does.isDone`).

The main statement is `continuations_share_no_span`.
-/

namespace SpanLifecycle

/-- No two requests have the same active span. -/
def World.Unshared (w : World) : Prop :=
  ∀ r q id, (w.attributes r).activeSpan = some (.span id) →
    (w.attributes q).activeSpan = some (.span id) → r = q

namespace Deed

/-- The label of the continuation that a deed uses. -/
def used? (d : Deed) : Option String := d.actor.use?.map (·.1)

/-- The span that a deed takes by a continuation, to hand it to the tracer. -/
def taken? (d : Deed) : Option SpanId := (d.actor.takes? d.before).map (·.2)

theorem of_used? {d : Deed} {label : String} (h : d.used? = some label) :
    ∃ q a use, d.actor = .acts q a ∧ a.use? = some (label, use) := by
  obtain ⟨⟨l, use⟩, hu, rfl⟩ := Option.map_eq_some_iff.mp h
  obtain ⟨q, a, hactor, ha⟩ := Actor.of_use? hu
  exact ⟨q, a, use, hactor, ha⟩

/-- A deed uses a continuation, and gives back an answer rather than raise. -/
def Answers (d : Deed) (label : String) (b : Bool) : Prop :=
  ∃ q a use, d.actor = .acts q a ∧ a.use? = some (label, use) ∧
    ∀ status, a.performAt q status d.before = { world := d.after, status, reply := .flag b }

end Deed

/-- The spans that continuations have taken. -/
def takenIn (l : List Deed) : List SpanId := l.filterMap Deed.taken?

section

variable {actor : Actor} {w w' : World}

/-! ## Active spans -/

/-- Where no span is made the active one of a request by hand, a request goes by its old span, if by
any, or by the one that a pass has given it. -/
theorem Works.active (h : Works w w' actor) (hhands : actor.hands? = none) {q : RequestName}
    {id : SpanId} (hid : (w'.attributes q).activeSpan = some (.span id)) :
    (w.attributes q).activeSpan = some (.span id) ∨ actor.started? = some (q, id) := by
  have kept : ∀ {m m' : Attributes}, m'.activeSpan = m.activeSpan ∨ m'.activeSpan = none →
      m'.activeSpan = some (.span id) → m.activeSpan = some (.span id) := by
    intro m m' hm hid
    rcases hm with hm | hm <;> rw [hm] at hid
    · exact hid
    · cases hid
  have settled : ∀ {r j}, Settles r j w w' → (w.attributes q).activeSpan = some (.span id) := by
    intro r j h
    by_cases hq : q = r
    · subst hq
      exact kept h.active hid
    · exact kept (h.attributes q hq).active hid
  cases h with
  | @starts x c hb =>
    by_cases hq : q = x.request
    · rw [hq, hb.attributes, openingAttributes_activeSpan] at hid
      cases hid
      rw [hq]
      exact .inr rfl
    · rw [hb.otherAttributes q hq] at hid
      exact .inl hid
  | resumes _ h | refuses h | shifts h | acts h => exact .inl (kept (h.attributes q).active hid)
  | ends h | uses _ _ h => exact .inl (settled h)
  | @writes _ r o call _ _ hb =>
    by_cases hq : q = r
    · rw [hq, (hb 0).itsAttributes] at hid
      rw [hq]
      refine .inl ((call.run_active hid).resolve_right fun hcall => ?_)
      rw [show call.hands? = none from hhands] at hcall
      cases hcall
    · rw [(hb 0).attributes q hq] at hid
      exact .inl hid
  | finalizes h =>
    obtain ⟨s, calls, exports, hb⟩ := h q
    rw [hb.itsAttributes] at hid
    exact .inl hid
  | abandons h =>
    obtain ⟨s, calls, -, hb⟩ := h q
    rw [hb.itsAttributes] at hid
    exact .inl hid

/-- After the deeds of the past: no two requests have the same active span, and continuations have
taken each span at most once, of which no request goes by one any more. -/
structure Parts (past : List Deed) (w : World) : Prop where
  unshared : w.Unshared
  once : (takenIn past).Nodup
  apart : ∀ id ∈ takenIn past, id < w.spans.length ∧
    ∀ q, (w.attributes q).activeSpan ≠ some (.span id)

theorem Parts.step {past : List Deed} (h : Parts past w) (hw : w.Sound) (hd : Does actor w w')
    (hhands : actor.hands? = none) : Parts (past ++ [⟨actor, w, w'⟩]) w' := by
  have hlen := (hd.follows hw).run.length_le
  have hactive : ∀ q id, (w'.attributes q).activeSpan = some (.span id) →
      (w.attributes q).activeSpan = some (.span id) ∨ actor.started? = some (q, id) :=
    fun q id => (hd.works hw).active hhands
  -- a pass starts a new span, so it is none that there was before
  have hold : ∀ {q id}, id < w.spans.length → (w'.attributes q).activeSpan = some (.span id) →
      (w.attributes q).activeSpan = some (.span id) := fun hid ha =>
    (hactive _ _ ha).resolve_right fun hs => absurd (hd.started hs).1 (Nat.ne_of_lt hid)
  have hunshared : w'.Unshared := by
    intro r q id hr hq
    rcases hactive r id hr with hr' | hr'
    · exact h.unshared r q id hr' (hold (hw r id hr') hq)
    · rcases hactive q id hq with hq' | hq'
      · exact h.unshared r q id (hold (hw q id hq') hr) hq'
      · rw [hr'] at hq'
        cases hq'
        rfl
  have hapart : ∀ id ∈ takenIn past, id < w'.spans.length ∧
      ∀ q, (w'.attributes q).activeSpan ≠ some (.span id) := by
    intro id hid
    obtain ⟨hlt, hnone⟩ := h.apart id hid
    exact ⟨Nat.lt_of_lt_of_le hlt hlen, fun q ha => hnone q (hold hlt ha)⟩
  cases ht : actor.takes? w with
  | none =>
    have hsame : takenIn (past ++ [⟨actor, w, w'⟩]) = takenIn past := by
      simp [takenIn, Deed.taken?, ht]
    exact ⟨hunshared, hsame ▸ h.once, hsame ▸ hapart⟩
  | some p =>
    obtain ⟨r, id⟩ := p
    have hmore : takenIn (past ++ [⟨actor, w, w'⟩]) = takenIn past ++ [id] := by
      simp [takenIn, Deed.taken?, ht]
    obtain ⟨⟨label, use⟩, hu, hnext⟩ := Option.bind_eq_some_iff.mp ht
    obtain ⟨q, a, rfl, ha⟩ := Actor.of_use? hu
    have htakes := hd.takes hw ha
    rw [show Continuation.next? w label = some (r, id) from hnext] at htakes
    have hbefore := (Continuation.next?_eq_some hnext).2
    have hid := hw r id hbefore
    refine ⟨hunshared, ?_, ?_⟩
    · rw [hmore, List.nodup_append]
      refine ⟨h.once, List.pairwise_singleton .., fun i hi j hj => ?_⟩
      rw [List.mem_singleton.mp hj]
      intro hij
      exact (h.apart i hi).2 r (hij ▸ hbefore)
    · intro j hj
      rw [hmore, List.mem_append, List.mem_singleton] at hj
      rcases hj with hj | rfl
      · exact hapart j hj
      -- only the request that the span was taken from went by it
      · refine ⟨Nat.lt_of_lt_of_le hid hlen, fun p hp => ?_⟩
        rw [h.unshared p r j (hold hid hp) hbefore, htakes.inactive] at hp
        cases hp

/-! ## Used continuations -/

/-- A continuation that was used counts as used, until another one is handed out in its place. -/
theorem Does.isDone {label : String} (h : Does actor w w') (hw : w.Sound)
    (hg : actor.gives? ≠ some label) (hdone : Continuation.isDone w label = true) :
    Continuation.isDone w' label = true := by
  cases hu : actor.use? with
  | some use =>
    obtain ⟨q, a, rfl, ha⟩ := Actor.of_use? hu
    obtain ⟨hlabel, hw'⟩ := h.of_use ha
    rw [hw', (Action.use?_isTaking ha).isDone_run hw hlabel, hdone, Bool.or_true]
  | none =>
    unfold Continuation.isDone
    rw [(h.leaves hu).continuations label hg]
    exact hdone

namespace Deed

variable {d : Deed} {label : String}

/-- After its use a continuation counts as used. -/
theorem isDone_after (h : Does d.actor d.before d.after) (hw : d.before.Sound)
    (hu : d.used? = some label) : Continuation.isDone d.after label = true := by
  obtain ⟨q, a, use, hactor, ha⟩ := of_used? hu
  rw [hactor] at h
  obtain ⟨hlabel, hafter⟩ := h.of_use ha
  rw [hafter, (Action.use?_isTaking ha).isDone_run hw hlabel, decide_eq_true rfl, Bool.true_or]

/-- The use of a continuation that was used before changes nothing but the log. -/
theorem again (h : Does d.actor d.before d.after) (hu : d.used? = some label)
    (hdone : Continuation.isDone d.before label = true) :
    d.Answers label false ∧ d.after = Pass.log Continuation.doneEvent d.before := by
  obtain ⟨q, a, use, hactor, ha⟩ := of_used? hu
  rw [hactor] at h
  have hagain := (Action.use?_isTaking ha).again hdone
  have hafter : d.after = Pass.log Continuation.doneEvent d.before := by
    rw [(h.of_use ha).2, hagain]
  refine ⟨⟨q, a, use, hactor, ha, fun status => ?_⟩, hafter⟩
  rw [Action.performAt_use ha, hagain, hafter]

/-- What a use of a continuation makes of spans is about the span that it has taken. -/
theorem calls_on_taken (h : Does d.actor d.before d.after) (hw : d.before.Sound)
    (hu : d.used? = some label) :
    ∃ calls exports, Adds d.before d.after calls exports ∧
      ∀ c ∈ calls, ∀ id, c.span? = some id → d.taken? = some id := by
  obtain ⟨q, a, use, hactor, ha⟩ := of_used? hu
  have htaken : d.taken? = (Continuation.next? d.before label).map (·.2) := by
    unfold taken? Actor.takes?
    rw [hactor]
    exact congrArg (fun u => Option.map _ (Option.bind u _)) ha
  rw [hactor] at h
  have htakes := h.takes hw ha
  cases hn : Continuation.next? d.before label with
  | none =>
    rw [hn] at htakes
    obtain ⟨calls, hadds, hc⟩ := htakes.adds
    refine ⟨calls, [], hadds, fun c hmem id hid => ?_⟩
    rw [hc c hmem] at hid
    cases hid
  | some p =>
    rw [hn] at htakes htaken
    obtain ⟨calls, exports, hadds, hon⟩ := htakes.adds
    refine ⟨calls, exports, hadds, fun c hmem id hid => ?_⟩
    rw [htaken, (hon c hmem).span_eq hid]
    rfl

end Deed

end

/-! ## Main statement -/

/-- No two requests have the same active span to begin with, and only passes make spans active.
Then no span is handed to the tracer twice by continuations, of one request or of several, and all
calls that a use of a continuation makes are about the span that it has taken.  Of two uses of one
continuation the later one returns false; and a use of a continuation that was used before returns
false and changes no span and no request, calls the tracer for nothing and exports nothing. -/
theorem continuations_share_no_span {w : World} {r : RequestName} {status : Int}
    {actions : List Action} (hw : w.Sound) (hunshared : w.Unshared)
    (hhands : ∀ d ∈ history r status actions w, d.actor.hands? = none) :
    let h := history r status actions w
    (takenIn h).Nodup ∧
    (∀ d ∈ h, ∀ label, d.used? = some label → ∃ calls exports,
      Adds d.before d.after calls exports ∧
      ∀ c ∈ calls, ∀ id, c.span? = some id → d.taken? = some id) ∧
    (∀ before d middle e rest label, h = before ++ d :: (middle ++ e :: rest) →
      d.used? = some label → e.used? = some label →
      (∀ m ∈ middle, m.actor.gives? ≠ some label) → e.Answers label false) ∧
    (∀ d ∈ h, ∀ label, d.used? = some label → Continuation.isDone d.before label = true →
      d.Answers label false ∧ d.after.spans = d.before.spans ∧
      d.after.requests = d.before.requests ∧ d.after.calls = d.before.calls ∧
      d.after.exports = d.before.exports) := by
  intro h
  have hstory : Story [] w h _ := history_story r status actions hw []
  have hmem : ∀ d ∈ h, Does d.actor d.before d.after ∧ d.before.Sound := by
    intro d hd
    obtain ⟨before, rest, he⟩ := List.append_of_mem hd
    rw [he] at hstory
    exact hstory.sound_at hw
  refine ⟨?_, ?_, ?_, ?_⟩
  · have hfirst : Parts [] w := ⟨hunshared, .nil, fun _ hid => absurd hid List.not_mem_nil⟩
    refine (hstory.run hw hfirst fun before d rest he _ hd _ hs hparts => ?_).2.once
    refine hparts.step hs hd (hhands d ?_)
    rw [show history r status actions w = _ from he]
    simp
  · intro d hd label hu
    obtain ⟨hdoes, hs⟩ := hmem d hd
    exact Deed.calls_on_taken hdoes hs hu
  · intro before d middle e rest label he hu hu' hgives
    rw [he] at hstory
    obtain ⟨hdoes, hs⟩ := hstory.sound_at hw
    have hrest := hstory.after_deed
    obtain ⟨hdoes', -, hnow⟩ := hrest.at_deed
    -- nothing in between hands out another continuation in the place of the one that was used
    have hdone : Continuation.isDone e.before label = true := by
      rw [hnow]
      exact (hrest.cut.1.run (I := fun _ u => Continuation.isDone u label = true)
        (hdoes.follows hs).sound (Deed.isDone_after hdoes hs hu)
        fun _ m _ hm _ hd _ hs hi => hd.isDone hs (hgives m (by simp [hm])) hi).2
    exact (Deed.again hdoes' hu' hdone).1
  · intro d hd label hu hdone
    obtain ⟨hanswers, hafter⟩ := Deed.again (hmem d hd).1 hu hdone
    obtain ⟨logs, rs, hlog⟩ := d.before.log_eq Pass.logger Continuation.doneEvent
    have hb := Becomes.log outerRequest 0 d.before Pass.logger Continuation.doneEvent
    refine ⟨hanswers, ?_, ?_, ?_, ?_⟩ <;> rw [hafter]
    · exact (congrArg World.spans hlog :)
    · exact (congrArg World.requests hlog :)
    · exact hb.calls.trans (List.append_nil _)
    · exact hb.exports.trans (List.append_nil _)

/-- Of two continuations of one request the second one takes the span, and the first one comes too
late for it.  A further pass gives the request another span, which is not for the two, but for a
continuation that is handed out later. -/
def competing : List Action :=
  [.handle (visit 0) "c" false
    [.startAsync "first" none, .startAsync "second" none, .complete "second" 200 none],
    .abandonAsync "first", .handle (visit 200) "c" false [], .complete "second" 200 none,
    .complete "first" 200 none, .startAsync "third" none, .abandonAsync "third"]

theorem competing_share_no_span :
    let h := history outerRequest 0 competing {}
    h.filterMap Deed.used? = ["second", "first", "second", "first", "third"] ∧
      takenIn h = [0, 1] ∧ (takenIn h).Nodup ∧
      (h.filter fun d => d.used?.any (Continuation.isDone d.before)).length = 2 ∧
      ∀ d ∈ h, ∀ label, d.used? = some label → Continuation.isDone d.before label = true →
        d.Answers label false := by
  intro h
  have hhands : ∀ d ∈ h, d.actor.hands? = none := by decide +kernel
  obtain ⟨honce, -, -, hagain⟩ := continuations_share_no_span (fun _ _ hr => by cases hr)
    (fun _ _ _ hr => by cases hr) hhands
  refine ⟨by decide +kernel, by decide +kernel, honce, by decide +kernel, ?_⟩
  intro d hd label hu hdone
  exact (hagain d hd label hu hdone).1

end SpanLifecycle
