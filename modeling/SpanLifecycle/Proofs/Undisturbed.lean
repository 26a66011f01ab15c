import SpanLifecycle.Proofs.OneReport
import SpanLifecycle.Proofs.Taking

/-!
# Requests that do not disturb each other

A deed touches a request if it is about the request, or about a span from a list of the request's
own (`Actor.touches`).  A deed that does not touch a request leaves its attributes and its spans as
they are (`Does.undisturbed`), and so does any number of them (`Story.undisturbed`).

A pass over another request, whose active span is none of the list and whose chain touches nothing,
is such a list of deeds; and it gives back the current span on every way out.  So the request cannot
tell that the pass was there (`handle_undisturbed`).
-/

namespace SpanLifecycle

/-! ## Touching -/

/-- From one world to another a request keeps its attributes, and the spans of a list are the same. -/
structure Undisturbed (m : RequestName) (own : List SpanId) (w w' : World) : Prop where
  length : w.spans.length ≤ w'.spans.length
  attributes : w'.attributes m = w.attributes m
  span : ∀ id ∈ own, w'.span id = w.span id

/-- The request whose bookkeeping an action is about, inside an exchange over the request `q`. -/
def Action.request? (q : RequestName) : Action → Option RequestName
  | .store o _ | .startAsync _ o => some (requestOr q o)
  | _ => none

/-- The span that an action closes or tags by hand. -/
def Action.span? : Action → Option SpanId
  | .finalize id _ _ | .abandon id | .tag id _ _ => some id
  | _ => none

/-- The request that a continuation was handed out for, and the span that its next use takes, if any
of them is to be counted as touched. -/
def Continuation.touches (m : RequestName) (own : List SpanId) (w : World) (label : String) : Bool :=
  (w.continuations.get? label).any (·.request = m) ||
    (Continuation.next? w label).any (own.contains ·.2)

/-- Whether an action inside an exchange over the request `q` is about the request `m`, or one of its
own spans. -/
def Action.touches (m : RequestName) (own : List SpanId) (w : World) (q : RequestName)
    (a : Action) : Bool :=
  a.request? q = some m || a.span?.any own.contains ||
    a.use?.any fun use => Continuation.touches m own w use.1

/-- Whether a deed that is done in a world is about a request, or one of its own spans. -/
def Actor.touches (m : RequestName) (own : List SpanId) (w : World) : Actor → Bool
  | .starts r _ | .refuses r => r = m
  | .resumes r id | .ends r id _ => r = m || own.contains id
  | .acts q a => a.touches m own w q
  | .shifts => false

namespace Undisturbed

variable {m r : RequestName} {own : List SpanId} {id : SpanId} {w w' w'' : World}

theorem refl (m : RequestName) (own : List SpanId) (w : World) : Undisturbed m own w w :=
  ⟨Nat.le_refl _, rfl, fun _ _ => rfl⟩

theorem trans (h : Undisturbed m own w w') (g : Undisturbed m own w' w'') :
    Undisturbed m own w w'' where
  length := Nat.le_trans h.length g.length
  attributes := g.attributes.trans h.attributes
  span id hid := (g.span id hid).trans (h.span id hid)

/-- A step on anything but spans and requests. -/
theorem aside (spans : w'.spans = w.spans) (requests : w'.requests = w.requests) :
    Undisturbed m own w w' where
  length := Nat.le_of_eq (congrArg List.length spans.symm)
  attributes := by
    unfold World.attributes
    rw [requests]
  span id _ := by
    unfold World.span
    rw [spans]

/-- A step on another request, and on a span that is none of the list. -/
theorem within (h : Within r id w w') (hr : r ≠ m) (hid : id ∉ own) : Undisturbed m own w w' where
  length := Nat.le_of_eq h.length.symm
  attributes := h.attributes m (Ne.symm hr)
  span j hj := h.span j fun h => hid (h ▸ hj)

/-- A step on another request that leaves all spans alone. -/
theorem of_becomes {n : Attributes} {calls : List TracerCall}
    (h : ∀ j, Becomes r j w w' { span := w.span j, attributes := n, calls }) (hr : r ≠ m) :
    Undisturbed m own w w' where
  length := Nat.le_of_eq (h 0).length.symm
  attributes := (h 0).attributes m (Ne.symm hr)
  span j _ := (h j).itsSpan

/-- A new span is none of those that there are. -/
theorem begins {x : Exchange} {c : String} (h : x.Begins c w w') (hx : x.request ≠ m)
    (hown : ∀ id ∈ own, id < w.spans.length) : Undisturbed m own w w' where
  length := by
    rw [h.length]
    exact Nat.le_succ _
  attributes := h.otherAttributes m (Ne.symm hx)
  span id hid := h.others id (Nat.ne_of_lt (hown id hid))

end Undisturbed

/-! ## Deeds -/

variable {m : RequestName} {own : List SpanId} {w w' u : World}

theorem Continuation.Takes.undisturbed {label : String} {r : RequestName} {id : SpanId} {s : Span}
    (h : Takes label r id s w w') (hr : r ≠ m) (hid : id ∉ own) : Undisturbed m own w w' where
  length := Nat.le_of_eq h.length.symm
  attributes := h.attributes m (Ne.symm hr)
  span j hj := h.span j fun h => hid (h ▸ hj)

/-- A use of a continuation that was not handed out for a request, and that takes none of its spans. -/
theorem Does.use_undisturbed {q : RequestName} {a : Action} {label : String} {use : Act Bool}
    (h : Does (.acts q a) w w') (hw : w.Sound) (hu : a.use? = some (label, use))
    (hk : ∀ k, w.continuations.get? label = some k → k.request ≠ m)
    (hn : ∀ r id, Continuation.next? w label = some (r, id) → id ∉ own) :
    Undisturbed m own w w' := by
  have htakes := h.takes hw hu
  cases hnext : Continuation.next? w label with
  | some p =>
    rw [hnext] at htakes
    exact htakes.undisturbed (hk _ (Continuation.next?_eq_some hnext).1) (hn p.1 p.2 hnext)
  | none =>
    rw [hnext] at htakes
    obtain ⟨-, rfl⟩ := h.of_use hu
    refine ⟨Nat.le_of_eq htakes.length.symm, ?_, fun j _ => htakes.span j⟩
    refine ((Action.use?_isTaking hu).marks hw m).resolve_right fun ⟨⟨k, hget, hrequest⟩, _⟩ => ?_
    exact hk k hget hrequest

/-- What an action that uses no continuation leaves alone: all requests and spans that there are, but
for those that it is about. -/
structure Action.Spares (q : RequestName) (a : Action) (w w' : World) : Prop where
  length : w.spans.length ≤ w'.spans.length
  attributes : ∀ r, a.request? q ≠ some r → w'.attributes r = w.attributes r
  span : ∀ id, id < w.spans.length → a.span? ≠ some id → w'.span id = w.span id

namespace Action

variable {q : RequestName} {a : Action}

theorem Spares.aside (spans : w'.spans = w.spans) (requests : w'.requests = w.requests) :
    Spares q a w w' where
  length := by simp [spans]
  attributes r _ := by simp [World.attributes, requests]
  span id _ _ := by simp [World.span, spans]

/-- A change to the bookkeeping of a request. -/
theorem Spares.of_request {r : RequestName} {n : Attributes}
    (h : ∀ j, Becomes r j w w' { span := w.span j, attributes := n })
    (hr : a.request? q = some r) : Spares q a w w' where
  length := Nat.le_of_eq (h 0).length.symm
  attributes p hp := (h 0).attributes p fun h => hp (by rw [hr, h])
  span id _ _ := (h id).itsSpan

/-- A change to a span. -/
theorem Spares.of_span {id : SpanId}
    (h : ∀ r, ∃ s calls exports, Becomes r id w w'
      { span := s, attributes := w.attributes r, calls, exports })
    (hid : a.span? = some id) : Spares q a w w' where
  length := by
    obtain ⟨s, calls, exports, h⟩ := h q
    exact Nat.le_of_eq h.length.symm
  attributes r _ := by
    obtain ⟨s, calls, exports, h⟩ := h r
    exact h.itsAttributes
  span j _ hj := by
    obtain ⟨s, calls, exports, h⟩ := h q
    exact h.span j fun h => hj (by rw [hid, h])

theorem perform_spares (h : w.missing? a = none) (hu : a.use? = none) :
    Spares q a w ((a.perform q).runIn w).2 := by
  cases a with
  | complete | abandonAsync => cases hu
  | store o call => exact .of_request (w.store_becomes _ call) rfl
  | startAsync label o =>
    have hflag : ∀ j, Becomes (requestOr q o) j w ((w.openRequest (requestOr q o)).modifyAttributes
        (requestOr q o) (·.raiseFlag .asyncStarted))
        { span := w.span j, attributes := (w.attributes (requestOr q o)).raiseFlag .asyncStarted } :=
      fun j => (Becomes.openRequest _ j w _).thenModifyAttributes _
    have hspares : Spares q (.startAsync label o) w _ := .of_request hflag rfl
    exact ⟨hspares.length, hspares.attributes, hspares.span⟩
  | start headers name method path =>
    unfold perform
    rw [Act.runIn_bind]
    cases hf : w.failures.of? .create with
    | some e =>
      rw [Tracer.start_failed hf]
      exact .aside rfl rfl
    | none =>
      obtain ⟨v, hv, hs⟩ := Tracer.start_ok hf headers name method path
      obtain ⟨s, hspans, -⟩ := hs.spans
      rw [hv]
      refine ⟨?_, fun r _ => ?_, fun id hid _ => ?_⟩
      · simp [hspans]
      · simp [World.attributes, hs.requests]
      · simp [World.span_append hspans, Nat.ne_of_lt hid]
  | finalize id code failure =>
    unfold perform
    rw [runIn_map_snd]
    exact .of_span (fun r => Tracer.finalize_becomes r code _ (lt_of_missing? h)) rfl
  | abandon id =>
    unfold perform
    rw [runIn_map_snd]
    refine .of_span (fun r => ?_) rfl
    obtain ⟨s, calls, -, hb⟩ := Tracer.abandon_becomes r (lt_of_missing? h)
    exact ⟨s, calls, [], hb⟩
  | tag id key value =>
    exact .of_span (fun r => ⟨_, [], [], .modifySpan r id w _ (lt_of_missing? h)⟩) rfl
  | hasErrorHandler c =>
    unfold perform
    rw [runIn_map_snd]
    obtain ⟨v, hv, -, hb⟩ := Pass.hasErrorHandler_answer c w
    rw [hv]
    exact ⟨Nat.le_of_eq (hb q 0).length.symm, fun r _ => (hb r 0).itsAttributes,
      fun id _ _ => (hb q id).itsSpan⟩
  | close label =>
    unfold perform
    simp only [Act.runIn_bind, Act.runIn_modify, Act.runIn_pure]
    split
    · exact .aside rfl rfl
    · next scope _ =>
      unfold World.close
      split <;> exact .aside rfl rfl
  | _ => exact .aside rfl rfl

/-- An action that does not touch a request does not disturb it. -/
theorem performAt_undisturbed (hw : w.Sound) (hown : ∀ id ∈ own, id < w.spans.length)
    (status : Int) (h : w.missing? a = none) (ht : a.touches m own w q = false) :
    Undisturbed m own w (a.performAt q status w).world := by
  unfold touches at ht
  simp only [Bool.or_eq_false_iff] at ht
  obtain ⟨⟨hrequest, hspan⟩, huse⟩ := ht
  cases hu : a.use? with
  | some use =>
    simp only [hu, Option.any_some, Continuation.touches, Bool.or_eq_false_iff] at huse
    refine Does.use_undisturbed (.acts h) hw hu (fun k hk => ?_) fun r id hn => ?_
    · simpa [hk] using huse.1
    · simpa [hn] using huse.2
  | none =>
    rw [performAt_world]
    have hspares := perform_spares (q := q) h hu
    refine ⟨hspares.length, hspares.attributes m (by simpa using hrequest), fun id hid => ?_⟩
    refine hspares.span id (hown id hid) fun hs => ?_
    simp [hs, hid] at hspan

end Action

/-- A deed that does not touch a request does not disturb it. -/
theorem Does.undisturbed {actor : Actor} (h : Does actor w w') (hw : w.Sound)
    (hown : ∀ id ∈ own, id < w.spans.length) (ht : actor.touches m own w = false) :
    Undisturbed m own w w' := by
  cases h with
  | starts h ha =>
    have hx := by simpa [Actor.touches] using ht
    exact .begins (Exchange.chainStart?_begins h ha) hx hown
  | resumes h ha =>
    simp only [Actor.touches, Bool.or_eq_false_iff, decide_eq_false_iff_not] at ht
    exact .of_becomes (Exchange.chainStart?_resumes h ha) ht.1
  | refuses chain h =>
    obtain ⟨n, calls, hb, -⟩ := Exchange.handle_refused h chain
    exact .of_becomes hb (by simpa [Actor.touches] using ht)
  | endsNormal scope chain hid =>
    simp only [Actor.touches, Bool.or_eq_false_iff, decide_eq_false_iff_not] at ht
    exact .within (Pass.runNormal_treats _ _ scope hid).toWithin ht.1 (by simpa using ht.2)
  | endsError scope chain hid =>
    simp only [Actor.touches, Bool.or_eq_false_iff, decide_eq_false_iff_not] at ht
    exact .within (Pass.runError_treats _ scope hid).1.toWithin ht.1 (by simpa using ht.2)
  | acts h => exact Action.performAt_undisturbed hw hown _ h ht
  | shifts current => exact .aside rfl rfl

/-- So do any number of deeds that do not touch it. -/
theorem Story.undisturbed {past l : List Deed} (h : Story past w l u) (hw : w.Sound)
    (hown : ∀ id ∈ own, id < w.spans.length)
    (ht : ∀ d ∈ l, d.actor.touches m own d.before = false) : Undisturbed m own w u := by
  refine (h.run (I := fun _ u => Undisturbed m own w u) hw (.refl m own w) ?_).2
  intro before d rest hl _ hd _ hsound hu
  have hmem : d ∈ l := by
    rw [hl]
    exact List.mem_append_right _ List.mem_cons_self
  exact hu.trans (hd.undisturbed hsound
    (fun id hid => Nat.lt_of_lt_of_le (hown id hid) hu.length) (ht d hmem))

/-! ## Passes -/

/-- A pass over another request disturbs nothing that its chain does not disturb. -/
theorem Exchange.handle_undisturbs {x : Exchange} {c : String} {ρ : Type} {chain : Chain ρ}
    (hw : w.Sound) (hown : ∀ id ∈ own, id < w.spans.length) (hx : x.request ≠ m)
    (hactive : ∀ id, (w.attributes x.request).activeSpan = some (.span id) → id ∉ own)
    (hchain : ∀ v, x.chainStart? c w = some v → Undisturbed m own v (chain v).world) :
    Undisturbed m own w (x.handle c chain w).world := by
  cases hv : x.chainStart? c w with
  | none =>
    obtain ⟨n, calls, hb, -⟩ := handle_refused hv chain
    exact .of_becomes hb hx
  | some v =>
    have hrun := hchain v hv
    have hid := Nat.lt_of_lt_of_le (spanIn_lt hv hw) hrun.length
    have hlast : x.spanIn w ∉ own →
        Undisturbed m own (chain v).world (x.handle c chain w).world :=
      .within (handle_treats hv hid).toWithin hx
    unfold spanIn at hlast
    cases ha : Attribute.present? (w.attributes x.request).activeSpan with
    | none =>
      rw [ha] at hlast
      have hopen : Undisturbed m own w v := .begins (chainStart?_begins hv ha) hx hown
      exact (hopen.trans hrun).trans (hlast fun hmem => Nat.lt_irrefl _ (hown _ hmem))
    | some a =>
      obtain ⟨id, rfl⟩ := chainStart?_active hv ha
      rw [ha] at hlast
      have hopen : Undisturbed m own w v := .of_becomes (chainStart?_resumes hv ha) hx
      exact (hopen.trans hrun).trans (hlast (hactive id (Attribute.of_present? ha)))

/-- The verdict on a span of a request depends on nothing that undisturbed requests have lost, beyond
what the coordinator answers. -/
theorem Undisturbed.outcome (h : Undisturbed m own w w') (hcurrent : w'.current = w.current)
    {id : SpanId} (hid : id ∈ own) :
    w'.isCurrent id = w.isCurrent id ∧ ∀ status failure handler,
      Pass.outcome w' m status id failure handler = Pass.outcome w m status id failure handler := by
  have his : w'.isCurrent id = w.isCurrent id := by
    unfold World.isCurrent World.anchor
    rw [hcurrent, h.span id hid]
  refine ⟨his, fun status failure handler => ?_⟩
  unfold Pass.outcome
  rw [his, h.span id hid, h.attributes]

/-- Requests do not disturb each other.  Wherever a request `m` with the spans `own` is traced, let
there be a pass over another request: over any exchange, by any coordinator, with any program as its
chain, however it nests further passes and whatever it raises.  The pass may be a first or a later
one, or an error pass; only its active span is not to be one of `own`, and no deed of its chain is to
touch `m` or `own`.

Then the pass leaves the status of the enclosing exchange, the attributes of `m`, the spans `own` and
the current span as they were, and so all that a verdict on one of the spans depends on, beyond what
the coordinator answers. -/
theorem handle_undisturbed (hw : w.Sound) (hown : ∀ id ∈ own, id < w.spans.length) {x : Exchange}
    {c : String} {chain : List Action} (hx : x.request ≠ m)
    (hactive : ∀ id, (w.attributes x.request).activeSpan = some (.span id) → id ∉ own)
    (hchain : ∀ v, x.chainStart? c w = some v →
      ∀ d ∈ history x.request x.status chain v, d.actor.touches m own d.before = false)
    (r : RequestName) (status : Int) (raiseOn : Bool) :
    let done := runAction r status (.handle x c raiseOn chain) w
    done.status = status ∧ done.world.attributes m = w.attributes m ∧
    (∀ id ∈ own, done.world.span id = w.span id) ∧
    done.world.current = w.current ∧
    ∀ id ∈ own, done.world.isCurrent id = w.isCurrent id ∧ ∀ status failure handler,
      Pass.outcome done.world m status id failure handler =
        Pass.outcome w m status id failure handler := by
  intro done
  have hrun : done.status = status ∧ done.world =
      (x.handle c (fun w => runActions x.request x.status chain w) w).world := by
    unfold done
    rw [runAction]
    exact ⟨rfl, rfl⟩
  have hcurrent : done.world.current = w.current := by
    rw [hrun.2]
    exact x.handle_current c _ w
  have hsame : Undisturbed m own w done.world := by
    rw [hrun.2]
    refine x.handle_undisturbs hw hown hx hactive fun v hv => ?_
    have hstart := Exchange.chainStart?_follows hw x c hv
    exact (history_story x.request x.status chain hstart.sound []).undisturbed hstart.sound
      (fun id hid => Nat.lt_of_lt_of_le (hown id hid) hstart.run.length_le) (hchain v hv)
  exact ⟨hrun.1, hsame.attributes, hsame.span, hcurrent, fun id hid => hsame.outcome hcurrent hid⟩

/-- A world in which the chain of a first pass is just about to start, over the request of `visit`. -/
def visited : World := ((visit 0).chainStart? "c" {}).getD {}

/-- A further request inside the chain of a first one, handled by the same coordinator: it leaves a
span current, goes asynchronous, is passed over again, and fails. -/
def intruding : List Action :=
  [.start [] "other" "GET" "/", .attach 2, .startAsync "k" none,
    .handle { visit 500 with request := .label "b" } "c" false [.attach 1],
    .complete "k" 200 none, .raise { kind := .runtimeError }]

theorem intruding_undisturbed :
    let done := runAction outerRequest 0
      (.handle { visit 0 with request := .label "b" } "c" true intruding) visited
    done.raised = some { kind := .runtimeError } ∧ done.status = 0 ∧
    done.world.spans.length = 3 ∧
    done.world.attributes outerRequest = visited.attributes outerRequest ∧
    done.world.span 0 = visited.span 0 ∧ done.world.current = some 0 := by
  intro done
  have hstart : (visit 0).chainStart? "c" {} = some visited := rfl
  have hsound : visited.Sound :=
    (Exchange.chainStart?_follows (fun _ _ h => by cases h) _ _ hstart).sound
  have hchain : ∀ v, Exchange.chainStart? { visit 0 with request := .label "b" } "c" visited =
      some v → ∀ d ∈ history (.label "b") 0 intruding v,
        d.actor.touches outerRequest [0] d.before = false := by
    intro v hv
    cases hv
    decide +kernel
  obtain ⟨hstatus, hattributes, hspan, hcurrent, -⟩ :=
    handle_undisturbed hsound (by decide +kernel) (x := { visit 0 with request := .label "b" })
      (c := "c") (by decide) (fun id hid => by cases hid) hchain outerRequest 0 true
  refine ⟨by decide +kernel, hstatus, by decide +kernel, hattributes, ?_, hcurrent⟩
  exact hspan 0 (List.mem_singleton_self 0)

end SpanLifecycle
