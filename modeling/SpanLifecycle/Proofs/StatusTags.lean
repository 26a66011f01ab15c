import SpanLifecycle.Proofs.Closing
import SpanLifecycle.Proofs.Unshared

/-!
# Which spans carry which status

The status of a response is written on a span by its report, if it is the status of a failure, and
before that by a normal pass or a completion, if the request says that its span started without a
parent.  What the request says so is a flag, which outlives the span that it was set for.  As long as
all exchanges over the request carry the same headers, and nobody else meddles, that makes no
difference: the flag is set exactly if spans were started for the request, and all of them are roots.
`Accords` is that invariant, and every deed keeps it (`Accords.step`).

The main statement is `status_tags`.
-/

namespace SpanLifecycle

/-! ## The exchanges of a program -/

mutual

/-- The exchanges that an action handles. -/
def handledBy (r : RequestName) (status : Int) (a : Action) (w : World) : List Exchange :=
  match w.missing? a with
  | some _ => []
  | none =>
    match a with
    | .handle x c _ chain =>
      x :: match x.chainStart? c w with
        | none => []
        | some v => handledIn x.request x.status chain v
    | .attempt body => handledIn r status body w
    | .during id body => handledIn r status body (w.activate id).2
    | _ => []

/-- The exchanges that a program handles, up to the first action that raises. -/
def handledIn (r : RequestName) (status : Int) (actions : List Action) (w : World) :
    List Exchange :=
  match actions with
  | [] => []
  | a :: rest =>
    let step := runAction r status a w
    handledBy r status a w ++
      match step.raised with
      | some _ => []
      | none => handledIn r step.status rest step.world

end

/-- A deed is the opening of a pass over an exchange, by which its request was given a span. -/
def Deed.Starts (d : Deed) (x : Exchange) : Prop :=
  ∃ c, x.chainStart? c d.before = some d.after ∧
    Attribute.present? (d.before.attributes x.request).activeSpan = none

theorem Exchange.opening_starts {x : Exchange} {c : String} {w v : World} {m : RequestName}
    {id : SpanId} (h : x.chainStart? c w = some v)
    (hs : (x.opening w).started? = some (m, id)) :
    x.request = m ∧ Deed.Starts ⟨x.opening w, w, v⟩ x := by
  unfold opening at hs
  cases ha : Attribute.present? (w.attributes x.request).activeSpan with
  | none =>
    rw [ha] at hs
    cases hs
    exact ⟨rfl, c, h, ha⟩
  | some a =>
    rw [ha] at hs
    cases a <;> cases hs

mutual

theorem deeds_starts (r : RequestName) (status : Int) (a : Action) (w : World)
    {m : RequestName} {id : SpanId} {d : Deed} (hd : d ∈ deeds r status a w)
    (hs : d.actor.started? = some (m, id)) :
    ∃ x ∈ handledBy r status a w, x.request = m ∧ d.Starts x := by
  cases a with
  | handle x c raiseOn chain =>
    unfold deeds at hd
    unfold handledBy
    dsimp only [World.missing?] at hd ⊢
    cases hv : x.chainStart? c w with
    | none =>
      rw [hv] at hd
      rw [List.mem_singleton.mp hd] at hs
      cases hs
    | some v =>
      rw [hv] at hd
      simp only [List.mem_cons, List.mem_append, List.not_mem_nil, or_false] at hd ⊢
      rcases hd with rfl | hd | rfl
      · obtain ⟨hx, hstarts⟩ := Exchange.opening_starts hv hs
        exact ⟨x, .inl rfl, hx, hstarts⟩
      · obtain ⟨y, hy, hstarts⟩ := history_starts x.request x.status chain v hd hs
        exact ⟨y, .inr hy, hstarts⟩
      · cases hs
  | attempt body =>
    unfold deeds at hd
    unfold handledBy
    exact history_starts r status body w hd hs
  | during i body =>
    unfold deeds at hd
    unfold handledBy
    cases hm : w.missing? (.during i body) with
    | some kind =>
      rw [hm] at hd
      exact absurd hd List.not_mem_nil
    | none =>
      rw [hm] at hd
      simp only [List.mem_cons, List.mem_append, List.not_mem_nil, or_false] at hd
      rcases hd with rfl | hd | rfl
      · cases hs
      · exact history_starts r status body _ hd hs
      · cases hs
  | status code =>
    unfold deeds at hd
    exact absurd hd List.not_mem_nil
  | _ =>
    unfold deeds at hd
    generalize hm : w.missing? _ = missing at hd
    cases missing with
    | some kind => exact absurd hd List.not_mem_nil
    | none =>
      rw [List.mem_singleton.mp hd] at hs
      cases hs

/-- Every span that a program starts for a request is started by a pass over one of its exchanges. -/
theorem history_starts (r : RequestName) (status : Int) (actions : List Action) (w : World)
    {m : RequestName} {id : SpanId} {d : Deed} (hd : d ∈ history r status actions w)
    (hs : d.actor.started? = some (m, id)) :
    ∃ x ∈ handledIn r status actions w, x.request = m ∧ d.Starts x := by
  cases actions with
  | nil =>
    unfold history at hd
    exact absurd hd List.not_mem_nil
  | cons a rest =>
    unfold history at hd
    unfold handledIn
    dsimp only at hd ⊢
    simp only [List.mem_append] at hd ⊢
    rcases hd with hd | hd
    · obtain ⟨x, hx, hstarts⟩ := deeds_starts r status a w hd hs
      exact ⟨x, .inl hx, hstarts⟩
    · cases hraised : (runAction r status a w).raised with
      | some e =>
        rw [hraised] at hd
        exact absurd hd List.not_mem_nil
      | none =>
        rw [hraised] at hd
        obtain ⟨x, hx, hstarts⟩ := history_starts r _ rest _ hd hs
        exact ⟨x, .inr hx, hstarts⟩

end

/-! ## Meddling -/

/-- A call by which the tracing's own keys are written that tell of spans, or the mapping behind
them. -/
def StoreCall.meddles : StoreCall → Bool
  | .setActiveSpan _ | .markSpanWithoutParent | .setRaw .. | .deleteRaw _ => true
  | _ => false

/-- Whether an actor does what is left to passes and continuations: it makes a span the active one of
a request, says that one started without a parent, writes to the mapping behind the bookkeeping, or
sets a tag. -/
def Actor.meddles : Actor → Bool
  | .acts _ (.store _ call) => call.meddles
  | .acts _ (.tag ..) => true
  | _ => false

namespace Actor

variable {actor : Actor}

theorem hands?_of_meddles (h : actor.meddles = false) : actor.hands? = none := by
  cases actor with
  | acts q a =>
    cases a with
    | store o call => cases call <;> first | rfl | cases h
    | _ => rfl
  | _ => rfl

theorem isTag_of_meddles (h : actor.meddles = false) : actor.isTag = false := by
  cases actor with
  | acts q a => cases a <;> first | rfl | cases h
  | _ => rfl

end Actor

/-! ## The flag of a request -/

namespace Attributes

theorem Marks.isSpanWithoutParent {m m' : Attributes} (h : m.Marks m') :
    m'.isSpanWithoutParent = m.isSpanWithoutParent := by
  induction h with
  | refl => rfl
  | tail _ hstep ih =>
    rw [← ih]
    cases hstep <;> simp

theorem markSpanContinued_isSpanWithoutParent (m : Attributes) :
    m.markSpanContinued.isSpanWithoutParent = m.isSpanWithoutParent := by
  unfold markSpanContinued
  split <;> simp

end Attributes

theorem StoreCall.run_isSpanWithoutParent {call : StoreCall} (h : call.meddles = false)
    (m : Attributes) : (call.run m).2.isSpanWithoutParent = m.isSpanWithoutParent := by
  cases call with
  | setActiveSpan | markSpanWithoutParent | setRaw | deleteRaw => cases h
  | markSpanContinued => exact m.markSpanContinued_isSpanWithoutParent
  | _ => simp [run]

section

variable {actor : Actor} {m : RequestName} {w w' : World}

/-- Who is about another request does not touch the flag of one. -/
theorem Treats.isSpanWithoutParent {r : RequestName} {id : SpanId} (h : Treats r id w w')
    (q : RequestName) :
    (w'.attributes q).isSpanWithoutParent = (w.attributes q).isSpanWithoutParent := by
  by_cases hq : q = r
  · subst hq
    exact h.marks.isSpanWithoutParent
  · rw [h.attributes q hq]

/-- A change to one request that keeps its flag keeps all flags. -/
theorem Within.isSpanWithoutParent {r : RequestName} {id : SpanId} (h : Within r id w w')
    (hr : (w'.attributes r).isSpanWithoutParent = (w.attributes r).isSpanWithoutParent)
    (q : RequestName) :
    (w'.attributes q).isSpanWithoutParent = (w.attributes q).isSpanWithoutParent := by
  by_cases hq : q = r
  · subst hq
    exact hr
  · rw [h.attributes q hq]

/-- Where nobody meddles, only the pass that gives a request a span sets the request's flag. -/
theorem Does.isSpanWithoutParent (h : Does actor w w') (hw : w.Sound)
    (hmeddles : actor.meddles = false) (hs : ∀ id, actor.started? ≠ some (m, id)) :
    (w'.attributes m).isSpanWithoutParent = (w.attributes m).isSpanWithoutParent := by
  cases h with
  | @starts x c _ _ h ha =>
    have hm : m ≠ x.request := fun hm => hs w.spans.length (by rw [hm]; rfl)
    rw [(Exchange.chainStart?_begins h ha).otherAttributes m hm]
  | @resumes x c _ _ id h ha =>
    have hb := Exchange.chainStart?_resumes h ha 0
    refine hb.toWithin.isSpanWithoutParent ?_ m
    rw [hb.itsAttributes, Attributes.markSpanContinued_isSpanWithoutParent]
  | refuses chain h =>
    obtain ⟨n, calls, hb, -, hn⟩ := Exchange.handle_refused_becomes h chain
    refine (hb 0).toWithin.isSpanWithoutParent ?_ m
    rw [(hb 0).itsAttributes]
    rcases hn with ⟨raised, rfl⟩ | rfl
    · exact (Attributes.Marks.noted raised _).isSpanWithoutParent
    · exact Attributes.markSpanContinued_isSpanWithoutParent _
  | endsNormal scope chain hid =>
    exact (Pass.runNormal_treats _ _ scope hid).isSpanWithoutParent m
  | endsError scope chain hid =>
    exact (Pass.runError_treats _ scope hid).1.isSpanWithoutParent m
  | @acts q status a _ hm =>
    rw [Action.performAt_world]
    cases hu : a.use? with
    | some use =>
      have hdoes : Does (.acts q a) w (a.performAt q status w).world := .acts hm
      obtain ⟨-, hafter⟩ := hdoes.of_use hu
      rw [← Action.performAt_world a q status, hafter]
      rcases (Action.use?_isTaking hu).marks hw m with hsame | ⟨-, hmarks⟩
      · rw [hsame]
      · rw [hmarks.isSpanWithoutParent]
        unfold Continuation.taken
        simp
    | none =>
      by_cases hr : a.request? q = some m
      · cases a with
        | store o call =>
          cases hr
          have hb := w.store_becomes (Action.requestOr q o) call 0
          exact (congrArg Attributes.isSpanWithoutParent hb.itsAttributes).trans
            (call.run_isSpanWithoutParent hmeddles _)
        | startAsync label o =>
          cases hr
          have hb := (Becomes.openRequest (Action.requestOr q o) 0 w
            (Action.requestOr q o)).thenModifyAttributes (·.raiseFlag .asyncStarted)
          refine (congrArg Attributes.isSpanWithoutParent hb.itsAttributes).trans ?_
          simp
        | _ => cases hr
      · rw [(Action.perform_spares hm hu).attributes m hr]
  | shifts => rfl

end

/-! ## Along a story -/

/-- After the deeds of the past, for a request whose spans start under a parent, or all without one:
the request goes by spans of its own, and no other request does, nor has any pass gone on with a span
for another request than its own; the flag tells whether the spans are roots; and the spans that are
not roots have only the tags of failures. -/
structure Accords (m : RequestName) (origin : Option SpanContext) (past : List Deed) (w : World) :
    Prop where
  active : ∀ q id, (w.attributes q).activeSpan = some (.span id) →
    ((m, id) ∈ startedIn past ↔ q = m)
  resumed : ∀ q id, (q, id) ∈ resumedIn past →
    id < w.spans.length ∧ ((m, id) ∈ startedIn past ↔ q = m)
  flag : (w.attributes m).isSpanWithoutParent = true ↔
    origin = none ∧ ∃ id, (m, id) ∈ startedIn past
  root : ∀ id, (m, id) ∈ startedIn past → (w.span id).isRoot = origin.isNone
  tags : origin ≠ none → ∀ id, (m, id) ∈ startedIn past → (w.span id).TagsFailures

namespace Accords

variable {m : RequestName} {origin : Option SpanContext} {past : List Deed} {actor : Actor}
  {w w' : World}

/-- To begin with, a request that was not traced has no spans. -/
theorem first (hw : (w.attributes m).IsUntraced) : Accords m origin [] w where
  active q id hid := by
    refine iff_of_false List.not_mem_nil fun hq => ?_
    rw [hq, show (w.attributes m).activeSpan = none from hw .activeSpan] at hid
    cases hid
  resumed q id hid := absurd hid List.not_mem_nil
  flag := by
    rw [show (w.attributes m).isSpanWithoutParent = false from hw.flag _]
    simp [startedIn]
  root id hid := absurd hid List.not_mem_nil
  tags _ id hid := absurd hid List.not_mem_nil

/-- A normal pass that ends over a span of the request's own is over the request, and so is the use of
a continuation that takes one. -/
theorem request_eq {r : RequestName} {id : SpanId} (h : Accords m origin past w)
    (honce : ∀ r q id, (r, id) ∈ startedIn past → (q, id) ∈ startedIn past → r = q)
    (hopened : actor.IsOpened past)
    (ho : actor = .ends r id false ∨ actor.takes? w = some (r, id)) :
    (m, id) ∈ startedIn past ↔ r = m := by
  rcases ho with rfl | ht
  · rcases hopened with hr | hr
    · exact ⟨fun hm => honce r m id hr hm, fun hrm => hrm ▸ hr⟩
    · exact (h.resumed r id hr).2
  · obtain ⟨⟨label, use⟩, -, hnext⟩ := Option.bind_eq_some_iff.mp ht
    exact h.active r id (Continuation.next?_eq_some hnext).2

/-- What becomes of the spans that the request has had before. -/
theorem handles {id : SpanId} (h : Accords m origin past w)
    (honce : ∀ r q id, (r, id) ∈ startedIn past → (q, id) ∈ startedIn past → r = q)
    (hopened : actor.IsOpened past) (hid : (m, id) ∈ startedIn past)
    (hhandles : Handles actor id w w') :
    (w'.span id).isRoot = origin.isNone ∧ (origin ≠ none → (w'.span id).TagsFailures) := by
  have hroot := h.root id hid
  unfold Span.isRoot at hroot ⊢
  cases hhandles with
  | same hspan =>
    rw [hspan]
    exact ⟨hroot, fun ho => h.tags ho id hid⟩
  | closes hclosing =>
    rw [hclosing.parent]
    exact ⟨hroot, fun ho => hclosing.tagsFailures (h.tags ho id hid)⟩
  | concludes ho hconcludes =>
    obtain ⟨status, cause, stamp, calls, exports, -, hclosing, hflag, -⟩ := hconcludes
    have hparent : ((w.span id).stamped stamp).parent = (w.span id).parent := by
      cases stamp <;> rfl
    rw [hclosing.parent, hparent]
    refine ⟨hroot, fun horigin => ?_⟩
    obtain rfl := (h.request_eq honce hopened ho).mp hid
    -- without the flag nothing is written before the report
    have hnone : stamp = none := by
      by_contra hs
      exact horigin (h.flag.mp (hflag hs)).1
    subst hnone
    exact hclosing.tagsFailures (h.tags horigin id hid)

/-- A request goes by the spans that passes have given it, and by no other. -/
theorem step_active (h : Accords m origin past w) (hw : w.Sound)
    (hlt : ∀ r id, (r, id) ∈ startedIn past → id < w.spans.length) (hd : Does actor w w')
    (hmeddles : actor.meddles = false) {q : RequestName} {id : SpanId}
    (hid : (w'.attributes q).activeSpan = some (.span id)) :
    (m, id) ∈ startedIn (past ++ [⟨actor, w, w'⟩]) ↔ q = m := by
  rw [mem_startedIn_append]
  rcases (hd.works hw).active (Actor.hands?_of_meddles hmeddles) hid with hq | hq
  · -- an older span is none that starts now
    have hold : actor.started? ≠ some (m, id) := fun hs =>
      absurd (hd.started hs).1 (Nat.ne_of_lt (hw q id hq))
    simpa [hold] using h.active q id hq
  · have hnew : (m, id) ∉ startedIn past := fun hm =>
      absurd (hd.started hq).1 (Nat.ne_of_lt (hlt m id hm))
    simp [hnew, hq]

theorem step_resumed (h : Accords m origin past w) (hw : w.Sound) (hd : Does actor w w')
    {q : RequestName} {id : SpanId} (hid : (q, id) ∈ resumedIn (past ++ [⟨actor, w, w'⟩])) :
    id < w'.spans.length ∧ ((m, id) ∈ startedIn (past ++ [⟨actor, w, w'⟩]) ↔ q = m) := by
  have hlen := (hd.follows hw).run.length_le
  obtain ⟨hlt, hown⟩ : id < w.spans.length ∧ ((m, id) ∈ startedIn past ↔ q = m) := by
    rcases mem_resumedIn_append.mp hid with hid | hid
    · exact h.resumed q id hid
    · cases hd.works hw with
      | resumes ha _ =>
        cases hid
        exact ⟨hw q id ha, h.active q id ha⟩
      | _ => cases hid
  refine ⟨Nat.lt_of_lt_of_le hlt hlen, ?_⟩
  rw [mem_startedIn_append, ← hown]
  exact or_iff_left fun hs => absurd (hd.started hs).1 (Nat.ne_of_lt hlt)

/-- Every deed keeps the accord, if nobody meddles, and the spans that passes give to the request are
of the same origin. -/
theorem step (h : Accords m origin past w) (hw : w.Sound)
    (hlt : ∀ r id, (r, id) ∈ startedIn past → id < w.spans.length)
    (honce : ∀ r q id, (r, id) ∈ startedIn past → (q, id) ∈ startedIn past → r = q)
    (hd : Does actor w w') (hopened : actor.IsOpened past) (hmeddles : actor.meddles = false)
    (hstart : ∀ id, actor.started? = some (m, id) → ∃ x c, x.request = m ∧
      SpanContext.ofHeaders? x.headers = origin ∧ Exchange.Begins x c w w') :
    Accords m origin (past ++ [⟨actor, w, w'⟩]) w' := by
  have hold : ∀ id, (m, id) ∈ startedIn past →
      (w'.span id).isRoot = origin.isNone ∧ (origin ≠ none → (w'.span id).TagsFailures) :=
    fun id hid => h.handles honce hopened hid
      (hd.handles hw (Actor.isTag_of_meddles hmeddles) (hlt m id hid))
  have hactive : ∀ q id, (w'.attributes q).activeSpan = some (.span id) →
      ((m, id) ∈ startedIn (past ++ [⟨actor, w, w'⟩]) ↔ q = m) :=
    fun q id => h.step_active hw hlt hd hmeddles
  have hresumed : ∀ q id, (q, id) ∈ resumedIn (past ++ [⟨actor, w, w'⟩]) →
      id < w'.spans.length ∧ ((m, id) ∈ startedIn (past ++ [⟨actor, w, w'⟩]) ↔ q = m) :=
    fun q id => h.step_resumed hw hd
  have hmem : ∀ id, (m, id) ∈ startedIn (past ++ [⟨actor, w, w'⟩]) ↔
      (m, id) ∈ startedIn past ∨ actor.started? = some (m, id) := fun id => mem_startedIn_append
  by_cases hs : ∃ id, actor.started? = some (m, id)
  · obtain ⟨id, hs⟩ := hs
    obtain ⟨x, c, rfl, horigin, hb⟩ := hstart id hs
    obtain ⟨rfl, -⟩ := hd.started hs
    have hnewRoot : (w'.span w.spans.length).isRoot = origin.isNone := by
      unfold Span.isRoot
      rw [hb.span.parent, horigin]
      cases origin <;> rfl
    have hfor : ∀ j, (x.request, j) ∈ startedIn (past ++ [⟨actor, w, w'⟩]) →
        (w'.span j).isRoot = origin.isNone ∧ (origin ≠ none → (w'.span j).TagsFailures) := by
      intro j hj
      rcases (hmem j).mp hj with hj | hj
      · exact hold j hj
      · rw [hs] at hj
        cases hj
        refine ⟨hnewRoot, fun _ t ht => ?_⟩
        rw [hb.span.untagged] at ht
        cases ht
    refine ⟨hactive, hresumed, ?_, fun j hj => (hfor j hj).1, fun ho j hj => (hfor j hj).2 ho⟩
    have hnew : ∃ j, (x.request, j) ∈ startedIn (past ++ [⟨actor, w, w'⟩]) :=
      ⟨w.spans.length, (hmem _).mpr (.inr hs)⟩
    rw [hb.attributes, hnewRoot]
    cases horigin' : origin with
    | none => simp [openingAttributes, hnew, Attribute.truthy, Value.truthy]
    | some p =>
      have hbefore := h.flag
      simp only [horigin', reduceCtorEq, false_and, iff_false, Bool.not_eq_true] at hbefore
      simpa [openingAttributes] using hbefore
  · have hsame : ∀ id, (m, id) ∈ startedIn (past ++ [⟨actor, w, w'⟩]) ↔ (m, id) ∈ startedIn past :=
      fun id => (hmem id).trans (or_iff_left fun hid => hs ⟨id, hid⟩)
    have hflag := hd.isSpanWithoutParent (m := m) hw hmeddles fun id hid => hs ⟨id, hid⟩
    refine ⟨hactive, hresumed, ?_, ?_, ?_⟩ <;> simp only [hsame]
    · rw [hflag]
      exact h.flag
    · exact fun id hid => (hold id hid).1
    · exact fun ho id hid => (hold id hid).2 ho

end Accords

/-- The accord lasts throughout a story. -/
theorem Story.accords {m : RequestName} {origin : Option SpanContext} {l : List Deed} {w u : World}
    (h : Story [] w l u) (hw : w.Sound) (hm : (w.attributes m).IsUntraced)
    (hmeddles : ∀ d ∈ l, d.actor.meddles = false)
    (hstarts : ∀ d ∈ l, ∀ id, d.actor.started? = some (m, id) → ∃ x, x.request = m ∧
      SpanContext.ofHeaders? x.headers = origin ∧ d.Starts x) :
    Accords m origin l u := by
  refine (h.run (I := Accords m origin) hw (.first hm) ?_).2
  intro before d rest hl hbefore hd hopened hsound haccords
  obtain ⟨hlt, honce⟩ := hbefore.started hw
  have hmem : d ∈ l := by simp [hl]
  refine haccords.step hsound hlt honce hd hopened (hmeddles d hmem) fun id hid => ?_
  obtain ⟨x, hx, horigin, c, hv, ha⟩ := hstarts d hmem id hid
  exact ⟨x, c, hx, horigin, Exchange.chainStart?_begins hv ha⟩

/-! ## Main statement -/

/-- Which spans carry which status.  Let a request have no bookkeeping to begin with, let all exchanges
over it carry the same headers, and let nobody set active spans, tags or the flag of a span without
parent by hand, or write to mappings.

If the headers name a parent, then at no point does a span of the request have the tag of another
status than that of a failure.

If they do not, all spans of the request are roots; and whenever a normal pass over the request, or a
use of one of its continuations, finalizes a span without an exception and with the status of a
response, then the span has the tag of that status afterwards, and if it was recording so does what
was recorded and exported of it. -/
theorem status_tags {m : RequestName} {headers : Headers} {w : World} {r : RequestName}
    {status : Int} {actions : List Action} (hw : w.Sound) (hm : (w.attributes m).IsUntraced)
    (hheaders : ∀ x ∈ handledIn r status actions w, x.request = m → x.headers = headers)
    (hmeddles : ∀ d ∈ history r status actions w, d.actor.meddles = false) :
    let h := history r status actions w
    ((SpanContext.ofHeaders? headers).isSome = true → ∀ past future, h = past ++ future →
      ∀ id, (m, id) ∈ startedIn past → ((now w past).span id).TagsFailures) ∧
    (SpanContext.ofHeaders? headers = none →
      (∀ past future, h = past ++ future →
        ∀ id, (m, id) ∈ startedIn past → ((now w past).span id).isRoot = true) ∧
      ∀ d ∈ h, ∀ id, d.actor = .ends m id false ∨ d.actor.takes? d.before = some (m, id) →
        ∃ calls exports, Adds d.before d.after calls exports ∧
          ∀ j code, .finalized j code none true ∈ calls → 100 ≤ code →
            (d.after.span j).tags.get? httpStatusCode = some (toString code) ∧
            ((d.before.span j).recording = true →
              Mapping.get? (d.after.span j).attributes httpStatusCode = some (toString code)) ∧
            ∀ e ∈ exports, Mapping.get? e.attributes httpStatusCode = some (toString code)) := by
  intro h
  have hstory : Story [] w h _ := history_story r status actions hw []
  have haccords : ∀ past future, h = past ++ future → Story [] w past (now w past) ∧
      Accords m (SpanContext.ofHeaders? headers) past (now w past) := by
    intro past future he
    rw [he] at hstory
    refine ⟨hstory.cut.1, hstory.cut.1.accords hw hm (fun d hd => ?_) fun d hd id hs => ?_⟩
    · exact hmeddles d (by rw [show history r status actions w = _ from he]; simp [hd])
    · have hmem : d ∈ history r status actions w := by
        rw [show history r status actions w = _ from he]
        simp [hd]
      obtain ⟨x, hx, hrequest, hstarts⟩ := history_starts r status actions w hmem hs
      exact ⟨x, hrequest, by rw [hheaders x hx hrequest], hstarts⟩
  refine ⟨fun hsome past future he id hid => ?_, fun hnone => ⟨fun past future he id hid => ?_, ?_⟩⟩
  · exact (haccords past future he).2.tags (Option.isSome_iff_ne_none.mp hsome) id hid
  · rw [(haccords past future he).2.root id hid, hnone]
    rfl
  · intro d hd id hends
    obtain ⟨past, rest, he⟩ := List.append_of_mem hd
    obtain ⟨hpast, hpasts⟩ := haccords past (d :: rest) he
    rw [he] at hstory
    obtain ⟨hdoes, hopened, hbefore⟩ := hstory.at_deed
    have hsound := hpast.sound hw
    rw [← hbefore] at hpasts hsound
    have hown := (hpasts.request_eq (hpast.started hw).2 hopened hends).mpr rfl
    have hflag := hpasts.flag.mpr ⟨hnone, id, hown⟩
    have hconcludes : Concludes m id d.before d.after := by
      rcases hends with hends | htakes
      · rw [hends] at hdoes
        exact hdoes.ends_concludes
      · exact hdoes.concludes hsound htakes
    obtain ⟨code, cause, stamp, calls, exports, hadds, hclosing, -, hstamp⟩ := hconcludes
    refine ⟨calls, exports, hadds, fun j code' hcall hcode => ?_⟩
    obtain ⟨rfl, rfl, rfl⟩ := hclosing.of_finalized hcall
    rw [hstamp hflag hcode rfl ⟨j, hcall⟩] at hclosing
    obtain ⟨htag, hattribute, hexports⟩ := hclosing.tells (Span.tells_tag _ code')
    exact ⟨htag, hattribute, hexports⟩

/-- A request fails and is closed, and comes again to be completed later with a success. -/
def failedAndCompleted (headers : Headers) : List Action :=
  [.handle { visit 0 with headers } "c" false [.store none .requestClose, .status 500],
    .handle { visit 0 with headers } "c" false [.startAsync "k" none],
    .complete "k" 201 none]

/-- The headers of a request that names its parent. -/
def parented : Headers :=
  [("traceparent", "00-0af7651916cd43dd8448eb211c80319c-b7ad6b7169203331-01")]

/-- Roots tell the success, too, and children the failure only. -/
theorem failedAndCompleted_tags :
    let root := history outerRequest 0 (failedAndCompleted []) {}
    let child := history outerRequest 0 (failedAndCompleted parented) {}
    ((now {} root).span 1).isRoot = true ∧
    (∃ d, root.getLast? = some d ∧ (d.after.span 1).tags.get? httpStatusCode = some "201" ∧
      ∀ e ∈ d.after.exports.drop 1, Mapping.get? e.attributes httpStatusCode = some "201") ∧
    ((now {} child).span 0).TagsFailures ∧
    (now {} child).spans.map (fun s => Mapping.get? s.tags httpStatusCode) =
      [some "500", none] := by
  intro root child
  have hroots : ∀ x ∈ handledIn outerRequest 0 (failedAndCompleted []) {},
      x.request = outerRequest → x.headers = [] := by decide +kernel
  have hchildren : ∀ x ∈ handledIn outerRequest 0 (failedAndCompleted parented) {},
      x.request = outerRequest → x.headers = parented := by decide +kernel
  have hsound : World.Sound {} := fun _ _ hr => by cases hr
  obtain ⟨-, hroot⟩ := status_tags hsound (fun _ => rfl) hroots (by decide +kernel)
  obtain ⟨hchild, -⟩ := status_tags hsound (fun _ => rfl) hchildren (by decide +kernel)
  obtain ⟨hisRoot, htells⟩ := hroot (by decide +kernel)
  obtain ⟨d, hd⟩ : ∃ d, root.getLast? = some d :=
    Option.isSome_iff_exists.mp (by decide +kernel)
  have hlast : root.getLast?.map
      (fun d => (d.actor.takes? d.before, d.before.exports.length)) =
        some (some (outerRequest, 1), 1) := by decide +kernel
  have hlastCalls : root.getLast?.map (·.after.calls) =
      root.getLast?.map (·.before.calls ++ [.finalized 1 201 none true]) := rfl
  rw [hd] at hlast hlastCalls
  obtain ⟨htakes, hexports⟩ := Prod.mk.inj (Option.some.inj hlast)
  have hcalls : d.after.calls = d.before.calls ++ _ := Option.some.inj hlastCalls
  obtain ⟨calls, exports, hadds, htold⟩ :=
    htells d (List.mem_of_getLast? hd) 1 (.inr htakes)
  have hmem : .finalized 1 201 none true ∈ calls := by
    rw [hadds.calls] at hcalls
    rw [List.append_cancel_left hcalls]
    exact List.mem_singleton_self _
  obtain ⟨htag, -, hexported⟩ := htold 1 201 hmem (by decide)
  refine ⟨hisRoot root [] (List.append_nil _).symm 1 (by decide +kernel),
    ⟨d, hd, htag, fun e he => hexported e ?_⟩,
    hchild (by decide +kernel) child [] (List.append_nil _).symm 0 (by decide +kernel),
    by decide +kernel⟩
  rw [hadds.exports, ← hexports, List.drop_left] at he
  exact he

end SpanLifecycle
