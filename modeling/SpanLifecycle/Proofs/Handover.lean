import SpanLifecycle.Proofs.Continuation
import SpanLifecycle.Proofs.Passes
import SpanLifecycle.Program

/-!
# Handing a request over to continuations

A chain may mark its request as asynchronous, any number of times, and use the continuations that it
is given, which close the request's span between them.  `InHand` is what every such step preserves:
the only open span of the request is its active one, and the labels in `live` are those of the
continuations that were not used yet.  As long as one is live, or no span is open, the request is
`Settled`, and every step keeps it so.
-/

namespace SpanLifecycle

namespace Continuation

/-- A call that does nothing without a span, and does not leave open the span that a continuation
has taken. -/
structure IsUse (label : String) (call : Act Bool) : Prop where
  idle : ∀ {w w' : World}, (takeSpan label).runIn w = (.ok none, w') →
    call.runIn w = (.ok false, w')
  closes : ∀ {w v : World} {r : RequestName} {id : SpanId},
    (takeSpan label).runIn w = (.ok (some (r, .span id)), v) → v.IsWorking →
    id < v.spans.length →
    ∃ b w' u, call.runIn w = (.ok b, w') ∧ Becomes r id v w' u ∧ u.span.state ≠ .opened ∧
      u.attributes.activeSpan = (v.attributes r).activeSpan ∧
      u.attributes.isAsyncStarted = (v.attributes r).isAsyncStarted

theorem complete_isUse (label : String) (status : Int) (failure : Option Fault) :
    IsUse label (complete label status failure) where
  idle h := by
    unfold complete
    rw [Act.runIn_bind, h]
    rfl
  closes := by
    intro w v r id h hw hid
    unfold complete
    rw [Act.runIn_bind, h]
    simp only [Act.runIn_bind, Act.runIn_get]
    rw [Act.runIn_when]
    generalize htagged : (if (failure.isNone && (v.attributes r).isSpanWithoutParent &&
      decide (100 ≤ status)) = true then
      v.modifySpan id (·.tag httpStatusCode (toString status)) else v) = v'
    have htag : ∃ s, Becomes r id v v' { span := s, attributes := v.attributes r } := by
      rw [← htagged]
      split
      · exact ⟨_, Becomes.modifySpan r id v _ hid⟩
      · exact ⟨_, Becomes.refl r id v⟩
    obtain ⟨s, htag⟩ := htag
    have hid' : id < v'.spans.length := by
      rw [htag.length]
      exact hid
    have hout := Tracer.finalize_outcome status (failure.map .fault) hid'
    rw [Act.runIn_bind]
    generalize (Tracer.finalize status (failure.map .fault) id).runIn v' = out at hout
    cases hout with
    | failed e hf =>
      rw [htag.isWorking hw .finalize] at hf
      cases hf
    | refused e hs hc =>
      rw [Pass.not_refused] at hc
      cases hc
    | late w' hs hb =>
      have hall := htag.trans (hb r)
      refine ⟨false, w', _, rfl, hall, ?_, ?_, ?_⟩
      · show (v'.span id).state ≠ .opened
        rw [hs]
        decide
      · exact congrArg Attributes.activeSpan htag.itsAttributes
      · exact congrArg Attributes.isAsyncStarted htag.itsAttributes
    | effective w' hs hc hb =>
      have hall := (htag.trans (hb r)).thenModifyAttributes (·.raiseFlag .alreadyFinalized)
      refine ⟨true, _, _, rfl, hall, nofun, ?_, ?_⟩
      · show ((v'.attributes r).raiseFlag .alreadyFinalized).activeSpan = _
        rw [htag.itsAttributes]
        simp
      · show ((v'.attributes r).raiseFlag .alreadyFinalized).isAsyncStarted = _
        rw [htag.itsAttributes]
        simp

theorem abandon_isUse (label : String) : IsUse label (abandon label) where
  idle h := by
    unfold abandon
    rw [Act.runIn_bind, h]
    rfl
  closes := by
    intro w v r id h hw hid
    unfold abandon
    rw [Act.runIn_bind, h]
    show ∃ b w' u, (Tracer.abandon id).runIn v = (.ok b, w') ∧ _
    have hout := Tracer.abandon_outcome (w := v) hid
    generalize (Tracer.abandon id).runIn v = out at hout
    cases hout with
    | failed e hf =>
      rw [hw .abandon] at hf
      cases hf
    | late w' hs hb => exact ⟨false, w', _, rfl, hb r, hs, rfl, rfl⟩
    | effective w' hs hb => exact ⟨true, w', _, rfl, hb r, nofun, rfl, rfl⟩

end Continuation

/-! ## What a request keeps -/

section InHand

variable {own : List String} {r : RequestName} {base : SpanId} {live : List String}
  {w w' : World}

/-- The continuations under the labels `own` belong to a request, those in `live` were not used yet,
and of the spans from `base` on only the request's active one may be open. -/
structure InHand (own : List String) (r : RequestName) (base : SpanId) (live : List String)
    (w : World) : Prop where
  working : w.IsWorking
  active : ∀ a, (w.attributes r).activeSpan = some a → ∃ id, a = .span id ∧ id < w.spans.length
  opened : ∀ id, base ≤ id → id < w.spans.length → (w.span id).state = .opened →
    (w.attributes r).activeSpan = some (.span id)
  owned : ∀ label ∈ live, label ∈ own
  usable : ∀ label ∈ live, ∃ k, w.continuations.get? label = some k ∧ k.request = r ∧ k.done = false
  used : ∀ label ∈ own, label ∉ live → ∀ k, w.continuations.get? label = some k → k.done = true

/-- None of the spans from `base` on is open. -/
def NoneOpen (base : SpanId) (w : World) : Prop :=
  ∀ id, base ≤ id → id < w.spans.length → (w.span id).state ≠ .opened

/-- A span that is open has a continuation to close it. -/
def Settled (live : List String) (base : SpanId) (w : World) : Prop :=
  live = [] → NoneOpen base w

/-- An active span has a continuation to take it. -/
def Owed (live : List String) (r : RequestName) (w : World) : Prop :=
  live = [] → (w.attributes r).activeSpan = none

/-- A step that leaves the spans and the active one alone. -/
theorem InHand.same {id : SpanId} {m : Attributes} (h : InHand own r base live w)
    (hb : Becomes r id w w' { span := w.span id, attributes := m })
    (hm : m.activeSpan = (w.attributes r).activeSpan) : InHand own r base live w' where
  working := hb.isWorking h.working
  active := by
    rw [hb.itsAttributes, hm, hb.length]
    exact h.active
  opened := by
    intro j hj hl hs
    rw [hb.length] at hl
    rw [hb.span_eq] at hs
    rw [hb.itsAttributes, hm]
    exact h.opened j hj hl hs
  owned := h.owned
  usable := by
    rw [hb.continuations]
    exact h.usable
  used := by
    rw [hb.continuations]
    exact h.used

theorem Settled.same {id : SpanId} {m : Attributes} (h : Settled live base w)
    (hb : Becomes r id w w' { span := w.span id, attributes := m }) : Settled live base w' := by
  intro hlive j hj hl
  rw [hb.length] at hl
  rw [hb.span_eq]
  exact h hlive j hj hl

/-- From one world to another the continuations of a request were handed out and used, and the
request is as asynchronous as `started` says.  With no continuation left, and none handed out, it
was left alone. -/
structure Hands (own : List String) (r : RequestName) (base : SpanId) (live live' : List String)
    (started : Bool) (w w' : World) : Prop where
  kept : InHand own r base live' w'
  length : w'.spans.length = w.spans.length
  answer : ∀ c, (w'.coordinator c).answer = (w.coordinator c).answer
  async : (w'.attributes r).isAsyncStarted = ((w.attributes r).isAsyncStarted || started)
  settled : started = true ∨ Settled live base w → Settled live' base w'
  owed : started = true ∨ Owed live r w → Owed live' r w'
  idle : live = [] → started = false → live' = [] ∧ ∀ id, Apart r id w w'

theorem Hands.refl (h : InHand own r base live w) : Hands own r base live live false w w where
  kept := h
  length := rfl
  answer _ := rfl
  async := (Bool.or_false _).symm
  settled := by
    rintro (hs | hs)
    · cases hs
    · exact hs
  owed := by
    rintro (hs | hs)
    · cases hs
    · exact hs
  idle hl _ := ⟨hl, fun id => Apart.refl r id w⟩

theorem Hands.trans {live' live'' : List String} {s s' : Bool} {w'' : World}
    (h : Hands own r base live live' s w w') (g : Hands own r base live' live'' s' w' w'') :
    Hands own r base live live'' (s || s') w w'' where
  kept := g.kept
  length := g.length.trans h.length
  answer c := (g.answer c).trans (h.answer c)
  async := by rw [g.async, h.async, Bool.or_assoc]
  settled := by
    intro hs
    apply g.settled
    rcases hs with hs | hs
    · rcases Bool.or_eq_true_iff.mp hs with hs | hs
      · exact .inr (h.settled (.inl hs))
      · exact .inl hs
    · exact .inr (h.settled (.inr hs))
  owed := by
    intro hs
    apply g.owed
    rcases hs with hs | hs
    · rcases Bool.or_eq_true_iff.mp hs with hs | hs
      · exact .inr (h.owed (.inl hs))
      · exact .inl hs
    · exact .inr (h.owed (.inr hs))
  idle := by
    intro hl hs
    obtain ⟨h₁, h₂⟩ := Bool.or_eq_false_iff.mp hs
    obtain ⟨hl', ha⟩ := h.idle hl h₁
    obtain ⟨hl'', ha'⟩ := g.idle hl' h₂
    exact ⟨hl'', fun id => (ha id).trans (ha' id)⟩

/-- A step that leaves the spans and the attributes alone. -/
theorem Hands.same (h : InHand own r base live w)
    (hb : ∀ j, Becomes r j w w' { span := w.span j, attributes := w.attributes r }) :
    Hands own r base live live false w w' where
  kept := h.same (hb 0) rfl
  length := (hb 0).length
  answer := (hb 0).answer
  async := by rw [(hb 0).itsAttributes, Bool.or_false]
  settled := by
    rintro (hs | hs)
    · cases hs
    · exact hs.same (hb 0)
  owed := by
    rintro (hs | hs)
    · cases hs
    · intro hl
      rw [(hb 0).itsAttributes]
      exact hs hl
  idle hl _ :=
    ⟨hl, fun j => ⟨(hb j).exporting, (hb j).failures, Nat.le_of_eq (hb j).length.symm,
      (hb j).itsSpan, (hb j).itsAttributes, (hb j).answer⟩⟩

/-! ## Handing out and using continuations -/

theorem InHand.noneOpen (h : InHand own r base live w)
    (ha : (w.attributes r).activeSpan = none) : NoneOpen base w := by
  intro id hid hl hs
  have hactive := h.opened id hid hl hs
  rw [ha] at hactive
  cases hactive

theorem InHand.start (h : InHand own r base live w) {label : String} (hlabel : label ∈ own) :
    Hands own r base live (label :: live) true w
      (Continuation.start label r (w.openRequest r)) := by
  have hopen : ∀ j, Becomes r j w (w.openRequest r) _ := fun j => Becomes.openRequest r j w r
  have hraise := fun j => (hopen j).thenModifyAttributes (·.raiseFlag .asyncStarted)
  have hkept := h.same (hraise 0) (by simp)
  refine ⟨⟨hkept.working, hkept.active, hkept.opened, ?_, ?_, ?_⟩, (hraise 0).length,
    (hraise 0).answer, ?_, fun _ => nofun, fun _ => nofun, nofun⟩
  · intro l hl
    rcases List.mem_cons.mp hl with rfl | hl
    · exact hlabel
    · exact h.owned l hl
  · intro l hl
    show ∃ k, Mapping.get? (Mapping.set _ label _) l = some k ∧ _
    rw [Mapping.get?_set]
    by_cases hlabel : l = label
    · rw [if_pos hlabel]
      exact ⟨_, rfl, rfl, rfl⟩
    · rw [if_neg hlabel]
      exact hkept.usable l ((List.mem_cons.mp hl).resolve_left hlabel)
  · intro l hown hl k
    show Mapping.get? (Mapping.set _ label _) l = some k → _
    obtain ⟨hlabel, hlive⟩ := not_or.mp (mt List.mem_cons.mpr hl)
    rw [Mapping.get?_set, if_neg hlabel]
    exact hkept.used l hown hlive k
  · refine (congrArg Attributes.isAsyncStarted (hraise 0).itsAttributes).trans ?_
    rw [Bool.or_true]
    simp [Attribute.truthy, Value.truthy]

/-- The continuations after one of them was used. -/
theorem InHand.spent (h : InHand own r base live w) (label : String) (k : Continuation) :
    let after := (Continuation.spent label k w).continuations
    (∀ l ∈ live.filter (· ≠ label), ∃ k, after.get? l = some k ∧ k.request = r ∧ k.done = false) ∧
      ∀ l ∈ own, l ∉ live.filter (· ≠ label) → ∀ k, after.get? l = some k → k.done = true := by
  refine ⟨?_, ?_⟩
  · intro l hl
    obtain ⟨hlive, hne⟩ := List.mem_filter.mp hl
    show ∃ k, Mapping.get? (Mapping.set _ label _) l = some k ∧ _
    rw [Mapping.get?_set, if_neg (by simpa using hne)]
    exact h.usable l hlive
  · intro l hown hl k'
    show Mapping.get? (Mapping.set _ label _) l = some k' → _
    rw [Mapping.get?_set]
    by_cases hlabel : l = label
    · rw [if_pos hlabel]
      intro hk'
      cases hk'
      rfl
    · rw [if_neg hlabel]
      refine h.used l hown ?_ k'
      intro hlive
      exact hl (List.mem_filter.mpr ⟨hlive, by simpa using hlabel⟩)

/-- A use of a continuation closes the active span, if there is one to take. -/
theorem InHand.use (h : InHand own r base live w) {label : String} (hl : label ∈ own)
    {call : Act Bool} (hcall : Continuation.IsUse label call) :
    ∃ b w', call.runIn w = (.ok b, w') ∧
      Hands own r base live (live.filter (· ≠ label)) false w w' := by
  have hunused : label ∉ live → live.filter (· ≠ label) = live := by
    intro hn
    refine List.filter_eq_self.mpr fun l hlive => ?_
    have hne : l ≠ label := fun he => hn (he ▸ hlive)
    simpa using hne
  cases hk : w.continuations.get? label with
  | none =>
    have hn : label ∉ live := by
      intro hlive
      obtain ⟨k, hsome, -⟩ := h.usable label hlive
      rw [hk] at hsome
      cases hsome
    rw [hunused hn]
    exact ⟨false, w, hcall.idle (Continuation.takeSpan_missing hk), Hands.refl h⟩
  | some k =>
    cases hdone : k.done with
    | true =>
      have hn : label ∉ live := by
        intro hlive
        obtain ⟨k', hsome, -, hk'⟩ := h.usable label hlive
        rw [hk] at hsome
        cases hsome
        rw [hdone] at hk'
        cases hk'
      rw [hunused hn]
      exact ⟨false, _, hcall.idle (Continuation.takeSpan_done hk hdone),
        Hands.same h fun j => Becomes.log r j w Pass.logger _⟩
    | false =>
      have hlive : label ∈ live := by
        refine Decidable.byContradiction fun hn => ?_
        have hk' := h.used label hl hn k hk
        rw [hdone] at hk'
        cases hk'
      have hrequest : k.request = r := by
        obtain ⟨k', hsome, hr, -⟩ := h.usable label hlive
        rw [hk] at hsome
        cases hsome
        exact hr
      obtain ⟨husable, hused⟩ := h.spent label k
      have hne : live ≠ [] := List.ne_nil_of_mem hlive
      have howned : ∀ l ∈ live.filter (· ≠ label), l ∈ own :=
        fun l hl => h.owned l (List.mem_filter.mp hl).1
      cases hactive : (w.attributes r).activeSpan with
      | none =>
        have hbare := Continuation.takeSpan_bare hk hdone (by rw [hrequest, hactive]; rfl)
        have hkept : InHand own r base (live.filter (· ≠ label))
            (Continuation.spent label k w) :=
          ⟨h.working, h.active, h.opened, howned, husable, hused⟩
        have hlog : Becomes r 0 (Continuation.spent label k w)
            (Pass.log Continuation.bareEvent (Continuation.spent label k w)) _ :=
          Becomes.log r 0 _ Pass.logger _
        have hkept' := hkept.same hlog rfl
        have hnone := (congrArg Attributes.activeSpan hlog.itsAttributes).trans hactive
        refine ⟨false, _, hcall.idle hbare, hkept', hlog.length, hlog.answer, ?_,
          fun _ _ => hkept'.noneOpen hnone, fun _ _ => hnone, fun hnil => absurd hnil hne⟩
        exact (congrArg Attributes.isAsyncStarted hlog.itsAttributes).trans
          (Bool.or_false _).symm
      | some a =>
        obtain ⟨id, rfl, hid⟩ := h.active a hactive
        have htake := Continuation.takeSpan_taken (a := .span id) hk hdone
          (by rw [hrequest, hactive]; rfl)
        rw [hrequest] at htake
        have htaken := Becomes.modifyAttributes r id (Continuation.spent label k w)
          Continuation.taken
        obtain ⟨b, w', u, hrun, hb, hstate, hu, hasync⟩ := hcall.closes htake
          (htaken.isWorking h.working) (by rw [htaken.length]; exact hid)
        rw [htaken.itsAttributes] at hu hasync
        have hbare : (w'.attributes r).activeSpan = none := by
          rw [hb.itsAttributes, hu]
          exact Continuation.taken_activeSpan _
        have hopened : NoneOpen base w' := by
          intro j hj hlength hs
          by_cases hji : j = id
          · rw [hji, hb.itsSpan] at hs
            exact hstate hs
          · rw [hb.span j hji, htaken.span_eq] at hs
            rw [hb.length, htaken.length] at hlength
            have hother := h.opened j hj hlength hs
            rw [hactive] at hother
            cases hother
            exact hji rfl
        refine ⟨b, w', hrun, ⟨hb.isWorking (htaken.isWorking h.working), ?_, ?_, howned, ?_, ?_⟩,
          hb.length.trans htaken.length, fun c => (hb.answer c).trans (htaken.answer c), ?_,
          fun _ _ => hopened, fun _ _ => hbare, fun hnil => absurd hnil hne⟩
        · intro a ha
          rw [hbare] at ha
          cases ha
        · intro j hj hlength hs
          exact absurd hs (hopened j hj hlength)
        · rw [hb.continuations, htaken.continuations]
          exact husable
        · rw [hb.continuations, htaken.continuations]
          exact hused
        · rw [hb.itsAttributes, hasync, Bool.or_false]
          exact Continuation.taken_isAsyncStarted _

end InHand

/-! ## Chains -/

/-- One step of a chain that hands its request over. -/
inductive Handover where
  | start (label : String)
  | complete (label : String) (status : Int) (failure : Option Fault)
  | abandon (label : String)
  /-- Sets the status of the response. -/
  | status (code : Int)
  deriving Repr

namespace Handover

/-- A step as an action of a program. -/
def action : Handover → Action
  | start label => .startAsync label none
  | complete label code failure => .complete label code failure
  | abandon label => .abandonAsync label
  | status code => .status code

/-- The label of the continuation that a step is about. -/
def label? : Handover → Option String
  | start label | complete label .. | abandon label => some label
  | status _ => none

/-- Whether a step hands out a continuation. -/
def isStart : Handover → Bool
  | start _ => true
  | complete .. | abandon _ | status _ => false

/-- The continuations that were not used yet, after a step. -/
def after (live : List String) : Handover → List String
  | start label => label :: live
  | complete label .. | abandon label => live.filter (· ≠ label)
  | status _ => live

/-- Whether one of the steps hands out a continuation. -/
def starts (steps : List Handover) : Bool := steps.any isStart

/-- The continuations that were not used yet, after all steps. -/
def left (live : List String) (steps : List Handover) : List String := steps.foldl after live

/-- A chain that makes steps, and then returns or raises. -/
def program (steps : List Handover) (raised : Option Fault) : List Action :=
  steps.map action ++ (raised.map .raise).toList

/-- The steps are about continuations under the given labels only. -/
def AreAbout (own : List String) (steps : List Handover) : Prop :=
  ∀ s ∈ steps, ∀ label ∈ s.label?, label ∈ own

instance (own : List String) (steps : List Handover) : Decidable (AreAbout own steps) :=
  inferInstanceAs (Decidable (∀ s ∈ steps, ∀ label ∈ s.label?, label ∈ own))

end Handover

section Chains

variable {own : List String} {r : RequestName} {base : SpanId}

/-- A use of a continuation as an action of a program, which may ask for it in vain. -/
theorem InHand.useAction {live : List String} {w : World} (h : InHand own r base live w)
    {label : String} (hl : label ∈ own) {call : Act Bool}
    (hcall : Continuation.IsUse label call) {a : Action}
    (ha : a.perform r = do return .flag (← call)) (status : Int)
    (hrun : runAction r status a w =
      match w.missing? a with
      | some kind => { world := w, status, reply := .missing kind }
      | none => a.performAt r status w)
    (hmissing : w.missing? a =
      if w.continuations.has label then none else some .continuation) :
    ∃ w' reply, runAction r status a w = { world := w', status, reply } ∧
      Hands own r base live (live.filter (· ≠ label)) false w w' := by
  obtain ⟨b, w', hresult, hhands⟩ := h.use hl hcall
  rw [hrun, hmissing]
  cases hhas : w.continuations.has label with
  | true =>
    refine ⟨w', .flag b, ?_, hhands⟩
    show a.performAt r status w = _
    unfold Action.performAt
    rw [ha, Act.runIn_bind, hresult]
    rfl
  | false =>
    have hnone : w.continuations.get? label = none :=
      Option.not_isSome_iff_eq_none.mp fun hsome => by
        rw [Mapping.has, hsome] at hhas
        cases hhas
    rw [hcall.idle (Continuation.takeSpan_missing hnone)] at hresult
    cases hresult
    exact ⟨w, .missing .continuation, rfl, hhands⟩

theorem InHand.step {live : List String} {w : World} (h : InHand own r base live w)
    {s : Handover} (hs : ∀ label ∈ s.label?, label ∈ own) (status : Int) :
    ∃ w' status' reply, runAction r status s.action w =
        { world := w', status := status', reply } ∧
      Hands own r base live (s.after live) s.isStart w w' := by
  cases s with
  | start label =>
    refine ⟨_, status, .nothing, ?_, h.start (hs label rfl)⟩
    unfold Handover.action runAction
    rfl
  | status code =>
    refine ⟨w, code, .nothing, ?_, Hands.refl h⟩
    unfold Handover.action runAction
    rfl
  | complete label code failure =>
    obtain ⟨w', reply, hrun, hhands⟩ := h.useAction (a := .complete label code failure)
      (hs label rfl) (Continuation.complete_isUse label code failure) rfl status
      (by unfold runAction; rfl) rfl
    exact ⟨w', status, reply, hrun, hhands⟩
  | abandon label =>
    obtain ⟨w', reply, hrun, hhands⟩ := h.useAction (a := .abandonAsync label)
      (hs label rfl) (Continuation.abandon_isUse label) rfl status (by unfold runAction; rfl) rfl
    exact ⟨w', status, reply, hrun, hhands⟩

/-- A whole chain raises what it is to raise, and all its steps are made. -/
theorem InHand.run (steps : List Handover) : ∀ {live : List String} {w : World} (status : Int)
    (raised : Option Fault), InHand own r base live w → Handover.AreAbout own steps →
    let done := runActions r status (Handover.program steps raised) w
    done.raised = raised ∧ Hands own r base live (Handover.left live steps)
      (Handover.starts steps) w done.world := by
  induction steps with
  | nil =>
    intro live w status raised h _
    cases raised with
    | none =>
      unfold Handover.program runActions
      exact ⟨rfl, Hands.refl h⟩
    | some e =>
      unfold Handover.program
      show (runActions r status [.raise e] w).raised = some e ∧ _
      unfold runActions runAction
      exact ⟨rfl, Hands.refl h⟩
  | cons s rest ih =>
    intro live w status raised h hs
    obtain ⟨w', status', reply, hrun, hstep⟩ := h.step (hs s (List.mem_cons_self ..)) status
    obtain ⟨hraised, hrest⟩ := ih status' raised hstep.kept
      fun t ht => hs t (List.mem_cons_of_mem s ht)
    have hcons : Handover.program (s :: rest) raised =
        s.action :: Handover.program rest raised := rfl
    rw [hcons]
    unfold runActions
    rw [hrun]
    exact ⟨hraised, hstep.trans hrest⟩

end Chains

end SpanLifecycle
