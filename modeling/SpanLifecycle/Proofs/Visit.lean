import SpanLifecycle.Proofs.Handover
import SpanLifecycle.Proofs.OneReport

/-!
# Visits that are handed over

A visit is a request that is handled once, and once more if that failed, by chains that hand it over
to continuations.  When both passes have ended and all continuations were used, none of its spans is
open, with one exception that `Visit.leaves_open_iff` states exactly: a first chain that has used up
its continuations and fails is followed by an error pass that finds no span, starts another one, and
leaves it to a continuation that there is none of.
-/

namespace SpanLifecycle

section Passes

variable {own : List String} {w : World} {x : Exchange} {c : String} {steps : List Handover}
  {raised : Option Fault}

/-- The chain that hands the request of an exchange over. -/
def handing (x : Exchange) (steps : List Handover) (raised : Option Fault) :
    Chain (List Answer) :=
  runActions x.request x.status (Handover.program steps raised)

/-! ## Passes over a request in hand -/

variable {base : SpanId} {live : List String}

/-- A request in hand that has no span stays in hand when it is given one. -/
theorem InHand.begins {v : World} (h : InHand own x.request base live w)
    (hactive : (w.attributes x.request).activeSpan = none) (hb : x.Begins c w v) :
    InHand own x.request base live v := by
  have hnew : (v.attributes x.request).activeSpan = some (.span w.spans.length) := by
    rw [hb.attributes]
    exact openingAttributes_activeSpan _ _ _
  refine ⟨?_, ?_, ?_, h.owned, ?_, ?_⟩
  · intro verb
    rw [hb.failures]
    exact h.working verb
  · intro a ha
    rw [hnew] at ha
    cases ha
    exact ⟨_, rfl, by rw [hb.length]; exact Nat.lt_succ_self _⟩
  · intro id hid hl hs
    by_cases he : id = w.spans.length
    · rw [hnew, he]
    · rw [hb.others id he] at hs
      rw [hb.length] at hl
      have hold : id < w.spans.length := Nat.lt_of_le_of_ne (Nat.le_of_lt_succ hl) he
      exact absurd hs (h.noneOpen hactive id hid hold)
  · rw [hb.continuations]
    exact h.usable
  · rw [hb.continuations]
    exact h.used

/-- A pass over a request without a span that is asynchronous, or becomes so, leaves its new span
to the continuations: if there are none, the span stays open. -/
theorem InHand.begins_async (c : String) (raised : Option Fault)
    (h : InHand own x.request base live w)
    (hactive : (w.attributes x.request).activeSpan = none)
    (habout : Handover.AreAbout own steps)
    (hasync : ((w.attributes x.request).isAsyncStarted || Handover.starts steps) = true) :
    let done := x.handle c (handing x steps raised) w
    let live' := Handover.left live steps
    done.raised = raised ∧ InHand own x.request base live' done.world ∧
    done.world.spans.length = w.spans.length + 1 ∧
    (done.world.attributes x.request).isAsyncStarted = true ∧
    (Handover.starts steps = true ∨ live ≠ [] → Owed live' x.request done.world) ∧
    (live = [] → Handover.starts steps = false → live' = [] ∧
      (done.world.span w.spans.length).state = .opened) := by
  intro done live'
  obtain ⟨v, scope, -, hb, hrun⟩ := Exchange.handle_begins (x := x) (c := c) (h.working .create)
    (by rw [hactive]; rfl)
  have hdone : done = Pass.runNormal c x w.spans.length scope (handing x steps raised) v := hrun _
  obtain ⟨hraised, hhands⟩ := (h.begins hactive hb).run steps x.status raised habout
  have hopening : (v.attributes x.request).isAsyncStarted =
      (w.attributes x.request).isAsyncStarted := by
    rw [hb.attributes]
    exact openingAttributes_isAsyncStarted _ _ _
  have hasync' := hhands.async
  rw [hopening, hasync] at hasync'
  obtain ⟨hraised', hlast⟩ := Pass.runNormal_async c x w.spans.length scope
    (handing x steps raised) hasync'
  rw [← hdone] at hraised' hlast
  have hattributes := (hlast 0).itsAttributes
  have hsame : (done.world.attributes x.request).activeSpan =
      ((handing x steps raised v).world.attributes x.request).activeSpan := by
    rw [hattributes]
    exact Pass.notedAttributes_activeSpan _ _
  refine ⟨hraised'.trans hraised, hhands.kept.same (hlast 0)
    (Pass.notedAttributes_activeSpan _ _), ?_, ?_, ?_, ?_⟩
  · exact (hlast 0).length.trans (hhands.length.trans hb.length)
  · rw [hattributes]
    exact (Pass.notedAttributes_isAsyncStarted _ _).trans hasync'
  · intro hs hlive
    rw [hsame]
    refine hhands.owed ?_ hlive
    rcases hs with hs | hs
    · exact .inl hs
    · exact .inr fun hnil => absurd hnil hs
  · intro hlive hs
    obtain ⟨hlive', hapart⟩ := hhands.idle hlive hs
    refine ⟨hlive', ?_⟩
    rw [(hlast w.spans.length).itsSpan]
    exact (congrArg Span.state (hapart w.spans.length).span).trans hb.span.state

/-- An error pass over a request that brings its span along, and is asynchronous or becomes so. -/
theorem InHand.resumes_async {id : SpanId} (c : String) (raised : Option Fault)
    (h : InHand own x.request base live w)
    (hactive : (w.attributes x.request).activeSpan = some (.span id))
    (hstatus : isSuccessfulStatus x.status = false) (habout : Handover.AreAbout own steps)
    (hasync : ((w.attributes x.request).isAsyncStarted || Handover.starts steps) = true) :
    let done := x.handle c (handing x steps raised) w
    let live' := Handover.left live steps
    InHand own x.request base live' done.world ∧
    (Handover.starts steps = true ∨ Owed live x.request w → Owed live' x.request done.world) := by
  intro done live'
  obtain ⟨v, scope, -, -, hb, hrun⟩ := Exchange.handle_resumes (x := x) (c := c) hactive
  have hdone : done = Pass.runError x id scope (handing x steps raised) v := hrun hstatus _
  have hv := h.same (hb id) (Attributes.markSpanContinued_activeSpan _)
  obtain ⟨-, hhands⟩ := hv.run steps x.status raised habout
  have hasync' := hhands.async
  rw [(hb id).itsAttributes, Attributes.markSpanContinued_isAsyncStarted, hasync] at hasync'
  have hlast := Pass.runError_async x id scope (handing x steps raised) hasync' id
  rw [← hdone] at hlast
  refine ⟨hhands.kept.same hlast (Attributes.markErrorHandled_activeSpan _), ?_⟩
  intro hs hlive
  rw [hlast.itsAttributes, Attributes.markErrorHandled_activeSpan]
  have howed : Owed live' x.request (handing x steps raised v).world := by
    refine hhands.owed ?_
    rcases hs with hs | hs
    · exact .inl hs
    · right
      intro hnil
      rw [(hb id).itsAttributes, Attributes.markSpanContinued_activeSpan]
      exact hs hnil
  exact howed hlive

/-! ## Passes over a request that is not asynchronous -/

/-- A first pass that hands nothing out settles the span, unless it failed under an error handler:
then an error pass is awaited. -/
theorem InHand.first_sync (raised : Option Fault) (h : InHand own x.request w.spans.length [] w)
    (ha : (w.coordinator c).answer = .ok true) (hm : (w.attributes x.request).IsUntraced)
    (habout : Handover.AreAbout own steps) (hs : Handover.starts steps = false) :
    let done := x.handle c (handing x steps raised) w
    Handover.left [] steps = [] ∧ done.raised = raised ∧
    InHand own x.request w.spans.length [] done.world ∧
    done.world.spans.length = w.spans.length + 1 ∧
    ((Pass.failureOf raised).isSome = false → NoneOpen w.spans.length done.world) ∧
    ((Pass.failureOf raised).isSome = true → ∃ final,
      AwaitsError w.spans.length (Pass.failureOf raised) final
        (done.world.attributes x.request) ∧
      ((done.world.span w.spans.length).state = .finalized ↔ final = true)) := by
  intro done
  have hbare : (w.attributes x.request).activeSpan = none := hm .activeSpan
  have hchain := fun v (hb : x.Begins c w v) =>
    (h.begins hbare hb).run steps x.status raised habout
  obtain ⟨v, hb, -, hwithin, hactive, calls, exports, -, hend⟩ :=
    Exchange.handle_first (handing x steps raised) h.working hm
      fun v hb => ((hchain v hb).2.idle rfl hs).2 _
  obtain ⟨hraised, hhands⟩ := hchain v hb
  change (handing x steps raised v).raised = raised at hraised
  change Hands own x.request _ _ _ _ v (handing x steps raised v).world at hhands
  have hleft := (hhands.idle rfl hs).1
  have hlength : done.world.spans.length = w.spans.length + 1 := by
    rw [hwithin.length, hhands.length, hb.length]
  have hkept := hhands.kept
  rw [hleft] at hkept
  rw [hraised, ha] at hend
  have hall : (done.raised = raised ∧ ((done.world.span w.spans.length).state = .opened →
        (done.world.attributes x.request).activeSpan = some (.span w.spans.length))) ∧
      ((Pass.failureOf raised).isSome = false →
        (done.world.span w.spans.length).state ≠ .opened) ∧
      ((Pass.failureOf raised).isSome = true → ∃ final,
        AwaitsError w.spans.length (Pass.failureOf raised) final
          (done.world.attributes x.request) ∧
        ((done.world.span w.spans.length).state = .finalized ↔ final = true)) := by
    cases hend with
    | reported b exported hb hr hx hreported =>
      cases hb
      rw [Bool.and_true] at hx
      have hstate := hreported.state
      refine ⟨⟨hr, fun hs => ?_⟩, fun _ => ?_, fun hsome => ?_⟩
      · rw [hstate] at hs
        cases hs
      · rw [hstate]
        decide
      · rw [hx] at hsome
        cases hsome
    | handed e final exported _ hr hx hawaits hf hu =>
      refine ⟨⟨hr, fun _ => hawaits.active⟩, fun hnone => ?_, fun _ => ⟨final, ?_, ?_, ?_⟩⟩
      · rw [hx] at hnone
        cases hnone
      · rw [hx]
        exact hawaits
      · intro hstate
        cases final with
        | true => rfl
        | false => exact absurd hstate (hu rfl).state
      · intro hfinal
        exact (hf hfinal).state
    | failed e he => cases he
  obtain ⟨⟨hr, hopened⟩, hreturned, hfailed⟩ := hall
  have honly : ∀ id, w.spans.length ≤ id → id < done.world.spans.length → id = w.spans.length := by
    intro id hid hl
    rw [hlength] at hl
    omega
  refine ⟨hleft, hr, ⟨hwithin.isWorking hkept.working, ?_, ?_, nofun, nofun, ?_⟩, hlength, ?_, hfailed⟩
  · intro a h
    exact ⟨_, hactive a h, by rw [hlength]; exact Nat.lt_succ_self _⟩
  · intro id hid hl hstate
    rw [honly id hid hl] at hstate ⊢
    exact hopened hstate
  · rw [hwithin.continuations]
    exact hkept.used
  · intro hnone id hid hl
    rw [honly id hid hl]
    exact hreturned hnone

/-- An error pass that hands nothing out closes the span that awaits it. -/
theorem InHand.resumes_sync {failure : Option Fault} {final : Bool} (c : String)
    (raised : Option Fault) (h : InHand own x.request base [] w) (hid : base < w.spans.length)
    (hm : AwaitsError base failure final (w.attributes x.request))
    (hfinal : (w.span base).state = .finalized ↔ final = true)
    (hstatus : isSuccessfulStatus x.status = false) (habout : Handover.AreAbout own steps)
    (hs : Handover.starts steps = false) :
    let done := x.handle c (handing x steps raised) w
    Handover.left [] steps = [] ∧ InHand own x.request base [] done.world ∧
      NoneOpen base done.world := by
  intro done
  obtain ⟨v, scope, -, -, hb, hrun⟩ := Exchange.handle_resumes (x := x) (c := c) hm.active
  have hdone : done = Pass.runError x base scope (handing x steps raised) v := hrun hstatus _
  have hv := h.same (hb base) (Attributes.markSpanContinued_activeSpan _)
  obtain ⟨-, hhands⟩ := hv.run steps x.status raised habout
  change Hands own x.request _ _ _ _ v (handing x steps raised v).world at hhands
  obtain ⟨hleft, hapart⟩ := hhands.idle rfl hs
  have hkept := hhands.kept
  rw [hleft] at hkept
  obtain ⟨hwithin, hactive, calls, exports, -, hbefore, hnow⟩ := error_reports scope
    (handing x steps raised) hv.working
    (by rw [(hb base).length]; exact hid)
    (by rw [(hb base).itsAttributes]; exact hm.markSpanContinued)
    (fun hn hstate => by
      rw [(hb base).itsSpan] at hstate
      rw [hfinal.mp hstate] at hn
      cases hn)
    (hapart base)
  rw [← hdone] at hwithin hactive hbefore hnow
  have hstate : (done.world.span base).state = .finalized := by
    cases final with
    | true =>
      rw [(hbefore rfl).2.2, (hb base).itsSpan]
      exact hfinal.mpr rfl
    | false => exact (hnow rfl).state
  have hnone : NoneOpen base done.world := by
    intro id hle hl ho
    by_cases he : id = base
    · rw [he, hstate] at ho
      cases ho
    · rw [hwithin.span id he] at ho
      rw [hwithin.length] at hl
      have hother := hkept.opened id hle hl ho
      rw [(hapart base).attributes, (hb base).itsAttributes,
        Attributes.markSpanContinued_activeSpan, hm.active] at hother
      cases hother
      exact he rfl
  refine ⟨hleft, ⟨hwithin.isWorking hkept.working, ?_, ?_, nofun, nofun, ?_⟩, hnone⟩
  · intro a ha
    rw [hactive] at ha
    cases ha
    refine ⟨base, rfl, ?_⟩
    rw [hwithin.length, hhands.length, (hb base).length]
    exact hid
  · intro id hle hl ho
    exact absurd ho (hnone id hle hl)
  · rw [hwithin.continuations]
    exact hkept.used

end Passes

/-! ## Visits -/

/-- A request that is handled, and handled once more if that failed, by chains that hand it over;
continuations may be handed out and used between the passes too, and after them. -/
structure Visit where
  coordinator : String
  exchange : Exchange
  steps : List Handover
  raised : Option Fault := none
  between : List Handover := []
  errorExchange : Exchange
  errorSteps : List Handover := []
  errorRaised : Option Fault := none
  later : List Handover := []

namespace Visit

variable (v : Visit) (w : World)

/-- The first pass. -/
def first : ChainEnd (Option (List Answer)) :=
  v.exchange.handle v.coordinator (handing v.exchange v.steps v.raised) w

/-- The world in which the error pass begins. -/
def beforeError : World :=
  (runActions v.exchange.request 0 (Handover.program v.between none) (v.first w).world).world

/-- The world after an error pass. -/
def errorPass : World :=
  (v.errorExchange.handle v.coordinator (handing v.errorExchange v.errorSteps v.errorRaised)
    (v.beforeError w)).world

/-- The world after the passes: the first one is followed by an error pass if it failed. -/
def afterPasses : World :=
  if (Pass.failureOf (v.first w).raised).isSome then v.errorPass w else v.beforeError w

/-- The world in the end. -/
def run : World :=
  (runActions v.exchange.request 0 (Handover.program v.later none) (v.afterPasses w)).world

/-- The continuations that are left when the error pass begins. -/
def live : List String := Handover.left [] (v.steps ++ v.between)

/-- A visit that starts a span for nobody: the first pass has failed, all its continuations have
been used before the error pass, and no other is handed out from then on. -/
structure LosesSpan : Prop where
  failed : (Pass.failureOf v.raised).isSome = true
  started : Handover.starts (v.steps ++ v.between) = true
  used : v.live = []
  unstarted : Handover.starts (v.errorSteps ++ v.later) = false

/-- A visit over a working gateway by a coordinator with an error handler, of a request without any
bookkeeping; `own` are the labels of its continuations. -/
structure IsProper (own : List String) : Prop where
  working : w.IsWorking
  handled : (w.coordinator v.coordinator).answer = .ok true
  untraced : (w.attributes v.exchange.request).IsUntraced
  again : v.errorExchange.request = v.exchange.request
  status : isSuccessfulStatus v.errorExchange.status = false
  about : Handover.AreAbout own (v.steps ++ v.between ++ v.errorSteps ++ v.later)
  fresh : ∀ label ∈ own, w.continuations.get? label = none

variable {v w} {own : List String}

theorem starts_append (s t : List Handover) :
    Handover.starts (s ++ t) = (Handover.starts s || Handover.starts t) := List.any_append

theorem left_append (live : List String) (s t : List Handover) :
    Handover.left live (s ++ t) = Handover.left (Handover.left live s) t := List.foldl_append

/-- How a visit stands before its error pass: either it is asynchronous, and its span belongs to the
continuations that are left; or it is not, none was handed out, and its span is settled or awaits
the error pass. -/
inductive Met (v : Visit) (w : World) : Prop where
  | async (hs : Handover.starts (v.steps ++ v.between) = true)
      (ha : ((v.beforeError w).attributes v.exchange.request).isAsyncStarted = true)
      (ho : Owed v.live v.exchange.request (v.beforeError w))
  | sync (hs : Handover.starts (v.steps ++ v.between) = false) (hl : v.live = [])
      (hn : (Pass.failureOf v.raised).isSome = false →
        NoneOpen w.spans.length (v.beforeError w))
      (hf : (Pass.failureOf v.raised).isSome = true → ∃ final,
        AwaitsError w.spans.length (Pass.failureOf v.raised) final
          ((v.beforeError w).attributes v.exchange.request) ∧
        (((v.beforeError w).span w.spans.length).state = .finalized ↔ final = true))

theorem IsProper.met (h : v.IsProper w own) :
    (v.first w).raised = v.raised ∧ (v.beforeError w).spans.length = w.spans.length + 1 ∧
      InHand own v.exchange.request w.spans.length v.live (v.beforeError w) ∧ v.Met w := by
  have habout : Handover.AreAbout own v.steps := fun s hs => h.about s (by simp [hs])
  have hbetween : Handover.AreAbout own v.between := fun s hs => h.about s (by simp [hs])
  have hin : InHand own v.exchange.request w.spans.length [] w := by
    refine ⟨h.working, ?_, ?_, nofun, nofun, ?_⟩
    · intro a ha
      rw [show (w.attributes v.exchange.request).activeSpan = none from h.untraced .activeSpan] at ha
      cases ha
    · intro id hid hl
      exact absurd hl (Nat.not_lt_of_le hid)
    · intro label hlabel _ k hk
      rw [h.fresh label hlabel] at hk
      cases hk
  have hlive : v.live = Handover.left (Handover.left [] v.steps) v.between := left_append ..
  cases hs : Handover.starts v.steps with
  | true =>
    obtain ⟨hraised, hkept, hlength, hasync, howed, -⟩ := hin.begins_async v.coordinator
      v.raised (h.untraced .activeSpan) habout (by rw [hs, Bool.or_true])
    obtain ⟨-, hhands⟩ := hkept.run v.between 0 none hbetween
    rw [← hlive] at hhands
    refine ⟨hraised, hhands.length.trans hlength, hhands.kept,
      .async (by rw [starts_append, hs]; rfl) ?_ ?_⟩
    · refine hhands.async.trans ?_
      rw [hasync, Bool.true_or]
    · exact hhands.owed (.inr (howed (.inl hs)))
  | false =>
    obtain ⟨hleft, hraised, hkept, hlength, hreturned, hfailed⟩ := hin.first_sync v.raised h.handled
      h.untraced habout hs
    obtain ⟨-, hhands⟩ := hkept.run v.between 0 none hbetween
    rw [← hleft, ← hlive] at hhands
    cases hb : Handover.starts v.between with
    | true =>
      refine ⟨hraised, hhands.length.trans hlength, hhands.kept,
        .async (by rw [starts_append, hb, Bool.or_true]) ?_ ?_⟩
      · refine hhands.async.trans ?_
        rw [hb, Bool.or_true]
      · exact hhands.owed (.inl hb)
    | false =>
      obtain ⟨hlive', hapart⟩ := hhands.idle hleft hb
      refine ⟨hraised, hhands.length.trans hlength, hhands.kept,
        .sync (by rw [starts_append, hs, hb]; rfl) hlive' ?_ ?_⟩
      · intro hnone
        exact hhands.settled (.inr fun _ => hreturned hnone) hlive'
      · intro hsome
        obtain ⟨final, hawaits, hfinal⟩ := hfailed hsome
        refine ⟨final, (congrArg _ (hapart w.spans.length).attributes).mpr hawaits, ?_⟩
        have hspan : (v.beforeError w).span w.spans.length =
            (v.first w).world.span w.spans.length := (hapart w.spans.length).span
        rw [hspan]
        exact hfinal

/-- How a visit stands after its passes: settled, or with an open span and no continuation left. -/
inductive Passed (v : Visit) (w : World) (live : List String) : Prop where
  | settled (hn : ¬ ((Pass.failureOf v.raised).isSome = true ∧
        Handover.starts (v.steps ++ v.between) = true ∧ v.live = [] ∧
        Handover.starts v.errorSteps = false))
      (hs : Settled live w.spans.length (v.afterPasses w))
  | lost (hf : (Pass.failureOf v.raised).isSome = true)
      (hs : Handover.starts (v.steps ++ v.between) = true) (hl : v.live = [])
      (he : Handover.starts v.errorSteps = false) (hlive : live = []) (id : SpanId)
      (hid : w.spans.length ≤ id) (hlength : id < (v.afterPasses w).spans.length)
      (hopen : ((v.afterPasses w).span id).state = .opened)

theorem IsProper.afterPasses (h : v.IsProper w own) :
    v.afterPasses w =
      if (Pass.failureOf v.raised).isSome then v.errorPass w else v.beforeError w := by
  obtain ⟨hraised, -⟩ := h.met
  rw [← hraised]
  rfl

theorem IsProper.errorAbout (h : v.IsProper w own) : Handover.AreAbout own v.errorSteps :=
  fun s hs => h.about s (by simp [hs])

/-- After the error pass of a visit that has gone asynchronous. -/
theorem IsProper.passed_async (h : v.IsProper w own)
    (hf : (Pass.failureOf v.raised).isSome = true)
    (hs : Handover.starts (v.steps ++ v.between) = true)
    (ha : ((v.beforeError w).attributes v.exchange.request).isAsyncStarted = true)
    (ho : Owed v.live v.exchange.request (v.beforeError w)) :
    ∃ live, InHand own v.exchange.request w.spans.length live (v.afterPasses w) ∧
      v.Passed w live := by
  obtain ⟨-, hlength, hkept, -⟩ := h.met
  have hafter : v.afterPasses w = v.errorPass w := by rw [h.afterPasses, hf, if_pos rfl]
  rw [← h.again] at hkept ha ho ⊢
  cases hactive : ((v.beforeError w).attributes v.errorExchange.request).activeSpan with
  | none =>
    -- the error pass makes a span of its own
    obtain ⟨-, hkept', hlength', -, howed, hlost⟩ := hkept.begins_async v.coordinator
      v.errorRaised hactive h.errorAbout (by rw [ha]; rfl)
    change InHand own _ _ _ (v.errorPass w) at hkept'
    change (v.errorPass w).spans.length = _ at hlength'
    rw [hafter]
    refine ⟨_, hkept', ?_⟩
    by_cases hcase : Handover.starts v.errorSteps = true ∨ v.live ≠ []
    · refine .settled ?_ ?_
      · rintro ⟨-, -, hl, he⟩
        rcases hcase with hstart | hne
        · rw [he] at hstart
          cases hstart
        · exact hne hl
      · rw [hafter]
        exact fun hl => hkept'.noneOpen (howed hcase hl)
    · obtain ⟨he, hl⟩ := not_or.mp hcase
      have he := Bool.eq_false_iff.mpr he
      have hl := Decidable.not_not.mp hl
      obtain ⟨hlive, hopen⟩ := hlost hl he
      refine .lost hf hs hl he hlive (v.beforeError w).spans.length ?_ ?_ ?_
      · rw [hlength]
        omega
      · rw [hafter, hlength']
        exact Nat.lt_succ_self _
      · rw [hafter]
        exact hopen
  | some a =>
    obtain ⟨id, rfl, -⟩ := hkept.active a hactive
    obtain ⟨hkept', howed⟩ := hkept.resumes_async v.coordinator
      v.errorRaised hactive h.status h.errorAbout (by rw [ha]; rfl)
    change InHand own _ _ _ (v.errorPass w) at hkept'
    rw [hafter]
    refine ⟨_, hkept', .settled ?_ ?_⟩
    · rintro ⟨-, -, hl, -⟩
      rw [ho hl] at hactive
      cases hactive
    · rw [hafter]
      exact fun hl => hkept'.noneOpen (howed (.inr ho) hl)

/-- After the error pass of a visit that has handed nothing out before. -/
theorem IsProper.passed_sync (h : v.IsProper w own) {failure : Option Fault} {final : Bool}
    (hf : (Pass.failureOf v.raised).isSome = true)
    (hs : Handover.starts (v.steps ++ v.between) = false) (hl : v.live = [])
    (hawaits : AwaitsError w.spans.length failure final
      ((v.beforeError w).attributes v.exchange.request))
    (hfinal : ((v.beforeError w).span w.spans.length).state = .finalized ↔ final = true) :
    ∃ live, InHand own v.exchange.request w.spans.length live (v.afterPasses w) ∧
      v.Passed w live := by
  obtain ⟨-, hlength, hkept, -⟩ := h.met
  have hafter : v.afterPasses w = v.errorPass w := by rw [h.afterPasses, hf, if_pos rfl]
  rw [← h.again] at hkept hawaits ⊢
  have hn : ¬ ((Pass.failureOf v.raised).isSome = true ∧
      Handover.starts (v.steps ++ v.between) = true ∧ v.live = [] ∧
      Handover.starts v.errorSteps = false) := by
    rintro ⟨-, hs', -⟩
    rw [hs] at hs'
    cases hs'
  cases he : Handover.starts v.errorSteps with
  | true =>
    obtain ⟨hkept', howed⟩ := hkept.resumes_async v.coordinator
      v.errorRaised hawaits.active h.status h.errorAbout (by rw [he, Bool.or_true])
    change InHand own _ _ _ (v.errorPass w) at hkept'
    rw [hafter]
    refine ⟨_, hkept', .settled hn ?_⟩
    rw [hafter]
    exact fun hl => hkept'.noneOpen (howed (.inl he) hl)
  | false =>
    rw [hl] at hkept
    obtain ⟨-, hkept', hnone⟩ := hkept.resumes_sync v.coordinator v.errorRaised
      (by rw [hlength]; exact Nat.lt_succ_self _) hawaits hfinal h.status h.errorAbout he
    change InHand own _ _ _ (v.errorPass w) at hkept'
    rw [hafter]
    refine ⟨[], hkept', .settled hn ?_⟩
    rw [hafter]
    exact fun _ => hnone

theorem IsProper.passed (h : v.IsProper w own) :
    ∃ live, InHand own v.exchange.request w.spans.length live (v.afterPasses w) ∧
      v.Passed w live := by
  obtain ⟨-, -, hkept, hmet⟩ := h.met
  cases hf : (Pass.failureOf v.raised).isSome with
  | true =>
    cases hmet with
    | async hs ha ho => exact h.passed_async hf hs ha ho
    | sync hs hl _ hawaiting =>
      obtain ⟨final, hawaits, hfinal⟩ := hawaiting hf
      exact h.passed_sync hf hs hl hawaits hfinal
  | false =>
    have hafter : v.afterPasses w = v.beforeError w := by
      rw [h.afterPasses, hf, if_neg Bool.false_ne_true]
    rw [hafter]
    refine ⟨v.live, hkept, .settled ?_ ?_⟩
    · rintro ⟨hsome, -⟩
      rw [hf] at hsome
      cases hsome
    · rw [hafter]
      intro hl
      cases hmet with
      | async hs ha ho => exact hkept.noneOpen (ho hl)
      | sync hs hl hn _ => exact hn hf

/-- When every continuation that a visit was given has been used, one of its spans is open exactly
if the visit is of the kind that loses one. -/
theorem leaves_open_iff (h : v.IsProper w own)
    (hdone : ∀ label ∈ own, ∀ k, (v.run w).continuations.get? label = some k → k.done = true) :
    (∃ id, w.spans.length ≤ id ∧ id < (v.run w).spans.length ∧
      ((v.run w).span id).state = .opened) ↔ v.LosesSpan := by
  obtain ⟨live, hkept, hpassed⟩ := h.passed
  have hlater : Handover.AreAbout own v.later := fun s hs => h.about s (by simp [hs])
  obtain ⟨-, hhands⟩ := hkept.run v.later 0 none hlater
  change Hands own _ _ _ _ _ _ (v.run w) at hhands
  have hleft : Handover.left live v.later = [] := by
    refine List.eq_nil_iff_forall_not_mem.mpr fun label hlabel => ?_
    obtain ⟨k, hk, -, hunused⟩ := hhands.kept.usable label hlabel
    rw [hdone label (hhands.kept.owned label hlabel) k hk] at hunused
    cases hunused
  have hnone : Settled (Handover.left live v.later) w.spans.length (v.run w) →
      ¬ ∃ id, w.spans.length ≤ id ∧ id < (v.run w).spans.length ∧
        ((v.run w).span id).state = .opened := by
    rintro hsettled ⟨id, hid, hl, hs⟩
    exact hsettled hleft id hid hl hs
  cases hpassed with
  | settled hn hs =>
    refine ⟨fun hopen => absurd hopen (hnone (hhands.settled (.inr hs))), fun hlost => ?_⟩
    have hunstarted := hlost.unstarted
    rw [starts_append] at hunstarted
    exact absurd ⟨hlost.failed, hlost.started, hlost.used, (Bool.or_eq_false_iff.mp hunstarted).1⟩ hn
  | lost hf hs hl he hlive id hid hlength hopen =>
    cases hlater : Handover.starts v.later with
    | true =>
      refine ⟨fun hopen => absurd hopen (hnone (hhands.settled (.inl hlater))), fun hlost => ?_⟩
      have hunstarted := hlost.unstarted
      rw [starts_append, hlater, Bool.or_true] at hunstarted
      cases hunstarted
    | false =>
      have hapart := (hhands.idle hlive hlater).2 id
      refine ⟨fun _ => ⟨hf, hs, hl, by rw [starts_append, he, hlater]; rfl⟩, fun _ => ?_⟩
      refine ⟨id, hid, Nat.lt_of_lt_of_le hlength hapart.length, ?_⟩
      rw [hapart.span]
      exact hopen

/-- A visit that fails after the given steps, and once its error pass has made further ones, makes
the last. -/
def failing (steps errorSteps later : List Handover) : Visit where
  coordinator := "c"
  exchange := visit 0
  steps := steps
  raised := some { kind := .valueError }
  errorExchange := visit 500
  errorSteps := errorSteps
  later := later

theorem failing_isProper {steps errorSteps later : List Handover}
    (h : Handover.AreAbout own (steps ++ [] ++ errorSteps ++ later)) :
    (failing steps errorSteps later).IsProper handlingWorld own where
  working verb := by cases verb <;> rfl
  handled := rfl
  untraced _ := rfl
  again := rfl
  status := rfl
  about := h
  fresh _ _ := rfl

/-- A continuation that is used before the chain fails leaves its request asynchronous and without a
span, so the error pass starts another one, which nobody closes. -/
theorem used_early_leaves_open :
    let early := failing [.start "k", .complete "k" 200 none] [] []
    early.IsProper handlingWorld ["k"] ∧
      ((early.run handlingWorld).continuations.get? "k").map (·.done) = some true ∧
      (early.run handlingWorld).spans.map (·.state) = [.finalized, .opened] :=
  ⟨failing_isProper (by decide), by decide +kernel, by decide +kernel⟩

/-- A continuation that is used during the error pass closes the span that both passes share. -/
theorem used_late_leaves_none :
    let late := failing [.start "k"] [.complete "k" 500 none] []
    ¬ ∃ id, 0 ≤ id ∧ id < (late.run handlingWorld).spans.length ∧
      ((late.run handlingWorld).span id).state = .opened := by
  intro late hopen
  have hdone : ∀ label ∈ ["k"], ∀ k,
      (late.run handlingWorld).continuations.get? label = some k → k.done = true := by
    intro label hlabel k hk
    cases List.mem_singleton.mp hlabel
    have hall : ((late.run handlingWorld).continuations.get? "k").map (·.done) = some true := by
      decide +kernel
    rw [hk] at hall
    exact Option.some.inj hall
  have hlost := (leaves_open_iff (failing_isProper (by decide)) hdone).mp hopen
  exact absurd hlost.used (by decide)

end Visit

end SpanLifecycle
