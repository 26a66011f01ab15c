import SpanLifecycle.Proofs.AlreadyFinalized
import SpanLifecycle.Proofs.Asynchronous
import SpanLifecycle.Proofs.Ending

/-!
# Requests that are through

After an error pass a request is handled, and if its active span is finalized then it is marked so.
A request that is neither asynchronous nor to be closed is then through (`IsThrough`): whatever their
statuses and however their chains end, further passes over it call the tracer no more, and nothing
comes of them but a pending exception (`Does.rests`).  `through_for_good` says so of programs, from
any error pass on.
-/

namespace SpanLifecycle

/-- A request was handled by an error pass, and its active span is finalized and marked so; it is
neither asynchronous nor to be closed. -/
structure IsThrough (m : RequestName) (id : SpanId) (w : World) : Prop where
  active : (w.attributes m).activeSpan = some (.span id)
  finalized : (w.span id).state = .finalized
  handled : (w.attributes m).isErrorHandled = true
  marked : (w.attributes m).isAlreadyFinalized = true
  notAsync : (w.attributes m).isAsyncStarted = false
  notClosing : (w.attributes m).shouldClose = false

/-- A span is as before, and so is all that is known of a request but for what is pending. -/
structure Rests (m : RequestName) (id : SpanId) (w w' : World) : Prop where
  span : w'.span id = w.span id
  attributes : ∀ k, k ≠ .pendingException → (w'.attributes m).at? k = (w.attributes m).at? k

namespace Rests

variable {m : RequestName} {id : SpanId} {w w' w'' : World}

theorem refl (m : RequestName) (id : SpanId) (w : World) : Rests m id w w :=
  ⟨rfl, fun _ _ => rfl⟩

theorem trans (h : Rests m id w w') (g : Rests m id w' w'') : Rests m id w w'' where
  span := g.span.trans h.span
  attributes k hk := (g.attributes k hk).trans (h.attributes k hk)

theorem of_eq (ha : w'.attributes m = w.attributes m) (hs : w'.span id = w.span id) :
    Rests m id w w' := ⟨hs, fun k _ => by rw [ha]⟩

end Rests

/-- A request that is through stays so where it rests. -/
theorem IsThrough.rests {m : RequestName} {id : SpanId} {w w' : World} (h : IsThrough m id w)
    (g : Rests m id w w') : IsThrough m id w' := by
  have hflag : ∀ k, k ≠ .pendingException →
      (w'.attributes m).flag k = (w.attributes m).flag k := by
    intro k hk
    unfold Attributes.flag
    rw [g.attributes k hk]
  refine ⟨?_, ?_, ?_, ?_, ?_, ?_⟩
  · exact (g.attributes .activeSpan (by decide)).trans h.active
  · rw [g.span]
    exact h.finalized
  · unfold Attributes.isErrorHandled Attributes.inState Attributes.requestState
    rw [g.attributes .requestState (by decide)]
    exact h.handled
  · exact (hflag .alreadyFinalized (by decide)).trans h.marked
  · exact (hflag .asyncStarted (by decide)).trans h.notAsync
  · exact (hflag .shouldClose (by decide)).trans h.notClosing

/-! ## Passes over a request that is through -/

namespace Pass

variable {ρ : Type} {chain : Chain ρ} {v : World} {i id : SpanId}

/-- At most the tag of a span that is not finalized comes of a normal pass. -/
theorem runNormal_rests (c : String) (x : Exchange) (scope : Scope)
    (hi : i < (chain v).world.spans.length) (h : IsThrough x.request id (chain v).world) :
    let done := (chain v).world
    let last := (runNormal c x i scope chain v).world
    Adds done last [] [] ∧ Rests x.request id done last := by
  intro done last
  have hnoted : ∀ k, k ≠ .pendingException →
      (notedAttributes (chain v).raised (done.attributes x.request)).at? k =
        (done.attributes x.request).at? k := fun _ => at?_notedAttributes _ _
  cases ha : (done.coordinator c).answer with
  | error e =>
    obtain ⟨-, hb⟩ := runNormal_raises c x i scope ha h.notAsync
    refine ⟨⟨hb.calls, hb.exports⟩, hb.span_eq id, fun k hk => ?_⟩
    rw [hb.itsAttributes]
    exact hnoted k hk
  | ok b =>
    have hn := noteFailure_becomes x (chain v).raised i done
    have hrests : Rests x.request id done (noteFailure x (chain v).raised done) :=
      ⟨(noteFailure_becomes x (chain v).raised id done).itsSpan, fun k hk => by
        rw [hn.itsAttributes]
        exact hnoted k hk⟩
    have hthrough := h.rests hrests
    obtain ⟨u, hu, hcarry⟩ := conclude_carriesOut x.request (chain v).status i
      (failureOf (chain v).raised) ((hn.answer c).trans ha) hthrough.notAsync
    -- no rule but the one for handled requests applies, so there is only the tag
    generalize ho : outcome _ x.request (chain v).status i (failureOf (chain v).raised) b = o
      at hcarry
    obtain ⟨hverdict, hclear⟩ := Outcome.decide_handled (o := o) (by rw [← ho]; rfl)
      (by rw [← ho]; exact hthrough.handled) (by rw [← ho]; exact hthrough.notClosing)
    have hfinal : o.alreadyFinalized = true := by
      rw [← ho]
      exact hthrough.marked
    simp only [hfinal, Bool.not_true, Bool.and_false, Bool.false_and, Bool.false_eq_true, if_false]
      at hverdict hclear
    have hmark := marking_becomes o.decide x.request (chain v).status
      (show i < u.spans.length by rw [hu.length, hn.length]; exact hi)
    rw [hclear, if_neg Bool.false_ne_true, hu.itsSpan, hu.itsAttributes] at hmark
    have hlast : last = (marked o.decide x.request (chain v).status i u).close scope := by
      have hend := finishWith_snd (conclude c x.request (chain v).status (some i)
        (failureOf (chain v).raised)) (chain v).raised (noteFailure x (chain v).raised done)
      rw [hcarry, hverdict] at hend
      exact congrArg (fun w => World.close w scope) hend
    have hclose := Becomes.close x.request i (marked o.decide x.request (chain v).status i u) scope
    have hall := (hu.trans hmark).thenSame hclose
    rw [← hlast] at hall
    refine ⟨⟨?_, ?_⟩, hrests.trans ⟨?_, fun k _ => by rw [hall.itsAttributes]; rfl⟩⟩
    · rw [hall.calls, hn.calls]
      simp [Upshot.andThen]
    · rw [hall.exports, hn.exports]
      simp [Upshot.andThen]
    · by_cases hid : id = i
      · subst hid
        rw [hall.itsSpan]
        simp [Upshot.andThen, hthrough.finalized]
      · exact hall.span id hid

/-- Nothing comes of an error pass. -/
theorem runError_rests (x : Exchange) (scope : Scope) (h : IsThrough x.request id (chain v).world) :
    let done := (chain v).world
    let last := (runError x i scope chain v).world
    Adds done last [] [] ∧ Rests x.request id done last := by
  intro done last
  obtain ⟨u, hu, hb⟩ := concludeError_idle x.request (chain v).status i done
    (.inr (.inr h.marked))
  have hall := (hb id).thenSame (Becomes.close x.request id u scope)
  have hlast : last = u.close scope := congrArg ChainEnd.world (runError_ok hu)
  rw [← hlast] at hall
  refine ⟨⟨hall.calls, hall.exports⟩, hall.itsSpan, fun k _ => ?_⟩
  rw [hall.itsAttributes]
  by_cases hk : k = .requestState
  · subst hk
    rw [Attributes.at?_of_isErrorHandled h.handled]
    simp
  · simp [hk]

end Pass

/-- Whichever half of a pass it is: nothing comes of it where the request is through. -/
theorem Does.rests {actor : Actor} {m : RequestName} {id : SpanId} {w w' : World}
    (h : Does actor w w') (hm : actor.pass? = some m) (hw : IsThrough m id w) :
    Adds w w' [] [] ∧ Rests m id w w' := by
  have hpresent : Attribute.present? (w.attributes m).activeSpan = some (.span id) := by
    rw [hw.active]
    rfl
  cases h with
  | starts _ ha =>
    cases hm
    rw [ha] at hpresent
    cases hpresent
  | resumes h ha =>
    cases hm
    have hb := Exchange.chainStart?_resumes h ha id
    refine ⟨⟨hb.calls, hb.exports⟩, .of_eq ?_ hb.itsSpan⟩
    rw [hb.itsAttributes]
    exact Attributes.markSpanContinued_of_isErrorHandled hw.handled
  | @refuses _ x c _ chain h =>
    cases hm
    obtain ⟨v, scope, hv, -⟩ := Exchange.handle_resumes (c := c) hw.active
    rw [h] at hv
    cases hv
  | endsNormal scope chain hi =>
    cases hm
    exact Pass.runNormal_rests _ _ scope hi hw
  | endsError scope chain _ =>
    cases hm
    exact Pass.runError_rests _ scope hw
  | acts | shifts => cases hm

/-! ## Along a story -/

/-- The mark of a request tells the truth at the end of any story that leaves it to the request's
passes and continuations. -/
theorem Story.tracks {m : RequestName} {l : List Deed} {w u : World} (h : Story [] w l u)
    (hw : w.Sound) (hm : (w.attributes m).IsUntraced)
    (hspares : ∀ d ∈ l, d.actor.sparesMark m = true)
    (hhands : ∀ d ∈ l, ∀ id, d.actor.hands? = some id → (m, id) ∉ startedIn l) :
    u.Sound ∧ Tracks m l u := by
  have hfirst : Tracks m [] w :=
    { tells :=
        { active := fun q id hid => iff_of_false List.not_mem_nil fun hq => by
            rw [hq, show (w.attributes m).activeSpan = none from hm .activeSpan] at hid
            cases hid
          mark := by
            rw [show (w.attributes m).isAlreadyFinalized = false from hm.flag _]
            exact iff_of_false Bool.false_ne_true fun ⟨_, hid, _⟩ => List.not_mem_nil hid }
      resumed := fun q id hid => absurd hid List.not_mem_nil }
  refine h.run (I := Tracks m) hw hfirst fun before d rest he hbefore hd ho hs ht => ?_
  obtain ⟨hlt, honce⟩ := hbefore.started hw
  have hmem : d ∈ l := by simp [he]
  refine ht.step hs hlt honce hd ho (hspares d hmem) fun id hid hown => ?_
  refine hhands d hmem id hid ?_
  rw [he]
  exact mem_startedIn_append_left hown

/-! ## Main statement -/

/-- A request starts without any attributes of its own, and up to some error pass over it its mark is
left to its passes and continuations, and none of the spans started for it is made the active span of
another request.  After that error pass its active span is finalized, and the request is neither
asynchronous nor to be closed.  As long as nothing but passes touches the request and the span from
there on, no pass over the request calls the tracer or exports anything, whatever its statuses, its
coordinator and its chain; and all the time the request is through, the span is as it was, and so is
all that is known of the request, but for what is pending. -/
theorem through_for_good {w : World} {r m : RequestName} {status : Int} {actions : List Action}
    {past future : List Deed} {d : Deed} {i id : SpanId} (hw : w.Sound)
    (hm : (w.attributes m).IsUntraced) (h : history r status actions w = past ++ d :: future)
    (hspares : ∀ e ∈ past, e.actor.sparesMark m = true)
    (hhands : ∀ e ∈ past, ∀ j, e.actor.hands? = some j → (m, j) ∉ startedIn past)
    (hd : d.actor = .ends m i true)
    (hactive : (d.after.attributes m).activeSpan = some (.span id))
    (hfinal : (d.after.span id).state = .finalized)
    (hasync : (d.after.attributes m).isAsyncStarted = false)
    (hclose : (d.after.attributes m).shouldClose = false)
    (hothers : ∀ e ∈ future, e.actor.pass? ≠ some m →
      e.after.attributes m = e.before.attributes m ∧ e.after.span id = e.before.span id) :
    IsThrough m id d.after ∧ ∀ before e rest, future = before ++ e :: rest →
      (e.actor.pass? = some m → Adds e.before e.after [] []) ∧
      IsThrough m id e.after ∧ Rests m id d.after e.after := by
  have hstory := history_story r status actions hw []
  rw [h] at hstory
  obtain ⟨hdoes, hopened, hbefore⟩ := hstory.at_deed
  have hpast := hstory.cut.1
  obtain ⟨hsound, htracks⟩ := hpast.tracks hw hm hspares hhands
  obtain ⟨hlt, honce⟩ := hpast.started hw
  rw [← hbefore] at hsound htracks hlt
  -- the error pass has marked what it has finalized, or found it marked
  have htracks' := htracks.step hsound hlt honce hdoes hopened (by rw [hd]; rfl) fun j hj => by
    rw [hd] at hj
    cases hj
  have hthrough : IsThrough m id d.after :=
    { active := hactive
      finalized := hfinal
      handled := by
        rw [hd] at hdoes
        generalize d.before = v, d.after = v' at hdoes
        cases hdoes with
        | endsError scope chain hid => exact Pass.runError_handles _ scope hid
      marked := htracks'.tells.mark.mpr
        ⟨id, (htracks'.tells.active m id hactive).mpr rfl, hfinal⟩
      notAsync := hasync
      notClosing := hclose }
  have hrest := hstory.after_deed
  have hstep : ∀ e ∈ future, Does e.actor e.before e.after → Rests m id d.after e.before →
      (e.actor.pass? = some m → Adds e.before e.after [] []) ∧ Rests m id d.after e.after := by
    intro e he hdoes hrests
    by_cases hpass : e.actor.pass? = some m
    · obtain ⟨hadds, hrests'⟩ := hdoes.rests hpass (hthrough.rests hrests)
      exact ⟨fun _ => hadds, hrests.trans hrests'⟩
    · obtain ⟨ha, hs⟩ := hothers e he hpass
      exact ⟨fun hp => absurd hp hpass, hrests.trans (.of_eq ha hs)⟩
  refine ⟨hthrough, fun before e rest he => ?_⟩
  rw [he] at hrest
  obtain ⟨hdoes', -, hnow⟩ := hrest.at_deed
  obtain ⟨-, hthere⟩ := hrest.cut.1.run (I := fun _ u => Rests m id d.after u)
    (hdoes.follows hsound).sound (Rests.refl m id d.after)
    fun before' e' rest' he' _ hdoes'' _ _ hrests =>
      (hstep e' (by simp [he, he']) hdoes'' hrests).2
  rw [← hnow] at hthere
  obtain ⟨hadds, hrests⟩ := hstep e (by simp [he]) hdoes' hthere
  exact ⟨hadds, hthrough.rests hrests, hrests⟩

/-- A request that fails after a success is finalized by its error pass.  Of two further passes, the
first one starts like a success and fails, the second one starts like a failure. -/
def dispatchedAgain : List Action :=
  [.handle (visit 0) "c" false [.status 200, .raise { kind := .valueError }],
    .handle (visit 500) "c" false [], .handle (visit 200) "c" false [.raise { kind := .valueError }],
    .handle (visit 404) "c" false [.status 204]]

theorem dispatchedAgain_through :
    let h := history outerRequest 0 dispatchedAgain handlingWorld
    (h.drop 5).map (·.actor.pass?) =
        [some outerRequest, none, some outerRequest, some outerRequest, some outerRequest] ∧
      ∀ before e rest, h.drop 5 = before ++ e :: rest →
        (e.actor.pass? = some outerRequest → Adds e.before e.after [] []) ∧
        IsThrough outerRequest 0 e.after := by
  intro h
  have hlen : 4 < h.length := by decide +kernel
  have hsplit : h = h.take 4 ++ h[4] :: h.drop 5 := by
    rw [← List.drop_eq_getElem_cons hlen, List.take_append_drop]
  have hspares : ∀ d ∈ h.take 4, d.actor.sparesMark outerRequest = true := by decide +kernel
  have hhands : ∀ d ∈ h.take 4, d.actor.hands? = none := by decide +kernel
  have hd : h[4].actor = .ends outerRequest 0 true := rfl
  have hactive : (h[4].after.attributes outerRequest).activeSpan = some (.span 0) := rfl
  have hothers : ∀ e ∈ h.drop 5, e.actor.pass? ≠ some outerRequest →
      e.after.attributes outerRequest = e.before.attributes outerRequest ∧
        e.after.span 0 = e.before.span 0 := by
    refine List.forall_mem_cons.mpr ⟨fun hp => absurd rfl hp, ?_⟩
    refine List.forall_mem_cons.mpr ⟨fun _ => ⟨rfl, rfl⟩, ?_⟩
    refine List.forall_mem_cons.mpr ⟨fun hp => absurd rfl hp, ?_⟩
    refine List.forall_mem_cons.mpr ⟨fun hp => absurd rfl hp, ?_⟩
    exact List.forall_mem_cons.mpr ⟨fun hp => absurd rfl hp, fun _ he => absurd he List.not_mem_nil⟩
  obtain ⟨-, hthen⟩ := through_for_good (fun _ _ hr => by cases hr) (fun _ => rfl) hsplit hspares
    (fun d hmem j hj => by rw [hhands d hmem] at hj; cases hj) hd hactive rfl rfl rfl hothers
  refine ⟨by decide +kernel, fun before e rest he => ?_⟩
  obtain ⟨hadds, hthrough, -⟩ := hthen before e rest he
  exact ⟨hadds, hthrough⟩

end SpanLifecycle
