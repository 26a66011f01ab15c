import SpanLifecycle.Proofs.History
import SpanLifecycle.Proofs.OneReport

/-!
# What counts as finalized

A request is marked as finalized in the same deed in which a span of its own is finalized.  So the
mark tells the truth about all spans that were ever started for the request, as long as these are
its own: nothing but its passes and continuations finalizes them, and no other request is handed
one of them as its active span.

`Tells` is the invariant, about one request and the set of spans started for it.  Every deed keeps
it (`Tells.step`), and so it holds wherever a program can look (`already_finalized_tells`).
-/

namespace SpanLifecycle

/-- The span that a call makes the active span of the request it is about. -/
def StoreCall.hands? : StoreCall → Option SpanId
  | .setActiveSpan (.span id) => some id
  | .setRaw key (.span id) => if key = Key.activeSpan.name then some id else none
  | _ => none

/-- The span that is made the active span of a request by a call. -/
def Actor.hands? : Actor → Option SpanId
  | .acts _ (.store _ call) => call.hands?
  | _ => none

/-- Whether an actor leaves the mark of a request to its passes and continuations: on its
bookkeeping there are plain calls only, and no span is finalized directly. -/
def Actor.sparesMark (r : RequestName) : Actor → Bool
  | .acts q (.store o call) => call.isPlain || Action.requestOr q o ≠ r
  | .acts _ (.finalize ..) => false
  | _ => true

/-- A call leaves the active span as it was, or none, or the one that it hands to the request. -/
theorem StoreCall.run_active {call : StoreCall} {m : Attributes} {id : SpanId}
    (h : (call.run m).2.activeSpan = some (.span id)) :
    m.activeSpan = some (.span id) ∨ call.hands? = some id := by
  cases call with
  | setActiveSpan a =>
    have ha : a = .span id := by simpa [run] using h
    exact .inr (by rw [ha]; rfl)
  | setRaw key a =>
    simp only [run, Attributes.activeSpan, Attributes.at?_set] at h
    split at h
    · next hkey =>
      cases h
      exact .inr (if_pos hkey.symm)
    · exact .inl h
  | deleteRaw key =>
    simp only [run, Attributes.activeSpan, Attributes.at?_erase] at h
    split at h
    · cases h
    · exact .inl h
  | clearActiveSpan => simp [run] at h
  | markSpanContinued => exact .inl (m.markSpanContinued_activeSpan ▸ h)
  | _ => exact .inl (by simpa [run] using h)

/-- What a request's own spans, as a set, have to do with the attributes of requests. -/
structure Tells (m : RequestName) (own : SpanId → Prop) (w : World) : Prop where
  active : ∀ q id, (w.attributes q).activeSpan = some (.span id) → (own id ↔ q = m)
  mark : (w.attributes m).isAlreadyFinalized = true ↔
    ∃ id, own id ∧ (w.span id).state = .finalized

namespace Tells

variable {m r : RequestName} {own : SpanId → Prop} {id : SpanId} {w w' : World}

/-- Attributes that keep their active span, or lose it. -/
theorem active_of_keeps (h : Tells m own w) {q : RequestName}
    (hq : (w'.attributes q).activeSpan = (w.attributes q).activeSpan ∨
      (w'.attributes q).activeSpan = none)
    (hid : (w'.attributes q).activeSpan = some (.span id)) : own id ↔ q = m := by
  rcases hq with hq | hq
  · exact h.active q id (hq.symm.trans hid)
  · rw [hq] at hid
    cases hid

/-- The mark goes on telling the truth where it and the states of the request's spans stay. -/
theorem mark_of_eq (h : Tells m own w)
    (hm : (w'.attributes m).isAlreadyFinalized = (w.attributes m).isAlreadyFinalized)
    (hs : ∀ j, own j → ((w'.span j).state = .finalized ↔ (w.span j).state = .finalized)) :
    (w'.attributes m).isAlreadyFinalized = true ↔
      ∃ id, own id ∧ (w'.span id).state = .finalized := by
  rw [hm, h.mark]
  exact exists_congr fun j => and_congr_right fun hj => (hs j hj).symm

theorem congr {own' : SpanId → Prop} (h : Tells m own w) (ho : ∀ id, own id ↔ own' id) :
    Tells m own' w :=
  funext (fun id => propext (ho id)) ▸ h

theorem keeps (h : Tells m own w) (hk : Keeps w w') : Tells m own w' where
  active q _ := h.active_of_keeps (hk.attributes q).active
  mark := h.mark_of_eq (hk.attributes m).final fun j _ => by rw [hk.state j]

/-- A deed that leaves all attributes alone, and finalizes no span. -/
theorem spans (h : Tells m own w) (ha : ∀ q, w'.attributes q = w.attributes q)
    (hs : ∀ j, (w'.span j).state = .finalized ↔ (w.span j).state = .finalized) :
    Tells m own w' where
  active q _ := h.active_of_keeps (.inl (congrArg Attributes.activeSpan (ha q)))
  mark := h.mark_of_eq (congrArg Attributes.isAlreadyFinalized (ha m)) fun j _ => hs j

/-- A request is marked when a span of its own is finalized, and only then. -/
theorem settles (h : Tells m own w) (hs : Settles r id w w') (hid : own id ↔ r = m) :
    Tells m own w' where
  active q j hj := by
    by_cases hq : q = r
    · subst hq
      exact h.active_of_keeps hs.active hj
    · exact h.active_of_keeps (hs.attributes q hq).active hj
  mark := by
    by_cases hr : r = m
    · subst hr
      rcases hs.final with ⟨hstate, hmark⟩ | ⟨hstate, hmark⟩
      · simp only [hmark, true_iff]
        exact ⟨id, hid.mpr rfl, hstate⟩
      · refine h.mark_of_eq hmark fun j _ => ?_
        by_cases hj : j = id
        · rw [hj, hstate]
        · rw [hs.state j hj]
    -- the span of another request is none of its own
    · refine h.mark_of_eq (hs.attributes m (Ne.symm hr)).final fun j hj => ?_
      rw [hs.state j fun hji => hr (hid.mp (hji ▸ hj))]

/-- A call about another request may do what it likes, unless it hands on a span of the request. -/
theorem writes {call : StoreCall} (h : Tells m own w) (hr : r ≠ m)
    (hcall : ∀ id, call.hands? = some id → ¬ own id)
    (hb : ∀ j, Becomes r j w w'
      { span := w.span j, attributes := (call.run (w.attributes r)).2 }) : Tells m own w' where
  active q id hid := by
    by_cases hq : q = r
    · rw [hq, (hb 0).itsAttributes] at hid
      rcases call.run_active hid with hid | hid
      · rw [hq]
        exact h.active r id hid
      · exact iff_of_false (hcall id hid) (hq ▸ hr)
    · rw [(hb 0).attributes q hq] at hid
      exact h.active q id hid
  mark := h.mark_of_eq (by rw [(hb 0).attributes m (Ne.symm hr)]) fun j _ => by
    rw [(hb j).itsSpan]

/-- A new span is its request's own, and open. -/
theorem starts {x : Exchange} {c : String} (h : Tells m own w) (hw : w.Sound)
    (hlt : ∀ id, own id → id < w.spans.length) (hb : x.Begins c w w') :
    Tells m (fun id => own id ∨ (x.request, w.spans.length) = (m, id)) w' where
  active q id hid := by
    by_cases hq : q = x.request
    · rw [hq, hb.attributes, openingAttributes_activeSpan] at hid
      cases hid
      have hnew : ¬ own w.spans.length := fun hown => Nat.lt_irrefl _ (hlt _ hown)
      simp [hnew, hq]
    · rw [hb.otherAttributes q hq] at hid
      have hold := Nat.ne_of_lt (hw q id hid)
      simp [Ne.symm hold, h.active q id hid]
  mark := by
    have hmark : (w'.attributes m).isAlreadyFinalized = (w.attributes m).isAlreadyFinalized := by
      by_cases hm : m = x.request
      · rw [hm, hb.attributes]
        exact openingAttributes_flag _ _ _ .alreadyFinalized (by decide) (by decide)
      · rw [hb.otherAttributes m hm]
    have hopen : (w'.span w.spans.length).state ≠ .finalized := by
      rw [hb.span.state]
      decide
    rw [hmark, h.mark]
    refine exists_congr fun j => ?_
    by_cases hj : j = w.spans.length
    · have hnew : ¬ own j := fun hown => Nat.ne_of_lt (hlt j hown) hj
      rw [hj] at hnew ⊢
      simp [hnew, hopen]
    · rw [hb.others j hj]
      simp [Ne.symm hj]

end Tells

/-! ## Along a story -/

/-- After the deeds of the past: the mark of a request tells the truth about the spans that were
started for it, and no pass over it has gone on with any other span. -/
structure Tracks (m : RequestName) (past : List Deed) (w : World) : Prop where
  tells : Tells m (fun id => (m, id) ∈ startedIn past) w
  resumed : ∀ q id, (q, id) ∈ resumedIn past →
    id < w.spans.length ∧ ((m, id) ∈ startedIn past ↔ q = m)

section

variable {m : RequestName} {past : List Deed} {actor : Actor} {w w' : World}

/-- A pass is over a span of a request's own exactly if it is over the request. -/
theorem Tracks.owns {q : RequestName} {id : SpanId} {error : Bool} (h : Tracks m past w)
    (honce : ∀ r q id, (r, id) ∈ startedIn past → (q, id) ∈ startedIn past → r = q)
    (ho : (Actor.ends q id error).IsOpened past) : (m, id) ∈ startedIn past ↔ q = m := by
  rcases ho with hq | hq
  · exact ⟨fun hm => honce q m id hq hm, fun hqm => hqm ▸ hq⟩
  · exact (h.resumed q id hq).2

theorem Tracks.step (h : Tracks m past w) (hw : w.Sound)
    (hlt : ∀ r id, (r, id) ∈ startedIn past → id < w.spans.length)
    (honce : ∀ r q id, (r, id) ∈ startedIn past → (q, id) ∈ startedIn past → r = q)
    (hd : Does actor w w') (ho : actor.IsOpened past) (hspares : actor.sparesMark m = true)
    (hhands : ∀ id, actor.hands? = some id → (m, id) ∉ startedIn past) :
    Tracks m (past ++ [⟨actor, w, w'⟩]) w' := by
  have hlen := (hd.follows hw).run.length_le
  have hworks := hd.works hw
  refine ⟨?_, fun q id hid => ?_⟩
  · cases hworks with
    | starts hb =>
      refine (h.tells.starts hw (hlt m) hb).congr fun id => ?_
      rw [mem_startedIn_append]
      exact or_congr_right Option.some_inj.symm
    | resumes _ hk | refuses hk | shifts hk | acts hk =>
      rw [startedIn_append_of_none rfl]
      exact h.tells.keeps hk
    | ends hs =>
      rw [startedIn_append_of_none rfl]
      exact h.tells.settles hs (h.owns honce ho)
    | uses _ ha hs =>
      rw [startedIn_append_of_none rfl]
      exact h.tells.settles hs (h.tells.active _ _ ha)
    | writes hr hcall hb =>
      rw [startedIn_append_of_none rfl]
      refine h.tells.writes (fun hrm => ?_) hhands hb
      simp [Actor.sparesMark, hcall, hr, hrm] at hspares
    | finalizes _ => cases hspares
    | @abandons _ k hb =>
      rw [startedIn_append_of_none rfl]
      refine h.tells.spans (fun q => ?_) fun j => ?_
      · obtain ⟨s, calls, -, hb⟩ := hb q
        exact hb.itsAttributes
      · obtain ⟨s, calls, hs, hb⟩ := hb m
        by_cases hj : j = k
        · rw [hj, hb.itsSpan, hs]
        · rw [hb.span j hj]
  · rw [mem_startedIn_append]
    rcases mem_resumedIn_append.mp hid with hid | hid
    · obtain ⟨hidlt, hown⟩ := h.resumed q id hid
      refine ⟨Nat.lt_of_lt_of_le hidlt hlen, ?_⟩
      rw [or_iff_left fun hnew => absurd (hd.started hnew).1 (Nat.ne_of_lt hidlt)]
      exact hown
    · cases hworks with
      | resumes ha hk =>
        cases hid
        refine ⟨Nat.lt_of_lt_of_le (hw q id ha) hlen, ?_⟩
        rw [or_iff_left (by exact nofun)]
        exact h.tells.active q id ha
      | _ => cases hid

/-- A finalization that an error pass makes takes effect, if the mark of its request tells that the
span is not finalized. -/
theorem Pass.runError_finalizes {ρ : Type} {chain : Chain ρ} (x : Exchange) {id : SpanId}
    (scope : Scope) (hid : id < (chain w).world.spans.length)
    (hfinal : ((chain w).world.attributes x.request).isAlreadyFinalized = false →
      ((chain w).world.span id).state ≠ .finalized) :
    ∃ calls, (Pass.runError x id scope chain w).world.calls = (chain w).world.calls ++ calls ∧
      ∀ j code cause b, .finalized j code cause b ∈ calls → b = true := by
  generalize hv : (chain w).world = v at *
  have hworld : (Pass.runError x id scope chain w).world.calls =
      ((Pass.concludeError x.request (chain w).status id).runIn v).2.calls := by
    rw [← hv]
    rw [← Pass.finishWith_snd _ (chain w).raised]
    exact (Becomes.close outerRequest 0 _ scope).calls.trans (List.append_nil _)
  rw [hworld]
  by_cases hidle : (v.attributes x.request).isAsyncStarted = true ∨
      (v.attributes x.request).isErrorSpanReported = true ∨
      (v.attributes x.request).isAlreadyFinalized = true
  · obtain ⟨v', h, hb⟩ := Pass.concludeError_idle x.request (chain w).status id v hidle
    rw [h]
    exact ⟨[], (hb 0).calls, nofun⟩
  · simp only [not_or, Bool.not_eq_true] at hidle
    rw [Pass.concludeError_runIn x.request _ id v hidle.1 hidle.2.1 hidle.2.2]
    have h := Tracer.finalize_outcome (w := Pass.handled x.request v) (chain w).status
      (Attribute.present? (v.attributes x.request).pendingException) hid
    generalize (Tracer.finalize _ _ id).runIn (Pass.handled x.request v) = out at h
    cases h with
    | failed e _ => exact ⟨[.failed .finalize], World.calls_enter _ _, by simp⟩
    | late _ hs _ => exact absurd hs (hfinal hidle.2.2)
    | refused e _ _ => exact ⟨[], (List.append_nil _).symm, nofun⟩
    | effective v' _ _ hb =>
      refine ⟨_, (hb x.request).calls, fun j code cause b hmem => ?_⟩
      cases List.mem_singleton.mp hmem
      rfl

end

/-! ## Main statement -/

/-- A request starts without any attributes of its own, and up to some point of a program its mark
is left to its passes and continuations, and none of the spans started for it is made the active
span of another request.  Then, at that point, it is marked as finalized exactly if a span that was
started for it is finalized.  And if an error pass over it ends there, then every finalization that
this makes, and that does not raise, takes effect. -/
theorem already_finalized_tells {w : World} {r m : RequestName} {status : Int}
    {actions : List Action} {past future : List Deed} (hw : w.Sound)
    (hm : (w.attributes m).IsUntraced) (h : history r status actions w = past ++ future)
    (hspares : ∀ d ∈ past, d.actor.sparesMark m = true)
    (hhands : ∀ d ∈ past, ∀ id, d.actor.hands? = some id → (m, id) ∉ startedIn past) :
    (((now w past).attributes m).isAlreadyFinalized = true ↔
      ∃ id, (m, id) ∈ startedIn past ∧ ((now w past).span id).state = .finalized) ∧
    ∀ d rest id, future = d :: rest → d.actor = .ends m id true →
      ∃ calls, d.after.calls = d.before.calls ++ calls ∧
        ∀ j code cause b, .finalized j code cause b ∈ calls → b = true := by
  have hstory := history_story r status actions hw []
  rw [h] at hstory
  have hpast := hstory.cut.1
  have hfirst : Tracks m [] w :=
    { tells :=
        { active := fun q id hid => iff_of_false List.not_mem_nil fun hq => by
            have hnone : (w.attributes m).activeSpan = none := hm .activeSpan
            rw [hq, hnone] at hid
            cases hid
          mark := by
            rw [show (w.attributes m).isAlreadyFinalized = false from hm.flag _]
            exact iff_of_false Bool.false_ne_true fun ⟨_, hid, _⟩ => List.not_mem_nil hid }
      resumed := fun q id hid => absurd hid List.not_mem_nil }
  obtain ⟨hsound, htracks⟩ := hpast.run (I := Tracks m) hw hfirst
    fun before d rest he hbefore hd ho hs ht => by
      obtain ⟨hlt, honce⟩ := hbefore.started hw
      refine ht.step hs hlt honce hd ho (hspares d (by simp [he])) fun id hid hown => ?_
      refine hhands d (by simp [he]) id hid ?_
      rw [he]
      exact mem_startedIn_append_left hown
  refine ⟨htracks.tells.mark, fun d rest id hfuture hends => ?_⟩
  rw [hfuture] at hstory
  obtain ⟨hdoes, hopened, hd⟩ := hstory.at_deed
  have hown : (m, id) ∈ startedIn past := by
    rw [hends] at hopened
    exact (htracks.owns (hpast.started hw).2 hopened).mpr rfl
  rw [← hd] at htracks
  rw [hends] at hdoes
  generalize d.before = v, d.after = v' at *
  cases hdoes with
  | @endsError ρ x _ _ scope chain hid =>
    refine Pass.runError_finalizes x scope hid fun hflag hfinal => ?_
    exact Bool.false_ne_true (hflag.symm.trans (htracks.tells.mark.mpr ⟨id, hown, hfinal⟩))

/-- A request that fails after a success is left open for the error pass.  The first error pass
fails, because the tracer does; the second one finalizes the span. -/
def failingTwice : List Action :=
  [.handle (visit 0) "c" false [.status 200, .raise { kind := .valueError }],
    .setFailures { finalize := some { kind := .valueError } }, .handle (visit 500) "c" false [],
    .setFailures {}, .handle (visit 500) "c" false []]

theorem failingTwice_tells :
    let h := history outerRequest 0 failingTwice handlingWorld
    let u := now handlingWorld (h.take 8)
    ((u.attributes outerRequest).isAlreadyFinalized = true ↔
      ∃ id, (outerRequest, id) ∈ startedIn (h.take 8) ∧ (u.span id).state = .finalized) ∧
    (u.attributes outerRequest).isAlreadyFinalized = false ∧
    ∃ d, h.drop 8 = [d] ∧ (d.after.attributes outerRequest).isAlreadyFinalized = true ∧
      ∃ calls, d.after.calls = d.before.calls ++ calls ∧
        ∀ j code cause b, .finalized j code cause b ∈ calls → b = true := by
  intro h u
  have hspares : ∀ d ∈ h.take 8, d.actor.sparesMark outerRequest = true := by decide +kernel
  have hhands : ∀ d ∈ h.take 8, d.actor.hands? = none := by decide +kernel
  obtain ⟨hmark, hlast⟩ := already_finalized_tells (fun _ _ hr => by cases hr) (fun _ => rfl)
    (List.take_append_drop 8 h).symm hspares fun d hd id hid => by
      rw [hhands d hd] at hid
      cases hid
  obtain ⟨d, hd⟩ : ∃ d, h.drop 8 = [d] := List.length_eq_one_iff.mp (by decide +kernel)
  have hafter : ∀ d ∈ h.drop 8, (d.after.attributes outerRequest).isAlreadyFinalized = true := by
    decide +kernel
  have hends : (h.drop 8).map (·.actor) = [.ends outerRequest 0 true] := rfl
  rw [hd] at hafter hends
  refine ⟨hmark, by decide +kernel, d, hd, hafter d (List.mem_singleton_self d), ?_⟩
  exact hlast d [] 0 hd (List.singleton_inj.mp hends)

/-- The span of a request that was left open for its error pass is written into the attributes of
another one, which is answered well. -/
def lending : List Action :=
  [.handle (visit 0) "c" false [.status 200, .raise { kind := .valueError }],
    .store (some (.label "other")) (.setRaw Key.activeSpan.name (.span 0)),
    .handle { visit 200 with request := .label "other" } "c" false [],
    .handle (visit 500) "c" false []]

/-- A finalization that came too late: its span was finalized before. -/
def TracerCall.isLate (id : SpanId) : TracerCall → Bool
  | .finalized j _ _ effective => j = id && !effective
  | .created .. | .abandoned .. | .failed _ => false

/-- The pass over the other request finalizes it and marks only that one.  So the mark of its own
request does not tell, and the error pass over that one finalizes the span in vain. -/
theorem lending_untold :
    let h := history outerRequest 0 lending handlingWorld
    let u := now handlingWorld (h.take 7)
    (handlingWorld.attributes outerRequest).IsUntraced ∧
      (∀ d ∈ h, d.actor.sparesMark outerRequest = true) ∧
      (outerRequest, 0) ∈ startedIn (h.take 7) ∧ (u.span 0).state = .finalized ∧
      (u.attributes outerRequest).isAlreadyFinalized = false ∧
      ∃ d, h.drop 7 = [d] ∧ d.actor = .ends outerRequest 0 true ∧
        d.before.calls.any (·.isLate 0) = false ∧ d.after.calls.any (·.isLate 0) = true := by
  intro h u
  obtain ⟨d, hd⟩ : ∃ d, h.drop 7 = [d] := List.length_eq_one_iff.mp (by decide +kernel)
  have hlate : ∀ d ∈ h.drop 7, d.before.calls.any (·.isLate 0) = false ∧
      d.after.calls.any (·.isLate 0) = true := by
    decide +kernel
  have hends : (h.drop 7).map (·.actor) = [.ends outerRequest 0 true] := rfl
  rw [hd] at hlate hends
  exact ⟨fun _ => rfl, by decide +kernel, by decide +kernel, by decide +kernel, by decide +kernel, d,
    hd, List.singleton_inj.mp hends, hlate d (List.mem_singleton_self d)⟩

end SpanLifecycle
