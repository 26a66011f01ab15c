import SpanLifecycle.Proofs.History
import SpanLifecycle.Proofs.OneReport

/-!
# Requests that have gone asynchronous

Once a request has gone asynchronous, every pass over it leaves all spans alone, whichever half of
it comes after (`Does.leavesAlone`).  Nothing but a write to the mapping behind the bookkeeping can
take the flag back (`Works.async`).  So, from there on, what becomes of spans comes of continuations,
of direct calls, and of passes over other requests (`asynchronous_left_alone`).
-/

namespace SpanLifecycle

/-- A call by which a span was created, or was to be. -/
def TracerCall.isCreation : TracerCall → Bool
  | .created .. | .failed .create => true
  | _ => false

/-- Nothing was finalized, abandoned or exported, the status of a response was written to no span,
and the request has kept its active span, or was given one where it had none. -/
structure LeavesAlone (r : RequestName) (w w' : World) : Prop where
  calls : ∃ calls, w'.calls = w.calls ++ calls ∧ ∀ c ∈ calls, c.isCreation = true
  exports : w'.exports = w.exports
  span : ∀ j, j < w.spans.length → w'.span j = w.span j
  new : ∀ j, w.spans.length ≤ j →
    (w'.span j).state = .opened ∧ (w'.span j).tags.get? httpStatusCode = none
  active : (w'.attributes r).activeSpan = (w.attributes r).activeSpan ∨
    Attribute.present? (w.attributes r).activeSpan = none ∧
      ∃ id, (w'.attributes r).activeSpan = some (.span id)

/-- The request over which a pass does a deed. -/
def Actor.pass? : Actor → Option RequestName
  | .starts r _ | .resumes r _ | .refuses r | .ends r _ _ => some r
  | _ => none

/-- Whether a program disposes of a span itself. -/
def Actor.isDisposal : Actor → Bool
  | .acts _ a => a.isDisposal
  | _ => false

/-- The request whose mapping an action writes to past the bookkeeping. -/
def Actor.rawWrite? : Actor → Option RequestName
  | .acts q (.store o (.setRaw ..)) | .acts q (.store o (.deleteRaw _)) =>
    some (Action.requestOr q o)
  | _ => none

section

variable {r : RequestName} {w w' : World}

theorem LeavesAlone.state (h : LeavesAlone r w w') (j : SpanId) :
    (w'.span j).state = (w.span j).state := by
  rcases Nat.lt_or_ge j w.spans.length with hj | hj
  · rw [h.span j hj]
  · rw [(h.new j hj).1, World.span_default hj]
    rfl

theorem LeavesAlone.of_becomes {m : Attributes} {calls : List TracerCall}
    (h : ∀ j, Becomes r j w w' { span := w.span j, attributes := m, calls })
    (hm : m.activeSpan = (w.attributes r).activeSpan) (hc : ∀ c ∈ calls, c.isCreation = true) :
    LeavesAlone r w w' where
  calls := ⟨calls, (h 0).calls, hc⟩
  exports := (h 0).exports.trans (List.append_nil _)
  span j _ := (h j).itsSpan
  new j hj := by
    rw [(h j).itsSpan, World.span_default hj]
    exact ⟨rfl, rfl⟩
  active := .inl (by rw [(h 0).itsAttributes, hm])

theorem Exchange.Begins.leavesAlone {x : Exchange} {c : String} (h : x.Begins c w w')
    (ha : Attribute.present? (w.attributes x.request).activeSpan = none) :
    LeavesAlone x.request w w' where
  calls := ⟨_, h.calls, fun c hc => by rw [List.mem_singleton.mp hc]; rfl⟩
  exports := h.exports
  span j hj := h.others j (Nat.ne_of_lt hj)
  new j hj := by
    by_cases hnew : j = w.spans.length
    · rw [hnew]
      exact ⟨h.span.state, h.span.untagged⟩
    · rw [h.others j hnew, World.span_default hj]
      exact ⟨rfl, rfl⟩
  active := by
    refine .inr ⟨ha, w.spans.length, ?_⟩
    rw [h.attributes]
    exact openingAttributes_activeSpan _ _ _

/-- A pass over a request that has gone asynchronous leaves all spans alone, on each of its ways. -/
theorem Does.leavesAlone {actor : Actor} (h : Does actor w w') (hr : actor.pass? = some r)
    (hasync : (w.attributes r).isAsyncStarted = true) : LeavesAlone r w w' := by
  cases h with
  | starts h ha =>
    cases hr
    exact (Exchange.chainStart?_begins h ha).leavesAlone ha
  | resumes h ha =>
    cases hr
    exact .of_becomes (Exchange.chainStart?_resumes h ha)
      (Attributes.markSpanContinued_activeSpan _) nofun
  | refuses chain h =>
    cases hr
    obtain ⟨m, calls, hb, hcalls, hactive, -⟩ := Exchange.handle_refused h chain
    refine .of_becomes hb hactive fun c hc => ?_
    rcases hcalls with rfl | rfl
    · exact absurd hc List.not_mem_nil
    · rw [List.mem_singleton.mp hc]
      rfl
  | endsNormal scope chain _ =>
    cases hr
    exact .of_becomes (Pass.runNormal_async _ _ _ scope chain hasync).2
      (Pass.notedAttributes_activeSpan _ _) nofun
  | endsError scope chain _ =>
    cases hr
    exact .of_becomes (Pass.runError_async _ _ scope chain hasync)
      (Attributes.markErrorHandled_activeSpan _) nofun
  | acts h | shifts => cases hr

/-- A request that has gone asynchronous stays so, unless its mapping is written to directly. -/
theorem Works.async {actor : Actor} (h : Works w w' actor)
    (hraw : actor.rawWrite? = some r → (w'.attributes r).isAsyncStarted = true)
    (hasync : (w.attributes r).isAsyncStarted = true) :
    (w'.attributes r).isAsyncStarted = true := by
  have settled : ∀ {q id}, Settles q id w w' → (w'.attributes r).isAsyncStarted = true := by
    intro q id h
    by_cases hq : r = q
    · subst hq
      exact h.async hasync
    · exact (h.attributes r hq).async hasync
  cases h with
  | @starts x c h =>
    by_cases hr : r = x.request
    · rw [hr, h.attributes, openingAttributes_isAsyncStarted, ← hr]
      exact hasync
    · rw [h.otherAttributes r hr]
      exact hasync
  | resumes _ h | refuses h | shifts h | acts h => exact (h.attributes r).async hasync
  | ends h | uses _ _ h => exact settled h
  | finalizes h =>
    obtain ⟨s, calls, exports, h⟩ := h r
    rw [h.itsAttributes]
    exact hasync
  | abandons h =>
    obtain ⟨s, calls, -, h⟩ := h r
    rw [h.itsAttributes]
    exact hasync
  | @writes q p o call hq hcall h =>
    by_cases hr : r = p
    · subst hr
      cases call with
      | setRaw key a => exact hraw (congrArg some hq)
      | deleteRaw key => exact hraw (congrArg some hq)
      | setActiveSpan a =>
        rw [(h 0).itsAttributes]
        simpa [StoreCall.run] using hasync
      | markAlreadyFinalized =>
        rw [(h 0).itsAttributes]
        simpa [StoreCall.run] using hasync
      | _ => cases hcall
    · rw [(h 0).attributes r hr]
      exact hasync

/-- A span changes its state by a disposal of the program's own, or at the end of a pass over it. -/
theorem Works.disposes {actor : Actor} {id : SpanId} (h : Works w w' actor)
    (hs : (w'.span id).state ≠ (w.span id).state) :
    actor.isDisposal = true ∨ ∃ q e, actor = .ends q id e := by
  cases h with
  | @starts x c h =>
    refine absurd ?_ hs
    by_cases hid : id = w.spans.length
    · rw [hid, h.span.state, World.span_default (Nat.le_refl _)]
      rfl
    · rw [h.others id hid]
  | resumes _ h | refuses h | shifts h | acts h => exact absurd (h.state id) hs
  | @ends q j e h =>
    by_cases hid : id = j
    · exact .inr ⟨q, e, hid ▸ rfl⟩
    · exact absurd (h.state id hid) hs
  | uses hd _ _ => exact .inl hd
  | finalizes _ | abandons _ => exact .inl rfl
  | writes _ _ h => exact absurd (congrArg Span.state (h id).itsSpan) hs

end

/-! ## Main statement -/

/-- From any point of a program at which a request has gone asynchronous, and as long as no write
past the bookkeeping takes that back: no deed of a pass over the request disposes of any span, writes
the status of a response or takes the active span from the request.  So every span that is finalized
or abandoned from there on is so by a continuation or a direct call, or at the end of a pass over
another request, which has started the span itself or found it as its active span. -/
theorem asynchronous_left_alone {w : World} {r m : RequestName} {status : Int}
    {actions : List Action} {past future : List Deed} (hw : w.Sound)
    (h : history r status actions w = past ++ future)
    (hasync : ((now w past).attributes m).isAsyncStarted = true)
    (hraw : ∀ d ∈ future, d.actor.rawWrite? = some m →
      (d.after.attributes m).isAsyncStarted = true) :
    ∀ before d rest, future = before ++ d :: rest →
      (d.actor.pass? = some m → LeavesAlone m d.before d.after) ∧
      ∀ id, (d.after.span id).state ≠ (d.before.span id).state →
        d.actor.isDisposal = true ∨ ∃ q e, q ≠ m ∧ d.actor = .ends q id e ∧
          ((q, id) ∈ resumedIn (past ++ before) ∨
            (q, id) ∈ startedIn (past ++ before) ∧ (m, id) ∉ startedIn (past ++ before)) := by
  intro before d rest hfuture
  have hstory := history_story r status actions hw []
  rw [h] at hstory
  obtain ⟨hpast, hthen⟩ := hstory.cut
  have hw' := (hpast.run (I := fun _ _ => True) hw trivial fun _ _ _ _ _ _ _ _ _ => trivial).1
  rw [hfuture] at hthen
  obtain ⟨hdoes, hopened, hd⟩ := hthen.at_deed
  -- the flag is still set where the deed is done
  obtain ⟨hsound, hthere⟩ := hthen.cut.1.run
    (I := fun _ u => (u.attributes m).isAsyncStarted = true) hw' hasync
    fun before' e rest' he _ hdoes' _ hs hi => (hdoes'.works hs).async
      (hraw e (by rw [hfuture, he]; simp)) hi
  rw [← hd] at hsound hthere
  have halone := fun hm => hdoes.leavesAlone (r := m) hm hthere
  refine ⟨halone, fun id hs => ?_⟩
  rcases (hdoes.works hsound).disposes hs with hdirect | ⟨q, e, hends⟩
  · exact .inl hdirect
  · have hqm : q ≠ m := fun hq => hs ((halone (by rw [hends, hq]; rfl)).state id)
    rw [hfuture, ← List.append_assoc] at hstory
    have honce := (hstory.cut.1.started hw).2
    rw [hends] at hopened
    refine .inr ⟨q, e, hqm, hends, ?_⟩
    rcases hopened with hstarts | hresumes
    · exact .inr ⟨hstarts, fun hm => hqm (honce q m id hstarts hm)⟩
    · exact .inl hresumes

/-- A request goes asynchronous inside a further pass over it, which fails; its error pass comes
before its continuation is used. -/
def goingOn : List Action :=
  [.handle (visit 0) "c" false
    [.handle (visit 200) "c" true [.startAsync "k" none, .raise { kind := .valueError }]],
    .handle (visit 500) "c" false [], .complete "k" 202 none]

theorem goingOn_left_alone :
    let h := history outerRequest 0 goingOn {}
    ((now {} (h.take 3)).attributes outerRequest).isAsyncStarted = true ∧
      (h.drop 3).map (·.actor.pass?) =
        none :: List.replicate 4 (some outerRequest) ++ [none] ∧
      ∀ before d rest, h.drop 3 = before ++ d :: rest → d.actor.pass? = some outerRequest →
        LeavesAlone outerRequest d.before d.after := by
  intro h
  have hasync : ((now {} (h.take 3)).attributes outerRequest).isAsyncStarted = true := by
    decide +kernel
  have hraw : ∀ d ∈ h.drop 3, d.actor.rawWrite? = some outerRequest →
      (d.after.attributes outerRequest).isAsyncStarted = true := by
    decide +kernel
  refine ⟨hasync, by decide +kernel, fun before d rest hd => ?_⟩
  exact (asynchronous_left_alone (fun _ _ hr => by cases hr)
    (List.take_append_drop 3 h).symm hasync hraw before d rest hd).1

/-- The span of a request that has gone asynchronous is made the active span of another one. -/
def sharing : List Action :=
  [.handle (visit 0) "c" false [.startAsync "k" none],
    .store (some (.label "other")) (.setActiveSpan (.span 0)),
    .handle { visit 200 with request := .label "other" } "c" false []]

/-- A pass over the other request then finalizes it, before any use of the continuation. -/
theorem sharing_finalizes_elsewhere :
    let h := history outerRequest 0 sharing {}
    ((now {} (h.take 2)).attributes outerRequest).isAsyncStarted = true ∧
      (outerRequest, 0) ∈ startedIn (h.take 2) ∧
      (∀ d ∈ h.drop 2, d.actor.rawWrite? = none ∧ d.actor.isDisposal = false) ∧
      ∃ d ∈ h.drop 2, d.actor.pass? = some (.label "other") ∧
        (d.before.span 0).state = .opened ∧ (d.after.span 0).state = .finalized := by
  decide +kernel

end SpanLifecycle
