import SpanLifecycle.Proofs.Asynchronous
import SpanLifecycle.Proofs.SelfReported
import SpanLifecycle.Proofs.Undisturbed

/-!
# Bookkeeping that moves forward

A request goes from fresh to continued to handled, and what was flagged about it stays flagged.  Each
operation of the bookkeeping keeps to that order, but for raw writes to the mapping behind it, and none
touches a key that is not its own (`Attributes.Forward`).  Passes and continuations leave, besides,
all that only the application is to say (`Attributes.Notes`).

`Does.forward` and `Does.notes` say so of single deeds, and `bookkeeping_moves_forward` of every two
moments of a run.
-/

namespace SpanLifecycle

/-- The place of a state in the order in which a request goes through them. -/
def RequestState.rank : RequestState → Nat
  | fresh => 0
  | continued => 1
  | errorHandled => 2

/-- The flags that are never lowered. -/
def Key.isLasting : Key → Bool
  | .shouldClose | .spanWithoutParent | .alreadyFinalized | .errorSpanReported | .asyncStarted => true
  | .activeSpan | .requestState | .pendingException => false

namespace Attributes

/-- The state of a request, which a foreign value is not. -/
def state? (m : Attributes) : Option RequestState :=
  match m.requestState with
  | .state s => some s
  | _ => none

/-- The state goes on in its order, a flag that was raised stays so, and what stands under keys that
are none of the tracing's own is the same. -/
structure Forward (m m' : Attributes) : Prop where
  state : ∀ s, m.state? = some s → ∃ s', m'.state? = some s' ∧ s.rank ≤ s'.rank
  flags : ∀ k : Key, k.isLasting = true → m.flag k = true → m'.flag k = true
  foreign : ∀ key, (∀ k : Key, k.name ≠ key) → m'.get? key = m.get? key

/-- So it is, and what the application has noted about the request stands as it did. -/
structure Notes (m m' : Attributes) : Prop extends Forward m m' where
  notice : ∀ k : Key, k.isNotice = true → m'.at? k = m.at? k

/-! ## Reading the state -/

theorem inState_iff (m : Attributes) (s : RequestState) : m.inState s = true ↔ m.state? = some s := by
  unfold inState state?
  cases m.requestState with
  | state t => simp
  | _ => simp

theorem state?_put_state (m : Attributes) (s : RequestState) :
    (m.put .requestState (.state s)).state? = some s := by
  unfold state? requestState
  rw [at?_put, if_pos rfl]
  rfl

theorem state?_of_at? {m m' : Attributes} (h : m'.at? .requestState = m.at? .requestState) :
    m'.state? = m.state? := by
  unfold state? requestState
  rw [h]

/-! ## Steps forward -/

namespace Forward

variable {m m' m'' : Attributes}

theorem refl (m : Attributes) : m.Forward m where
  state s hs := ⟨s, hs, Nat.le_refl _⟩
  flags _ _ := id
  foreign _ _ := rfl

theorem trans (h : m.Forward m') (g : m'.Forward m'') : m.Forward m'' where
  state s hs := by
    obtain ⟨s', hs', hle⟩ := h.state s hs
    obtain ⟨s'', hs'', hle'⟩ := g.state s' hs'
    exact ⟨s'', hs'', Nat.le_trans hle hle'⟩
  flags k hk := g.flags k hk ∘ h.flags k hk
  foreign key hkey := (g.foreign key hkey).trans (h.foreign key hkey)

/-- What is stored under the state's key is a state that is not behind, and under a flag's key
something that counts as set. -/
theorem put (m : Attributes) {k : Key} {a : Attribute}
    (hs : k = .requestState → ∃ s, a = .state s ∧ ∀ t, m.state? = some t → t.rank ≤ s.rank)
    (hf : k.isLasting = true → a.truthy = true) : m.Forward (Attributes.put m k a) where
  state t ht := by
    by_cases hk : k = .requestState
    · obtain ⟨s, rfl, hle⟩ := hs hk
      subst hk
      exact ⟨s, m.state?_put_state s, hle t ht⟩
    · refine ⟨t, ?_, Nat.le_refl _⟩
      rw [state?_of_at?, ht]
      rw [at?_put, if_neg (Ne.symm hk)]
  flags k' hk' h := by
    rw [flag_put]
    by_cases hkey : k' = k
    · rw [if_pos hkey]
      exact hf (hkey ▸ hk')
    · rwa [if_neg hkey]
  foreign key hkey := by
    unfold Attributes.put
    rw [Mapping.get?_set, if_neg (hkey k).symm]

theorem drop (m : Attributes) {k : Key} (hs : k ≠ .requestState) (hf : k.isLasting = false) :
    m.Forward (Attributes.drop m k) where
  state t ht := by
    refine ⟨t, ?_, Nat.le_refl _⟩
    rw [state?_of_at?, ht]
    rw [at?_drop, if_neg hs.symm]
  flags k' hk' h := by
    rw [flag_drop, if_neg]
    · exact h
    · rintro rfl
      rw [hf] at hk'
      cases hk'
  foreign key hkey := by
    unfold Attributes.drop
    rw [Mapping.get?_erase, if_neg (hkey k).symm]

theorem raiseFlag (m : Attributes) {k : Key} (hk : k ≠ .requestState) :
    m.Forward (Attributes.raiseFlag m k) :=
  put m (fun h => absurd h hk) fun _ => rfl

theorem markErrorHandled (m : Attributes) : m.Forward m.markErrorHandled :=
  put m (fun _ => ⟨.errorHandled, rfl, fun t _ => by cases t <;> decide⟩) nofun

/-- Only a fresh request is marked as continued. -/
theorem markSpanContinued (m : Attributes) : m.Forward m.markSpanContinued := by
  unfold Attributes.markSpanContinued
  split
  · next hfresh =>
    refine put m (fun _ => ⟨.continued, rfl, fun t ht => ?_⟩) nofun
    rw [(m.inState_iff .fresh).mp hfresh] at ht
    cases ht
    decide
  · exact refl m

end Forward

/-! ## Notes about a request -/

namespace Notes

variable {m m' m'' : Attributes}

theorem refl (m : Attributes) : m.Notes m := ⟨.refl m, fun _ _ => rfl⟩

theorem trans (h : m.Notes m') (g : m'.Notes m'') : m.Notes m'' :=
  ⟨h.toForward.trans g.toForward, fun k hk => (g.notice k hk).trans (h.notice k hk)⟩

/-- A step forward under a key that is not the application's. -/
theorem put {k : Key} {a : Attribute} (h : m.Forward (Attributes.put m k a))
    (hk : k.isNotice = false) : m.Notes (Attributes.put m k a) := by
  refine ⟨h, fun k' hk' => ?_⟩
  rw [at?_put, if_neg]
  rintro rfl
  rw [hk] at hk'
  cases hk'

theorem drop (m : Attributes) {k : Key} (hs : k ≠ .requestState) (hf : k.isLasting = false)
    (hk : k.isNotice = false) : m.Notes (Attributes.drop m k) := by
  refine ⟨.drop m hs hf, fun k' hk' => ?_⟩
  rw [at?_drop, if_neg]
  rintro rfl
  rw [hk] at hk'
  cases hk'

theorem markSpanContinued (m : Attributes) : m.Notes m.markSpanContinued := by
  refine ⟨.markSpanContinued m, fun k hk => ?_⟩
  unfold Attributes.markSpanContinued
  split
  · rw [at?_put, if_neg]
    rintro rfl
    cases hk
  · rfl

theorem of_mark (h : m.Mark m') : m.Notes m' := by
  cases h with
  | pending e => exact put (.put m nofun nofun) rfl
  | forgotten => exact drop m nofun rfl rfl
  | cleared => exact drop m nofun rfl rfl
  | finalized => exact put (.raiseFlag m nofun) rfl
  | handled => exact put (.markErrorHandled m) rfl

/-- The end of a pass notes nothing else. -/
theorem of_marks (h : m.Marks m') : m.Notes m' := by
  induction h with
  | refl => exact refl m
  | tail _ hstep ih => exact ih.trans (of_mark hstep)

theorem opening (id : SpanId) (root : Bool) (m : Attributes) :
    m.Notes (openingAttributes id root m) := by
  unfold openingAttributes
  have hactive : m.Notes (m.setActiveSpan (.span id)) := put (.put m nofun nofun) rfl
  cases root with
  | true => exact hactive.trans (put (.raiseFlag _ nofun) rfl)
  | false => exact hactive

theorem taken (m : Attributes) : m.Notes (Continuation.taken m) :=
  (drop m (k := .activeSpan) nofun rfl rfl).trans (drop _ nofun rfl rfl)

end Notes

end Attributes

/-! ## Calls on the bookkeeping -/

/-- Whether a call writes to the mapping behind the bookkeeping. -/
def StoreCall.isRaw : StoreCall → Bool
  | .setRaw .. | .deleteRaw _ => true
  | _ => false

/-- No call of the bookkeeping's own goes back. -/
theorem StoreCall.run_forward {call : StoreCall} (h : call.isRaw = false) (m : Attributes) :
    m.Forward (call.run m).2 := by
  cases call with
  | setRaw | deleteRaw => cases h
  | setActiveSpan a | setPendingException a => exact .put m nofun nofun
  | clearActiveSpan | takePendingException => exact .drop m nofun rfl
  | markSpanContinued => exact .markSpanContinued m
  | markErrorHandled => exact .markErrorHandled m
  | requestClose | markSpanWithoutParent | markAlreadyFinalized | markErrorSpanReported
  | startAsync => exact .raiseFlag m nofun
  | _ => exact .refl m

/-! ## Deeds -/

/-- Whether a deed is the tracing's own: one of a pass, or the use of a continuation. -/
def Actor.isOwn (actor : Actor) : Bool := actor.pass?.isSome || actor.use?.isSome

section

variable {actor : Actor} {w w' : World}

theorem Exchange.Begins.notes {x : Exchange} {c : String} (h : x.Begins c w w') (m : RequestName) :
    (w.attributes m).Notes (w'.attributes m) := by
  by_cases hm : m = x.request
  · rw [hm, h.attributes]
    exact .opening _ _ _
  · rw [h.otherAttributes m hm]
    exact .refl _

theorem Becomes.notes {r : RequestName} {id : SpanId} {e : Upshot} (h : Becomes r id w w' e)
    (he : (w.attributes r).Notes e.attributes) (m : RequestName) :
    (w.attributes m).Notes (w'.attributes m) := by
  by_cases hm : m = r
  · rw [hm, h.itsAttributes]
    exact he
  · rw [h.attributes m hm]
    exact .refl _

theorem Treats.notes {r : RequestName} {id : SpanId} (h : Treats r id w w') (m : RequestName) :
    (w.attributes m).Notes (w'.attributes m) := by
  by_cases hm : m = r
  · rw [hm]
    exact .of_marks h.marks
  · rw [h.attributes m hm]
    exact .refl _

/-- Passes and continuations only note. -/
theorem Does.notes (h : Does actor w w') (hw : w.Sound) (hown : actor.isOwn = true)
    (m : RequestName) : (w.attributes m).Notes (w'.attributes m) := by
  cases h with
  | starts h ha => exact (Exchange.chainStart?_begins h ha).notes m
  | resumes h ha => exact (Exchange.chainStart?_resumes h ha 0).notes (.markSpanContinued _) m
  | @refuses _ x _ _ chain h =>
    obtain ⟨n, calls, hb, -, ⟨raised, rfl⟩ | rfl⟩ := Exchange.handle_refused_becomes h chain
    · exact (hb 0).notes (.of_marks (.noted raised _)) m
    · exact (hb 0).notes (.markSpanContinued _) m
  | endsNormal scope chain hid => exact (Pass.runNormal_treats _ _ scope hid).notes m
  | endsError scope chain hid => exact (Pass.runError_treats _ scope hid).1.notes m
  | @acts q _ a _ h =>
    cases hu : a.use? with
    | none =>
      unfold Actor.isOwn at hown
      simp only [Actor.pass?, Actor.use?, hu, Option.isSome_none, Bool.or_self] at hown
      cases hown
    | some use =>
      have hdoes : Does (.acts q a) w (a.performAt q 0 w).world := .acts h
      obtain ⟨-, hw'⟩ := hdoes.of_use hu
      rw [Action.performAt_world] at hw'
      rw [Action.performAt_world, hw']
      rcases (Action.use?_isTaking hu).marks hw m with hsame | ⟨-, hmarks⟩
      · rw [hsame]
        exact .refl _
      · exact (Attributes.Notes.taken _).trans (.of_marks hmarks)
  | shifts => cases hown

/-- An action that uses no continuation does not take the bookkeeping back either. -/
theorem Action.perform_forward {q m : RequestName} {a : Action} (h : w.missing? a = none)
    (hu : a.use? = none) (hraw : (Actor.acts q a).rawWrite? ≠ some m) :
    (w.attributes m).Forward (((a.perform q).runIn w).2.attributes m) := by
  by_cases hm : a.request? q = some m
  · cases a with
    | store o call =>
      cases hm
      have hcall : call.isRaw = false := by
        cases call with
        | setRaw | deleteRaw => exact absurd rfl hraw
        | _ => rfl
      have hbecomes : (((Action.store o call).perform q).runIn w).2.attributes (requestOr q o) =
          (call.run (w.attributes (requestOr q o))).2 :=
        (w.store_becomes (requestOr q o) call 0).itsAttributes
      rw [hbecomes]
      exact call.run_forward hcall _
    | startAsync label o =>
      cases hm
      have hbecomes : (((Action.startAsync label o).perform q).runIn w).2.attributes
          (requestOr q o) = (w.attributes (requestOr q o)).raiseFlag .asyncStarted :=
        ((Becomes.openRequest (requestOr q o) 0 w _).thenModifyAttributes
          (·.raiseFlag .asyncStarted)).itsAttributes
      rw [hbecomes]
      exact .raiseFlag _ nofun
    | _ => cases hm
  · rw [(Action.perform_spares h hu).attributes m hm]
    exact .refl _

/-- No deed takes the bookkeeping back, but for a raw write. -/
theorem Does.forward (h : Does actor w w') (hw : w.Sound) {m : RequestName}
    (hraw : actor.rawWrite? ≠ some m) : (w.attributes m).Forward (w'.attributes m) := by
  by_cases hown : actor.isOwn = true
  · exact (h.notes hw hown m).toForward
  · cases h with
    | acts h =>
      rw [Action.performAt_world]
      refine Action.perform_forward h ?_ hraw
      simpa [Actor.isOwn, Actor.pass?, Actor.use?] using hown
    | shifts => exact .refl _
    | _ => exact absurd rfl hown

/-- So neither does a story without raw writes. -/
theorem Story.forward {past l : List Deed} {m : RequestName} (h : Story past w l w') (hw : w.Sound)
    (hraw : ∀ d ∈ l, d.actor.rawWrite? ≠ some m) :
    (w.attributes m).Forward (w'.attributes m) := by
  refine (h.run (I := fun _ u => (w.attributes m).Forward (u.attributes m)) hw (.refl _) ?_).2
  intro before d rest hl _ hd _ hsound hforward
  have hmem : d ∈ l := by
    rw [hl]
    exact List.mem_append_right _ List.mem_cons_self
  exact hforward.trans (hd.forward hsound (hraw d hmem))

end

/-! ## Main statement -/

/-- Let the state of a request be a state, or none be stored, which counts as fresh, and let any
program run that does not write to its mapping past the bookkeeping: with any passes over it and over
other requests by any coordinators, however nested, whatever they raise and whichever calls of the
tracer fail, with continuations, and with calls of the bookkeeping at any time.

Then from any moment of the run to any later one, the state is a state and has not gone back in the
order of fresh, continued and handled; each of the five flags that was set is still set; and every key
but the tracing's own has its value.  No deed of a pass, and no use of a continuation, changes what
stands under the keys by which the application asks for the span to be closed, reports it, or goes
asynchronous. -/
theorem bookkeeping_moves_forward {w : World} {r m : RequestName} {status : Int}
    {actions : List Action} (hw : w.Sound) (hstate : (w.attributes m).state?.isSome = true)
    (hraw : ∀ d ∈ history r status actions w, d.actor.rawWrite? ≠ some m) :
    now w (history r status actions w) = (runActions r status actions w).world ∧
    (∀ past between future, history r status actions w = past ++ between ++ future →
      ((now w past).attributes m).state?.isSome = true ∧
      ((now w past).attributes m).Forward ((now w (past ++ between)).attributes m)) ∧
    ∀ d ∈ history r status actions w, d.actor.isOwn = true → ∀ k : Key, k.isNotice = true →
      (d.after.attributes m).at? k = (d.before.attributes m).at? k := by
  have hstory := history_story r status actions hw []
  refine ⟨hstory.eq_now.symm, fun past between future h => ?_, fun d hd hown => ?_⟩
  · rw [h] at hstory hraw
    have hraw' : ∀ d ∈ past ++ between, d.actor.rawWrite? ≠ some m := fun d hd =>
      hraw d (List.mem_append_left _ hd)
    obtain ⟨hpast, hthen⟩ := hstory.cut.1.cut
    have hto := hpast.forward hw fun d hd => hraw' d (List.mem_append_left _ hd)
    obtain ⟨s, hs⟩ := Option.isSome_iff_exists.mp hstate
    obtain ⟨s', hs', -⟩ := hto.state s hs
    refine ⟨by rw [hs']; rfl, ?_⟩
    exact hthen.forward (hpast.sound hw) fun d hd => hraw' d (List.mem_append_right _ hd)
  · obtain ⟨before, rest, hl⟩ := List.append_of_mem hd
    rw [hl] at hstory
    obtain ⟨hdoes, hsound⟩ := hstory.sound_at hw
    exact (hdoes.notes hsound hown m).notice

/-- A request under which foreign code has stored something. -/
def belonging : World := ({} : World).setAttributes outerRequest [("app.user", .value (.int 7))]

/-- Its span is reported by the application inside a failing pass, while nothing can be finalized; the
error pass takes it on, its chain tries to take the request back, and a continuation comes last. -/
def ownReport : List Action :=
  [.setFailures { finalize := some { kind := .runtimeError } },
    .handle (visit 0) "c" false
      [.store none .markErrorSpanReported, .startAsync "k" none, .raise { kind := .valueError }],
    .handle (visit 500) "c" false [.store none .markSpanContinued, .store none .takePendingException],
    .store none .markSpanContinued, .complete "k" 500 (some { kind := .valueError })]

theorem ownReport_moves_forward :
    let h := history outerRequest 0 ownReport belonging
    (h.map fun d => (d.after.attributes outerRequest).state?.map (·.label)) =
      List.replicate 6 (some "FRESH") ++ List.replicate 3 (some "CONTINUED") ++
        List.replicate 3 (some "ERROR_HANDLED") ∧
    (h.map fun d => (d.after.attributes outerRequest).isErrorSpanReported) =
      List.replicate 2 false ++ List.replicate 10 true ∧
    ((now belonging h).attributes outerRequest).get? "app.user" = some (.value (.int 7)) ∧
    ((now belonging (h.take 3)).attributes outerRequest).Forward
      ((now belonging (h.take 3 ++ h.drop 3)).attributes outerRequest) ∧
    h.countP (·.actor.isOwn) = 5 ∧
    ∀ d ∈ h, d.actor.isOwn = true →
      (d.after.attributes outerRequest).at? .errorSpanReported =
        (d.before.attributes outerRequest).at? .errorSpanReported := by
  intro h
  have hraw : ∀ d ∈ h, d.actor.rawWrite? ≠ some outerRequest := by decide +kernel
  have hsound : belonging.Sound := by
    refine (Becomes.modifyAttributes outerRequest 0 {} fun _ => _).sound (fun _ _ hr => by cases hr) ?_
    exact fun id hid => by cases hid
  obtain ⟨-, hmoves, hnotice⟩ :=
    bookkeeping_moves_forward hsound (m := outerRequest) rfl hraw
  refine ⟨by decide +kernel, by decide +kernel, ?_, ?_, by decide +kernel,
    fun d hd hown => hnotice d hd hown .errorSpanReported rfl⟩
  · exact (hmoves [] h [] (List.append_nil h).symm).2.foreign "app.user"
      fun k => by cases k <;> decide
  · exact (hmoves (h.take 3) (h.drop 3) [] (by rw [List.append_nil, List.take_append_drop])).2

end SpanLifecycle
