import SpanLifecycle.Proofs.Evolves

/-!
# Passes and programs evolve

Each part of a pass logs what it does to a span with both ids of it, or with none, but for one event:
a span that is reused is logged with its trace id alone, which is safe only because it has just been
made current (`Pass.noteArrival_currentContext`).  With that, passes and continuations evolve a world
as far as chains do, and all programs do (`runActions_evolves`).
-/

namespace SpanLifecycle

open World

/-! ## Passes -/

/-- A chain that evolves every world, provided that its first `n` spans have been started. -/
def Pass.Evolves {ρ : Type} (n : Nat) (chain : Chain ρ) : Prop :=
  ∀ w : World, w.Grounded → n ≤ w.spans.length → w.Evolves (chain w).world

namespace Pass

variable {w : World} {c : String} {x : Exchange}

theorem setCoordinator_evolves (hw : w.Grounded) (c : String) (y : Coordinator) :
    w.Evolves (w.setCoordinator c y) :=
  .aside (hw.aside hw.sound (Nat.le_refl _) rfl rfl) rfl rfl rfl rfl rfl rfl

theorem hasErrorHandler_evolves (hw : w.Grounded) (c : String) :
    w.Evolves ((hasErrorHandler c).runIn w).2 := by
  unfold hasErrorHandler
  rw [Act.runIn_bind, Act.runIn_get]
  dsimp only
  cases (w.coordinator c).known with
  | some b => exact .refl hw
  | none =>
    refine .bind (setCoordinator_evolves hw c _) fun _ v _ hasked => ?_
    split
    · exact .refl hasked.grounded
    · exact .bind (setCoordinator_evolves hasked.grounded c _) fun _ _ _ hv => .refl hv.grounded

theorem marked_evolves (hw : w.Grounded) (d : Decision) (r : RequestName) (status : Int)
    (id : SpanId) : w.Evolves (marked d r status id w) := by
  have htag : w.Evolves (if d.tagStatus && (w.span id).state != .finalized then
      w.modifySpan id (·.tag httpStatusCode (toString status)) else w) :=
    .ite hw fun _ => .modifySpan hw id rfl
  refine htag.trans (.ite htag.grounded fun _ => .modifyAttributes htag.grounded _ _ ?_)
  intro j hj
  simp at hj

theorem carryOut_evolves (hw : w.Grounded) (v : Verdict) (r : RequestName) (status : Int)
    {id : SpanId} (hid : id < w.spans.length) (failure : Option Fault) :
    w.Evolves ((carryOut v r status id failure).runIn w).2 := by
  unfold carryOut
  cases v with
  | defer => exact .refl hw
  | abandon =>
    exact (Tracer.abandon_evolves hw hid).bind (f := fun _ => pure ()) fun _ _ _ hv =>
      .refl hv.grounded
  | finalize =>
    refine (Tracer.finalize_evolves hw status _ hid).bind fun b u _ hu => ?_
    split
    · have h := Evolves.modifyAttributes hu.grounded r (·.raiseFlag .alreadyFinalized)
        (World.admits_of_eq (by simp))
      refine .bind h fun _ v hv _ => ?_
      cases hv
      split
      · exact .modifyAttributes h.grounded r (fun m => m.takePendingException.2)
          (World.admits_of_eq (by simp))
      · exact .refl h.grounded
    · exact .refl hu.grounded

/-- The verdict is logged with both ids of the span. -/
theorem settle_evolves (hw : w.Grounded) (c : String) (r : RequestName) (status : Int)
    {id : SpanId} (hid : id < w.spans.length) (failure : Option Fault) :
    w.Evolves ((settle c r status id failure).runIn w).2 := by
  unfold settle
  refine (hasErrorHandler_evolves hw c).bind fun b v _ hv => ?_
  have hidv := Nat.lt_of_lt_of_le hid hv.length_le
  rw [Act.runIn_bind, Act.runIn_get]
  dsimp only
  refine .bind (.log hv.grounded _ (.whole _ (context_mem hidv) rfl rfl)) fun _ u _ hlog => ?_
  rw [applyDecision_runIn]
  have hmark := marked_evolves hlog.grounded
    (outcome v r status id failure b).decide r status id
  refine hmark.trans (carryOut_evolves hmark.grounded _ r status ?_ failure)
  exact Nat.lt_of_lt_of_le hidv (hlog.trans hmark).length_le

theorem conclude_evolves (hw : w.Grounded) (c : String) (r : RequestName) (status : Int)
    (id : Option SpanId) (hid : ∀ j, id = some j → j < w.spans.length) (failure : Option Fault) :
    w.Evolves ((conclude c r status id failure).runIn w).2 := by
  unfold conclude
  rw [Act.runIn_bind, Act.runIn_get]
  dsimp only
  split
  · exact .log hw logger (.silent rfl rfl)
  · cases id with
    | none => exact .refl hw
    | some j => exact settle_evolves hw c r status (hid j rfl) failure

theorem concludeError_evolves (hw : w.Grounded) (r : RequestName) (status : Int) {id : SpanId}
    (hid : id < w.spans.length) : w.Evolves ((concludeError r status id).runIn w).2 := by
  have hmark := Evolves.modifyAttributes hw r (·.markErrorHandled)
    (World.admits_of_eq (by simp))
  have hidm := Nat.lt_of_lt_of_le hid hmark.length_le
  unfold concludeError
  refine .bind hmark fun _ v hv _ => ?_
  cases hv
  rw [Act.runIn_bind, Act.runIn_get]
  dsimp only
  split
  · exact .log hmark.grounded logger (.whole _ (context_mem hidm) rfl rfl)
  · split
    · have htake := Evolves.modifyAttributes hmark.grounded r (fun m => m.takePendingException.2)
        (World.admits_of_eq (by simp))
      refine .bind htake fun _ v hv _ => ?_
      cases hv
      have hidt := Nat.lt_of_lt_of_le hidm htake.length_le
      refine (Tracer.finalize_evolves htake.grounded status _ hidt).bind fun b u _ hu => ?_
      split
      · exact .modifyAttributes hu.grounded r (·.raiseFlag .alreadyFinalized)
          (World.admits_of_eq (by simp))
      · exact .refl hu.grounded
    · exact .refl hmark.grounded

theorem noteFailure_evolves (hw : w.Grounded) (x : Exchange) (raised : Option Fault) :
    w.Evolves (noteFailure x raised w) := by
  unfold noteFailure
  split
  · next e =>
    split
    · have hlog := Evolves.log hw logger
        (e := { severity := .error, event := "uncaught_exception"
                fields := [("path", .text x.path)], fault := some e }) (.silent rfl rfl)
      exact hlog.trans (.modifyAttributes hlog.grounded _ (·.setPendingException (.fault e))
        (World.admits_of_eq (by simp)))
    · exact .refl hw
  · exact .refl hw

theorem noteArrival_evolves (hw : w.Grounded) (x : Exchange) : w.Evolves (noteArrival x w) :=
  .log hw logger (.silent rfl rfl)

theorem startSpan_evolves (hw : w.Grounded) (stem : String) (x : Exchange) :
    w.Evolves ((startSpan stem x).runIn w).2 := by
  unfold startSpan
  refine (Tracer.start_evolves hw _ _ _ _).bind fun id v hv hstart => ?_
  have hid := Tracer.start_lt hv
  simp only [Act.runIn_bind, Act.runIn_modify, Act.runIn_get, Act.runIn_when, Act.runIn_pure]
  have hactive := Evolves.modifyAttributes hstart.grounded x.request
    (·.setActiveSpan (.span id)) (fun j hj => by
      simp at hj
      exact .inr (hj ▸ hid))
  exact hactive.trans (.ite hactive.grounded fun _ => .modifyAttributes hactive.grounded _
    (·.raiseFlag .spanWithoutParent) (World.admits_of_eq (by simp)))

/-! ## Exchanges -/

variable {ρ : Type} {n : Nat} {chain : Chain ρ} {id : SpanId}

theorem runNormal_evolves (hw : (chain w).world.Grounded) (c : String) (x : Exchange)
    (scope : Scope) (hid : id < (chain w).world.spans.length)
    (hs : ∀ j, scope.restores = some j → j < (chain w).world.spans.length) :
    (chain w).world.Evolves (runNormal c x id scope chain w).world := by
  have hnote := noteFailure_evolves hw x (chain w).raised
  have hlast := hnote.trans (conclude_evolves hnote.grounded c x.request (chain w).status (some id)
    (fun j hj => by cases hj; exact Nat.lt_of_lt_of_le hid hnote.length_le)
    (failureOf (chain w).raised))
  rw [← finishWith_snd _ (chain w).raised] at hlast
  exact hlast.trans (.close hlast.grounded fun j hj =>
    Nat.lt_of_lt_of_le (hs j hj) hlast.length_le)

theorem runError_evolves (hw : (chain w).world.Grounded) (x : Exchange) (scope : Scope)
    (hid : id < (chain w).world.spans.length)
    (hs : ∀ j, scope.restores = some j → j < (chain w).world.spans.length) :
    (chain w).world.Evolves (runError x id scope chain w).world := by
  have hlast := concludeError_evolves hw x.request (chain w).status hid
  rw [← finishWith_snd _ (chain w).raised] at hlast
  exact hlast.trans (.close hlast.grounded fun j hj =>
    Nat.lt_of_lt_of_le (hs j hj) hlast.length_le)

theorem first_evolves (hw : w.Grounded) (hn : n ≤ w.spans.length) (hchain : Pass.Evolves n chain)
    (c : String) (x : Exchange) : w.Evolves (first c x chain w).world := by
  have harrive := noteArrival_evolves hw x
  have hstart := startSpan_evolves harrive.grounded (w.coordinator c).stem x
  rcases hrun : (startSpan (w.coordinator c).stem x).runIn (noteArrival x w) with ⟨e | id, v⟩
  · rw [hrun] at hstart
    rw [first_failed c x chain hrun]
    have hnote := noteFailure_evolves hstart.grounded x (some e)
    have hlast := conclude_evolves hnote.grounded c x.request x.status none (fun _ h => by cases h)
      (failureOf (some e))
    rw [← finishWith_snd _ (some e)] at hlast
    exact harrive.trans (hstart.trans (hnote.trans hlast))
  · rw [hrun] at hstart
    rw [first_started c x chain hrun]
    have hid := (startSpan_follows harrive.grounded.sound _ x).2 id v hrun
    have hactive := Evolves.activate hstart.grounded hid
    have hdone := hchain _ hactive.grounded
      (Nat.le_trans hn (harrive.trans (hstart.trans hactive)).length_le)
    have hlength := (hactive.trans hdone).length_le
    have hlast := runNormal_evolves hdone.grounded c x (v.activate id).1
      (Nat.lt_of_lt_of_le hid hlength)
      fun j hj => Nat.lt_of_lt_of_le (hstart.grounded.current j hj) hlength
    exact harrive.trans (hstart.trans (hactive.trans (hdone.trans hlast)))

theorem recalled_evolves (hw : w.Grounded) (x : Exchange) (hid : id < w.spans.length) :
    w.Evolves (recalled x w id) := by
  have hmark : w.Evolves (w.modifyAttributes x.request (·.markSpanContinued)) := by
    refine .modifyAttributes hw _ _ (World.admits_of_eq ?_)
    exact (w.attributes x.request).markSpanContinued_activeSpan
  exact hmark.trans (.log hmark.grounded logger (.whole _ (context_mem hid) rfl rfl))

/-- No span but the one that a pass goes on with is current when its chain starts, not even where
that one is not. -/
theorem noteArrival_currentContext {c : SpanContext}
    (h : (noteArrival x (w.activate id).2).currentContext = some c) :
    c = ((noteArrival x (w.activate id).2).span id).context := by
  have hspan : (noteArrival x (w.activate id).2).span id = w.span id := by
    unfold noteArrival log World.span
    rw [World.log_spans]
    rfl
  rw [hspan]
  unfold noteArrival log currentContext at h
  rw [World.log_current] at h
  obtain ⟨j, hj, rfl⟩ := Option.map_eq_some_iff.mp h
  have hanchor : w.anchor id = some j := hj
  unfold anchor at hanchor
  split at hanchor
  · cases hanchor
    exact congrArg Span.context hspan
  · cases hanchor

/-- A span that is reused is logged with its trace id alone, and is current then. -/
theorem resumed_evolves (hw : w.Grounded) (x : Exchange) (hid : id < w.spans.length) :
    w.Evolves (resumed x w id) := by
  have hrecall := recalled_evolves hw x hid
  have hidr := Nat.lt_of_lt_of_le hid hrecall.length_le
  have hactive := hrecall.trans (.activate hrecall.grounded hidr)
  have harrive := hactive.trans (noteArrival_evolves hactive.grounded x)
  have hmem := context_mem (Nat.lt_of_lt_of_le hid harrive.length_le)
  unfold resumed
  dsimp only
  split
  · exact harrive.trans (.log harrive.grounded logger
      (.traced _ hmem (fun _ hc => noteArrival_currentContext hc) rfl rfl))
  · exact harrive.trans (.log harrive.grounded logger (.whole _ hmem rfl rfl))

theorem continued_evolves (hw : w.Grounded) (hn : n ≤ w.spans.length)
    (hchain : Pass.Evolves n chain) (c : String) (x : Exchange) (hid : id < w.spans.length) :
    w.Evolves (continued c x id chain w).world := by
  have hrecall := recalled_evolves hw x hid
  have hresume := resumed_evolves hw x hid
  have hdone := hchain _ hresume.grounded (Nat.le_trans hn hresume.length_le)
  have hlength := (hresume.trans hdone).length_le
  have hid' := Nat.lt_of_lt_of_le hid hlength
  have hscope : ∀ j, ((recalled x w id).activate id).1.restores = some j →
      j < (chain (resumed x w id)).world.spans.length := by
    intro j hj
    have hspans : (recalled x w id).spans = w.spans := World.log_spans _ logger _
    have hlt := hrecall.grounded.current j hj
    rw [hspans] at hlt
    exact Nat.lt_of_lt_of_le hlt hlength
  rw [continued_eq]
  split
  · exact hresume.trans (hdone.trans (runNormal_evolves hdone.grounded c x _ hid' hscope))
  · exact hresume.trans (hdone.trans (runError_evolves hdone.grounded x _ hid' hscope))

end Pass

theorem Exchange.handle_evolves {ρ : Type} {n : Nat} {chain : Chain ρ} {w : World}
    (hw : w.Grounded) (hn : n ≤ w.spans.length) (hchain : Pass.Evolves n chain) (x : Exchange)
    (c : String) : w.Evolves (x.handle c chain w).world := by
  have hopen := Evolves.openRequest hw x.request
  unfold handle
  dsimp only
  split
  · exact hopen.trans (Pass.first_evolves hopen.grounded hn hchain c x)
  · next id ha =>
    have hid := hopen.grounded.sound x.request id (Attribute.of_present? ha)
    exact hopen.trans (Pass.continued_evolves hopen.grounded hn hchain c x hid)
  · refine hopen.trans (.modifyAttributes hopen.grounded _ _ (World.admits_of_eq ?_))
    exact Attributes.markSpanContinued_activeSpan _

/-! ## Continuations -/

namespace Continuation

variable {w : World} {label : String}

theorem takeSpan_evolves (hw : w.Grounded) (label : String) :
    w.Evolves ((takeSpan label).runIn w).2 := by
  cases h : w.continuations.get? label with
  | none =>
    rw [takeSpan_missing h]
    exact .refl hw
  | some k =>
    cases hk : k.done with
    | true =>
      rw [takeSpan_done h hk]
      exact .log hw Pass.logger (.silent rfl rfl)
    | false =>
      have hspent : w.Evolves (spent label k w) :=
        .aside (hw.aside hw.sound (Nat.le_refl _) rfl rfl) rfl rfl rfl rfl rfl rfl
      cases ha : Attribute.present? (w.attributes k.request).activeSpan with
      | none =>
        rw [takeSpan_bare h hk ha]
        exact hspent.trans (.log hspent.grounded Pass.logger (.silent rfl rfl))
      | some a =>
        rw [takeSpan_taken h hk ha]
        refine hspent.trans (.modifyAttributes hspent.grounded _ _ fun id hid => ?_)
        simp [taken] at hid

theorem complete_evolves (hw : w.Grounded) (label : String) (status : Int)
    (failure : Option Fault) : w.Evolves ((complete label status failure).runIn w).2 := by
  unfold complete
  refine (takeSpan_evolves hw label).bind fun x v hx hv => ?_
  rcases x with _ | ⟨r, a⟩
  · exact .refl hv.grounded
  · cases a with
    | span id =>
      have hid := (takeSpan_follows hw.sound label).2 r id v hx
      rw [Act.runIn_bind, Act.runIn_get]
      simp only [Act.runIn_when]
      have htag : v.Evolves (if failure.isNone && (v.attributes r).isSpanWithoutParent &&
          100 ≤ status then v.modifySpan id (·.tag httpStatusCode (toString status)) else v) :=
        .ite hv.grounded fun _ => .modifySpan hv.grounded id rfl
      refine htag.trans ?_
      have hidt := Nat.lt_of_lt_of_le hid htag.length_le
      refine (Tracer.finalize_evolves htag.grounded status _ hidt).bind fun b u _ hu => ?_
      rw [Act.runIn_when, Act.runIn_pure]
      exact .ite hu.grounded fun _ =>
        .modifyAttributes hu.grounded _ _ (World.admits_of_eq (by simp))
    | _ =>
      simp only [Act.runIn_bind, Act.runIn_get]
      split
      · exact .refl hv.grounded
      · exact (Tracer.failIfTold_evolves hv.grounded .finalize).bind fun _ _ _ hu =>
          .refl hu.grounded

theorem abandon_evolves (hw : w.Grounded) (label : String) :
    w.Evolves ((abandon label).runIn w).2 := by
  unfold abandon
  refine (takeSpan_evolves hw label).bind fun x v hx hv => ?_
  rcases x with _ | ⟨r, a⟩
  · exact .refl hv.grounded
  · cases a with
    | span id =>
      exact Tracer.abandon_evolves hv.grounded ((takeSpan_follows hw.sound label).2 r id v hx)
    | _ =>
      exact (Tracer.failIfTold_evolves hv.grounded .abandon).bind fun _ _ _ hu => .refl hu.grounded

theorem start_evolves (hw : w.Grounded) (label : String) (r : RequestName) :
    w.Evolves (start label r (w.openRequest r)) := by
  have hopen := Evolves.openRequest hw r
  have hflag := hopen.trans (.modifyAttributes hopen.grounded r (·.raiseFlag .asyncStarted)
    (World.admits_of_eq (by simp)))
  exact hflag.trans (.aside (hflag.grounded.aside hflag.grounded.sound (Nat.le_refl _) rfl rfl)
    rfl rfl rfl rfl rfl rfl)

end Continuation

/-! ## Programs -/

/-- A call on the bookkeeping stores no span that does not exist. -/
theorem World.Evolves.store {w : World} (hw : w.Grounded) {q : Option RequestName}
    {call : StoreCall} (h : w.missing? (.store q call) = none) (r : RequestName) :
    w.Evolves (w.store r call).2 := by
  have hopen := Evolves.openRequest hw r
  exact hopen.trans (.modifyAttributes hopen.grounded r (fun m => (call.run m).2)
    (World.store_admits h _))

namespace Action

variable {w : World}

/-- An operation whose answer is made into the answer of an action. -/
theorem evolves_map {α : Type} {a : Act α} (h : w.Evolves (a.runIn w).2) (f : α → Answer) :
    w.Evolves ((do return f (← a) : Act Answer).runIn w).2 :=
  h.bind fun _ _ _ hv => .refl hv.grounded

/-- A span that is made current by hand can be made uncurrent again later. -/
theorem activate_evolves (hw : w.Grounded) {id : SpanId} (hid : id < w.spans.length)
    (label : String) (r : RequestName) :
    w.Evolves (((Action.activate id label).perform r).runIn w).2 := by
  refine .aside ⟨hw.sound, anchor_lt hid, fun l s hs => ?_⟩ rfl rfl rfl rfl rfl rfl
  have hget : Mapping.get? (Mapping.set w.scopes label { restores := w.current }) l = some s := hs
  rw [Mapping.get?_set] at hget
  split at hget
  · cases hget
    exact hw.current
  · exact hw.scopes l s hget

theorem close_evolves (hw : w.Grounded) (label : String) (r : RequestName) :
    w.Evolves (((Action.close label).perform r).runIn w).2 := by
  unfold perform
  simp only [Act.runIn_bind, Act.runIn_modify, Act.runIn_pure]
  split
  · exact .refl hw
  · next scope hscope =>
    have hclose := Evolves.close hw (hw.scopes label scope hscope)
    refine hclose.trans (.aside ⟨hclose.grounded.sound, hclose.grounded.current, fun l s hs => ?_⟩
      rfl rfl rfl rfl rfl rfl)
    have hget : Mapping.get? (Mapping.set (w.close scope).scopes label { scope with closed := true })
        l = some s := hs
    rw [Mapping.get?_set] at hget
    split at hget
    · cases hget
      exact fun j hj => Nat.lt_of_lt_of_le (hw.scopes label scope hscope j hj) hclose.length_le
    · exact hclose.grounded.scopes l s hget

theorem perform_evolves (hw : w.Grounded) (r : RequestName) (a : Action) (h : w.missing? a = none) :
    w.Evolves ((a.perform r).runIn w).2 := by
  cases a with
  | store request call => exact .store hw h _
  | startAsync label request => exact Continuation.start_evolves hw label _
  | complete label code failure =>
    exact evolves_map (Continuation.complete_evolves hw label code failure) _
  | abandonAsync label => exact evolves_map (Continuation.abandon_evolves hw label) _
  | start headers name method path =>
    exact (Tracer.start_evolves hw headers name method path).bind fun id v _ hv =>
      .refl hv.grounded
  | activate id label => exact activate_evolves hw (lt_of_missing? h) label r
  | close label => exact close_evolves hw label r
  | attach id => exact .activate hw (lt_of_missing? h)
  | finalize id code failure =>
    exact evolves_map (Tracer.finalize_evolves hw code _ (lt_of_missing? h)) _
  | abandon id => exact evolves_map (Tracer.abandon_evolves hw (lt_of_missing? h)) _
  | tag id key value => exact .modifySpan hw id rfl
  | hasErrorHandler c => exact evolves_map (Pass.hasErrorHandler_evolves hw c) _
  | setFailures f =>
    exact .aside (hw.aside hw.sound (Nat.le_refl _) rfl rfl) rfl rfl rfl rfl rfl rfl
  | _ => exact .refl hw

theorem performAt_evolves (hw : w.Grounded) (r : RequestName) (status : Int) (a : Action)
    (h : w.missing? a = none) : w.Evolves (a.performAt r status w).world := by
  have hperform := perform_evolves hw r a h
  unfold performAt
  generalize (a.perform r).runIn w = out at hperform
  rcases out with ⟨e | answer, v⟩ <;> exact hperform

end Action

mutual

theorem runAction_evolves (r : RequestName) (status : Int) (a : Action) {w : World}
    (hw : w.Grounded) : w.Evolves (runAction r status a w).world := by
  cases a with
  | handle x c raiseOn chain =>
    rw [runAction]
    exact Exchange.handle_evolves hw (Nat.zero_le _)
      (fun v hv _ => runActions_evolves x.request x.status chain hv) x c
  | status code => rw [runAction]; exact .refl hw
  | attempt body => rw [runAction]; exact runActions_evolves r status body hw
  | during id body =>
    rw [runAction]
    split
    · exact .refl hw
    · next h =>
      have hactive := Evolves.activate hw (Action.lt_of_missing? h)
      have hbody := hactive.trans (runActions_evolves r status body hactive.grounded)
      exact hbody.trans (.close (s := (w.activate id).1) hbody.grounded fun j hj =>
        Nat.lt_of_lt_of_le (hw.current j hj) hbody.length_le)
  | _ =>
    unfold runAction
    split
    · exact .refl hw
    · next h => exact Action.performAt_evolves hw r status _ h

theorem runActions_evolves (r : RequestName) (status : Int) (actions : List Action) {w : World}
    (hw : w.Grounded) : w.Evolves (runActions r status actions w).world := by
  cases actions with
  | nil => rw [runActions]; exact .refl hw
  | cons a rest =>
    have hstep := runAction_evolves r status a hw
    rw [runActions]
    dsimp only
    split
    · exact hstep
    · exact hstep.trans (runActions_evolves r _ rest hstep.grounded)

end

end SpanLifecycle
