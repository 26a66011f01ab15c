import SpanLifecycle.Proofs.Continuation
import SpanLifecycle.Proofs.Opening
import SpanLifecycle.Proofs.Step

/-!
# Programs are runs

Every part of a pass and of a continuation follows, and so does the pass over an exchange if its
chain does.  `runActions_follows` is the induction over programs: whatever a program nests, and
wherever in it an exception is raised, from a sound world it is a run to a sound world.
-/

namespace SpanLifecycle

namespace Follows

variable {w : World}

theorem activate (hw : w.Sound) (id : SpanId) : Follows w (w.activate id).2 :=
  aside hw rfl rfl rfl rfl rfl

theorem close (hw : w.Sound) (s : Scope) : Follows w (w.close s) := by
  unfold World.close
  split
  · exact refl hw
  · exact aside hw rfl rfl rfl rfl rfl

theorem markSpanContinued (hw : w.Sound) (r : RequestName) :
    Follows w (w.modifyAttributes r (·.markSpanContinued)) := by
  refine modifyAttributes hw r _ (World.admits_of_eq ?_)
  unfold Attributes.markSpanContinued
  split
  · simp
  · rfl

end Follows

/-! ## Continuations -/

namespace Continuation

theorem start_follows {w : World} (hw : w.Sound) (label : String) (r : RequestName) :
    Follows w (start label r w) := by
  have h := Follows.modifyAttributes hw r (·.raiseFlag .asyncStarted)
    (World.admits_of_eq (by simp))
  exact h.trans (.aside h.sound rfl rfl rfl rfl rfl)

theorem spent_follows {w : World} (hw : w.Sound) (label : String) (k : Continuation) :
    Follows w (spent label k w) := .aside hw rfl rfl rfl rfl rfl

/-- A span that is taken was started. -/
theorem takeSpan_follows {w : World} (hw : w.Sound) (label : String) :
    Follows w ((takeSpan label).runIn w).2 ∧
      ∀ r id v, (takeSpan label).runIn w = (.ok (some (r, .span id)), v) → id < v.spans.length := by
  cases h : w.continuations.get? label with
  | none =>
    rw [takeSpan_missing h]
    exact ⟨.refl hw, fun _ _ _ hv => by cases hv⟩
  | some k =>
    cases hk : k.done with
    | true =>
      rw [takeSpan_done h hk]
      exact ⟨.log hw _ _, fun _ _ _ hv => by cases hv⟩
    | false =>
      have hs := spent_follows hw label k
      cases ha : Attribute.present? (w.attributes k.request).activeSpan with
      | none =>
        rw [takeSpan_bare h hk ha]
        exact ⟨hs.trans (.log hs.sound _ _), fun _ _ _ hv => by cases hv⟩
      | some a =>
        rw [takeSpan_taken h hk ha]
        refine ⟨hs.trans (.modifyAttributes hs.sound _ _ fun id hid => ?_), ?_⟩
        · simp [taken] at hid
        · intro r id v hv
          cases hv
          exact hw k.request id (Attribute.of_present? ha)

theorem complete_follows {w : World} (hw : w.Sound) (label : String) (status : Int)
    (failure : Option Fault) : Follows w ((complete label status failure).runIn w).2 := by
  obtain ⟨h, hid⟩ := takeSpan_follows hw label
  unfold complete
  refine h.bind fun x v hx hv => ?_
  rcases x with _ | ⟨r, a⟩
  · exact .refl hv.sound
  · cases a with
    | span id =>
      have hid := hid r id v hx
      rw [Act.runIn_bind, Act.runIn_get]
      simp only [Act.runIn_when]
      have htag : Follows v (if failure.isNone && (v.attributes r).isSpanWithoutParent &&
          100 ≤ status then v.modifySpan id (·.tag httpStatusCode (toString status)) else v) :=
        .ite hv.sound fun _ => .tag hv.sound hid _ _
      refine htag.trans ?_
      have hl := Nat.lt_of_lt_of_le hid htag.run.length_le
      refine (Tracer.finalize_follows status _ htag.sound hl).bind fun b u _ hu => ?_
      rw [Act.runIn_when, Act.runIn_pure]
      exact .ite hu.sound fun _ => .modifyAttributes hu.sound _ _ (World.admits_of_eq (by simp))
    | _ =>
      simp only [Act.runIn_bind, Act.runIn_get]
      split
      · exact .refl hv.sound
      · exact (Tracer.failIfTold_follows hv.sound .finalize).bind fun _ _ _ hu => .refl hu.sound

theorem abandon_follows {w : World} (hw : w.Sound) (label : String) :
    Follows w ((abandon label).runIn w).2 := by
  obtain ⟨h, hid⟩ := takeSpan_follows hw label
  unfold abandon
  refine h.bind fun x v hx hv => ?_
  rcases x with _ | ⟨r, a⟩
  · exact .refl hv.sound
  · cases a with
    | span id => exact Tracer.abandon_follows hv.sound (hid r id v hx)
    | _ =>
      exact (Tracer.failIfTold_follows hv.sound .abandon).bind fun _ _ _ hu => .refl hu.sound

end Continuation

/-! ## Passes -/

namespace Pass

theorem hasErrorHandler_follows {w : World} (hw : w.Sound) (c : String) :
    Follows w ((hasErrorHandler c).runIn w).2 := by
  obtain ⟨w', h, -, hb⟩ := hasErrorHandler_answer c w
  rw [h]
  exact .of_quiet hw (hb outerRequest 0) (World.admits_of_eq rfl)

theorem marked_follows {w : World} (hw : w.Sound) (d : Decision) (r : RequestName) (status : Int)
    {id : SpanId} (hid : id < w.spans.length) : Follows w (marked d r status id w) := by
  have htag : Follows w (if d.tagStatus && (w.span id).state != .finalized then
      w.modifySpan id (·.tag httpStatusCode (toString status)) else w) :=
    .ite hw fun _ => .tag hw hid _ _
  refine htag.trans (.ite htag.sound fun _ => .modifyAttributes htag.sound _ _ ?_)
  intro j hj
  simp at hj

theorem carryOut_follows {w : World} (hw : w.Sound) (v : Verdict) (r : RequestName)
    (status : Int) {id : SpanId} (hid : id < w.spans.length) (failure : Option Fault) :
    Follows w ((carryOut v r status id failure).runIn w).2 := by
  unfold carryOut
  cases v with
  | defer => exact .refl hw
  | abandon =>
    refine (Tracer.abandon_follows hw hid).bind (f := fun _ => pure ()) fun _ _ _ hv => ?_
    exact .refl hv.sound
  | finalize =>
    refine (Tracer.finalize_follows status _ hw hid).bind fun b u _ hu => ?_
    split
    · have h := Follows.modifyAttributes hu.sound r (·.raiseFlag .alreadyFinalized)
        (World.admits_of_eq (by simp))
      refine .bind h fun _ v hv _ => ?_
      cases hv
      split
      · exact .modifyAttributes h.sound r (fun m => m.takePendingException.2)
          (World.admits_of_eq (by simp))
      · exact .refl h.sound
    · exact .refl hu.sound

theorem settle_follows {w : World} (hw : w.Sound) (c : String) (r : RequestName) (status : Int)
    {id : SpanId} (hid : id < w.spans.length) (failure : Option Fault) :
    Follows w ((settle c r status id failure).runIn w).2 := by
  unfold settle
  refine (hasErrorHandler_follows hw c).bind fun b v _ hv => ?_
  refine .bind (.refl hv.sound) fun x u hx _ => ?_
  cases hx
  refine .bind (.log hv.sound _ _) fun _ u hx hu => ?_
  rw [applyDecision_runIn]
  have hl := Nat.lt_of_lt_of_le hid (hv.trans hu).run.length_le
  have hm := marked_follows hu.sound
    (outcome v r status id failure b).decide r status hl
  exact hm.trans (carryOut_follows hm.sound _ r status
    (Nat.lt_of_lt_of_le hl hm.run.length_le) failure)

theorem conclude_follows {w : World} (hw : w.Sound) (c : String) (r : RequestName) (status : Int)
    (id : Option SpanId) (hid : ∀ j, id = some j → j < w.spans.length)
    (failure : Option Fault) : Follows w ((conclude c r status id failure).runIn w).2 := by
  unfold conclude
  refine .bind (.refl hw) fun x v hx _ => ?_
  cases hx
  split
  · exact .log hw _ _
  · cases id with
    | none => exact .refl hw
    | some j => exact settle_follows hw c r status (hid j rfl) failure

theorem concludeError_follows {w : World} (hw : w.Sound) (r : RequestName) (status : Int)
    {id : SpanId} (hid : id < w.spans.length) :
    Follows w ((concludeError r status id).runIn w).2 := by
  have hmark := Follows.modifyAttributes hw r (·.markErrorHandled) (World.admits_of_eq (by simp))
  unfold concludeError
  refine .bind hmark fun _ v hv _ => ?_
  cases hv
  refine .bind (.refl hmark.sound) fun x v hx _ => ?_
  cases hx
  dsimp only
  split
  · exact .log hmark.sound _ _
  · split
    · have htake := Follows.modifyAttributes hmark.sound r (fun m => m.takePendingException.2)
        (World.admits_of_eq (by simp))
      refine .bind htake fun _ v hv _ => ?_
      cases hv
      have hl := Nat.lt_of_lt_of_le hid (hmark.trans htake).run.length_le
      refine (Tracer.finalize_follows status _ htake.sound hl).bind fun b u _ hu => ?_
      split
      · exact .modifyAttributes hu.sound r (·.raiseFlag .alreadyFinalized)
          (World.admits_of_eq (by simp))
      · exact .refl hu.sound
    · exact .refl hmark.sound

theorem noteFailure_follows {w : World} (hw : w.Sound) (x : Exchange) (raised : Option Fault) :
    Follows w (noteFailure x raised w) := by
  unfold noteFailure
  split
  · next e =>
    split
    · have h := Follows.log hw logger
        { severity := .error, event := "uncaught_exception"
          fields := [("path", .text x.path)], fault := some e }
      exact h.trans (.modifyAttributes h.sound _ (·.setPendingException (.fault e))
        (World.admits_of_eq (by simp)))
    · exact .refl hw
  · exact .refl hw

theorem finishWith_follows {w : World} {last : Act Unit} (h : Follows w (last.runIn w).2)
    (raised : Option Fault) : Follows w (finishWith last raised w).2 := by
  rw [finishWith_snd]
  exact h

theorem startSpan_follows {w : World} (hw : w.Sound) (stem : String) (x : Exchange) :
    Follows w ((startSpan stem x).runIn w).2 ∧
      ∀ id v, (startSpan stem x).runIn w = (.ok id, v) → id < v.spans.length := by
  cases hf : w.failures.of? .create with
  | some e =>
    rw [startSpan_failed hf]
    exact ⟨.failed hw _, fun _ _ hv => by cases hv⟩
  | none =>
    obtain ⟨v, hv, h⟩ := startSpan_ok hf stem x
    obtain ⟨s, hspans, -⟩ := hv.spans
    have hlt : w.spans.length < v.spans.length := by
      rw [hspans, List.length_append]
      exact Nat.lt_succ_self _
    have hstart := hv.follows hw
    have hactive := Follows.modifyAttributes hstart.sound x.request
      (·.setActiveSpan (.span w.spans.length)) (fun j hj => by
        simp at hj
        exact .inr (hj ▸ hlt))
    have htracked : Follows v (tracked x w.spans.length v) :=
      hactive.trans (.ite hactive.sound fun _ => .modifyAttributes hactive.sound _
        (·.raiseFlag .spanWithoutParent) (World.admits_of_eq (by simp)))
    rw [h]
    refine ⟨hstart.trans htracked, fun id u hu => ?_⟩
    cases hu
    exact Nat.lt_of_lt_of_le hlt htracked.run.length_le

/-! ## Exchanges -/

/-- A chain that follows from every sound world. -/
def IsRun {ρ : Type} (chain : Chain ρ) : Prop := ∀ w : World, w.Sound → Follows w (chain w).world

variable {ρ : Type} {chain : Chain ρ}

theorem runNormal_after {w : World} (hw : (chain w).world.Sound) (c : String) (x : Exchange)
    {id : SpanId} (hid : id < (chain w).world.spans.length) (scope : Scope) :
    Follows (chain w).world (runNormal c x id scope chain w).world := by
  have hn := noteFailure_follows hw x (chain w).raised
  have hl := Nat.lt_of_lt_of_le hid hn.run.length_le
  have hf := finishWith_follows
    (conclude_follows hn.sound c x.request (chain w).status (some id)
      (fun j hj => by cases hj; exact hl) (failureOf (chain w).raised)) (chain w).raised
  exact hn.trans (hf.trans (.close hf.sound scope))

theorem runError_after {w : World} (hw : (chain w).world.Sound) (x : Exchange) {id : SpanId}
    (hid : id < (chain w).world.spans.length) (scope : Scope) :
    Follows (chain w).world (runError x id scope chain w).world := by
  have hf := finishWith_follows
    (concludeError_follows hw x.request (chain w).status hid) (chain w).raised
  exact hf.trans (.close hf.sound scope)

theorem resumed_follows {w : World} (hw : w.Sound) (x : Exchange) (id : SpanId) :
    Follows w (resumed x w id) := by
  have hmark := Follows.markSpanContinued hw x.request
  have hrecall : Follows w (recalled x w id) := hmark.trans (.log hmark.sound _ _)
  have hactive := hrecall.trans (.activate hrecall.sound id)
  have harrive : Follows w (noteArrival x ((recalled x w id).activate id).2) :=
    hactive.trans (.log hactive.sound _ _)
  unfold resumed
  dsimp only
  split
  · exact harrive.trans (.log harrive.sound _ _)
  · exact harrive.trans (.log harrive.sound _ _)

end Pass

namespace Exchange

variable {ρ : Type} {chain : Chain ρ} {w v : World}

open Pass

theorem chainStart?_follows (hw : w.Sound) (x : Exchange) (c : String)
    (h : x.chainStart? c w = some v) : Follows w v := by
  have hopen := Follows.openRequest hw x.request
  unfold chainStart? at h
  dsimp only at h
  split at h
  · have harrive : Follows w (noteArrival x (w.openRequest x.request)) :=
      hopen.trans (.log hopen.sound _ _)
    have hstart := (startSpan_follows harrive.sound
      ((w.openRequest x.request).coordinator c).stem x).1
    split at h
    · next id u hu =>
      cases h
      rw [hu] at hstart
      exact (harrive.trans hstart).trans (.activate hstart.sound id)
    · cases h
  · cases h
    exact hopen.trans (resumed_follows hopen.sound x _)
  · cases h

/-- An exchange whose chain does not start leaves all spans alone. -/
theorem refused_follows (hw : w.Sound) {x : Exchange} {c : String} (h : x.chainStart? c w = none)
    (chain : Chain ρ) : Follows w (x.handle c chain w).world := by
  obtain ⟨m, calls, hb, hcalls, hactive, -⟩ := handle_refused h chain
  refine .of_becomes hw (hb 0) (World.admits_of_eq hactive) fun call hc => ?_
  rcases hcalls with rfl | rfl
  · exact absurd hc List.not_mem_nil
  · rw [List.mem_singleton.mp hc]
    exact ⟨rfl, rfl⟩

/-- The span of a pass has been started. -/
theorem spanIn_lt {x : Exchange} {c : String} (h : x.chainStart? c w = some v) (hw : w.Sound) :
    x.spanIn w < v.spans.length := by
  unfold spanIn
  cases ha : Attribute.present? (w.attributes x.request).activeSpan with
  | none =>
    rw [(chainStart?_begins h ha).length]
    exact Nat.lt_succ_self _
  | some a =>
    obtain ⟨id, rfl⟩ := chainStart?_active h ha
    rw [(chainStart?_resumes h ha 0).length]
    exact hw x.request id (Attribute.of_present? ha)

/-- An exchange whose chain does not start follows by itself, any other one as far as its chain
does. -/
theorem handle_after (hchain : IsRun chain) (hw : w.Sound) (x : Exchange) (c : String) :
    match x.chainStart? c w with
    | none => Follows w (x.handle c chain w).world
    | some v => Follows (chain v).world (x.handle c chain w).world := by
  cases h : x.chainStart? c w with
  | none => exact refused_follows hw h chain
  | some v =>
    have hrun := hchain v (chainStart?_follows hw x c h).sound
    have hid := Nat.lt_of_lt_of_le (spanIn_lt h hw) hrun.run.length_le
    obtain ⟨scope, hhandle⟩ := handle_started h chain
    dsimp only
    rw [hhandle]
    split
    · exact runError_after hrun.sound x hid scope
    · exact runNormal_after hrun.sound c x hid scope

theorem handle_follows (hchain : IsRun chain) (hw : w.Sound) (x : Exchange) (c : String) :
    Follows w (x.handle c chain w).world := by
  have h := handle_after hchain hw x c
  cases hv : x.chainStart? c w with
  | none =>
    rw [hv] at h
    exact h
  | some v =>
    rw [hv] at h
    have hstart := chainStart?_follows hw x c hv
    exact (hstart.trans (hchain v hstart.sound)).trans h

end Exchange

/-! ## Programs -/

namespace Action

/-- A handle on a span that an action asks for exists. -/
theorem lt_of_missing? {w : World} {id : SpanId}
    (h : (if id < w.spans.length then none else some HandleKind.span) = none) :
    id < w.spans.length := by
  split at h
  · assumption
  · cases h

/-- An operation whose answer is made into the answer of an action. -/
theorem follows_map {α : Type} {w : World} {a : Act α} (h : Follows w (a.runIn w).2)
    (f : α → Answer) : Follows w ((do return f (← a) : Act Answer).runIn w).2 :=
  h.bind fun _ _ _ hv => .refl hv.sound

theorem perform_follows {w : World} (hw : w.Sound) (r : RequestName) (a : Action)
    (h : w.missing? a = none) : Follows w ((a.perform r).runIn w).2 := by
  cases a with
  | store request call => exact World.store_follows hw h _
  | startAsync label request =>
    have hopen := Follows.openRequest hw (requestOr r request)
    exact hopen.trans (Continuation.start_follows hopen.sound label _)
  | complete label code failure =>
    exact follows_map (Continuation.complete_follows hw label code failure) _
  | abandonAsync label => exact follows_map (Continuation.abandon_follows hw label) _
  | start headers name method path =>
    exact (Tracer.start_follows headers name method path hw).bind fun id v _ hv =>
      .refl hv.sound
  | activate id label => exact .aside hw rfl rfl rfl rfl rfl
  | close label =>
    unfold perform
    simp only [Act.runIn_bind, Act.runIn_modify, Act.runIn_pure]
    split
    · exact .refl hw
    · next scope _ =>
      have hclose := Follows.close hw scope
      exact hclose.trans (.aside hclose.sound rfl rfl rfl rfl rfl)
  | attach id => exact .activate hw id
  | finalize id code failure =>
    exact follows_map (Tracer.finalize_follows code _ hw (lt_of_missing? h)) _
  | abandon id => exact follows_map (Tracer.abandon_follows hw (lt_of_missing? h)) _
  | tag id key value => exact .tag hw (lt_of_missing? h) key value
  | hasErrorHandler c => exact follows_map (Pass.hasErrorHandler_follows hw c) _
  | setFailures f => exact .aside hw rfl rfl rfl rfl rfl
  | _ => exact .refl hw

theorem performAt_follows {w : World} (hw : w.Sound) (r : RequestName) (status : Int) (a : Action)
    (h : w.missing? a = none) : Follows w (a.performAt r status w).world := by
  have hf := perform_follows hw r a h
  unfold performAt
  generalize (a.perform r).runIn w = out at hf
  rcases out with ⟨e | answer, v⟩ <;> exact hf

end Action

mutual

theorem runAction_follows (r : RequestName) (status : Int) (a : Action) {w : World}
    (hw : w.Sound) : Follows w (runAction r status a w).world := by
  cases a with
  | handle x c raiseOn chain =>
    rw [runAction]
    exact Exchange.handle_follows
      (fun v hv => runActions_follows x.request x.status chain hv) hw x c
  | status code => rw [runAction]; exact .refl hw
  | attempt body => rw [runAction]; exact runActions_follows r status body hw
  | during id body =>
    rw [runAction]
    split
    · exact .refl hw
    · have hactive := Follows.activate hw id
      have hbody := runActions_follows r status body hactive.sound
      exact (hactive.trans hbody).trans (.close hbody.sound (w.activate id).1)
  | _ =>
    unfold runAction
    split
    · exact .refl hw
    · next h => exact Action.performAt_follows hw r status _ h

theorem runActions_follows (r : RequestName) (status : Int) (actions : List Action) {w : World}
    (hw : w.Sound) : Follows w (runActions r status actions w).world := by
  cases actions with
  | nil => rw [runActions]; exact .refl hw
  | cons a rest =>
    have hstep := runAction_follows r status a hw
    rw [runActions]
    dsimp only
    split
    · exact hstep
    · exact hstep.trans (runActions_follows r _ rest hstep.sound)

end

/-! ## Moments -/

/-- A world that a program passes through: where it starts or ends, or before any action of it, of
the chain of an exchange that it handles, or of a body that it runs. -/
inductive Moment :
    RequestName → Int → List Action → World → World → Prop where
  | start {r status actions w} : Moment r status actions w w
  | finish {r status actions w} :
      Moment r status actions w (runActions r status actions w).world
  | later {r status a rest w u} (h : (runAction r status a w).raised = none)
      (m : Moment r (runAction r status a w).status rest (runAction r status a w).world u) :
      Moment r status (a :: rest) w u
  | inChain {r status x c raiseOn chain rest w v u} (h : Exchange.chainStart? x c w = some v)
      (m : Moment x.request x.status chain v u) :
      Moment r status (.handle x c raiseOn chain :: rest) w u
  | inAttempt {r status body rest w u} (m : Moment r status body w u) :
      Moment r status (.attempt body :: rest) w u
  | during {r status id body rest w u} (hid : id < w.spans.length)
      (m : Moment r status body (w.activate id).2 u) :
      Moment r status (.during id body :: rest) w u

/-- What comes after the first action of a program. -/
theorem rest_follows (r : RequestName) (status : Int) (a : Action) (rest : List Action)
    {w : World} (hw : (runAction r status a w).world.Sound) :
    Follows (runAction r status a w).world (runActions r status (a :: rest) w).world := by
  rw [runActions]
  dsimp only
  split
  · exact .refl hw
  · exact runActions_follows r _ rest hw

/-- A moment of a program is on the way from its start to its end. -/
theorem Moment.follows {r : RequestName} {status : Int} {actions : List Action} {w u : World}
    (m : Moment r status actions w u) (hw : w.Sound) :
    Follows w u ∧ Follows u (runActions r status actions w).world := by
  induction m with
  | @start r status actions w => exact ⟨.refl hw, runActions_follows r status actions hw⟩
  | @finish r status actions w =>
    have h := runActions_follows r status actions hw
    exact ⟨h, .refl h.sound⟩
  | @later r status a rest w u h m ih =>
    have hstep := runAction_follows r status a hw
    obtain ⟨hbefore, hafter⟩ := ih hstep.sound
    refine ⟨hstep.trans hbefore, ?_⟩
    rw [runActions]
    simp only [h]
    exact hafter
  | @inChain r status x c raiseOn chain rest w v u h m ih =>
    have hstart := Exchange.chainStart?_follows hw x c h
    obtain ⟨hbefore, hafter⟩ := ih hstart.sound
    have hchain : Pass.IsRun fun w => runActions x.request x.status chain w :=
      fun v hv => runActions_follows x.request x.status chain hv
    have hhandle := Exchange.handle_after hchain hw x c
    rw [h] at hhandle
    have hrest := rest_follows r status (.handle x c raiseOn chain) rest
      (runAction_follows r status (.handle x c raiseOn chain) hw).sound
    rw [runAction] at hrest
    exact ⟨hstart.trans hbefore, (hafter.trans hhandle).trans hrest⟩
  | @inAttempt r status body rest w u m ih =>
    obtain ⟨hbefore, hafter⟩ := ih hw
    have hrest := rest_follows r status (.attempt body) rest
      (runAction_follows r status (.attempt body) hw).sound
    rw [runAction] at hrest
    exact ⟨hbefore, hafter.trans hrest⟩
  | @during r status id body rest w u hid m ih =>
    have hactive := Follows.activate hw id
    obtain ⟨hbefore, hafter⟩ := ih hactive.sound
    have hrest := rest_follows r status (.during id body) rest
      (runAction_follows r status (.during id body) hw).sound
    have hmissing : w.missing? (.during id body) = none := if_pos hid
    rw [runAction, hmissing] at hrest
    have hclose := Follows.close hafter.sound (w.activate id).1
    exact ⟨hactive.trans hbefore, (hafter.trans hclose).trans hrest⟩

end SpanLifecycle
