import SpanLifecycle.Proofs.Local
import SpanLifecycle.Proofs.Continuation

/-!
# Endpoints that keep to their own request

An endpoint that is a list of steps is local if it uses only continuations that it has started
itself, and stores no span but the one that tracing has stored (`ofSteps_isLocal`).  Everything else
that a step can do is about its own request anyway.
-/

namespace SpanLifecycle

/-! ## Calls on the bookkeeping -/

/-- A call that stores a span of the caller's choice. -/
def StoreCall.bringsSpan : StoreCall → Bool
  | setActiveSpan (.span _) | setPendingException (.span _) | setRaw _ (.span _) => true
  | _ => false

/-- The reply of the bookkeeping in the crowded world. -/
def StoreReply.shift (n : Nat) (reply : StoreReply) : StoreReply :=
  match reply with
  | nothing => .nothing
  | flag b => .flag b
  | .attribute a => .attribute (a.map (·.shift n))
  | attributes m => .attributes (m.shift n)

theorem StoreCall.run_shift {call : StoreCall} (h : call.bringsSpan = false) (n : Nat)
    (m : Attributes) :
    call.run (m.shift n) = ((call.run m).1.shift n, Attributes.shift n (call.run m).2) := by
  have hset : ∀ {a : Attribute} (key : String), a.shift n = a →
      Mapping.set (m.shift n) key a = Attributes.shift n (m.set key a) := by
    intro a key ha
    rw [Attributes.shift_set, ha]
  have hflag : ∀ k, ((m.shift n).flag k) = m.flag k := m.shift_flag n
  have hat : ∀ k, (m.shift n).at? k = (m.at? k).map (·.shift n) := m.shift_at? n
  have hstate : ∀ s, (m.shift n).inState s = m.inState s := m.shift_inState n
  cases call with
  | setActiveSpan a | setPendingException a | setRaw key a =>
    have ha : a.shift n = a := by
      cases a with
      | span id => cases h
      | _ => rfl
    exact congrArg (StoreReply.nothing, ·) (hset _ ha)
  | requestClose | markSpanWithoutParent | markAlreadyFinalized | markErrorSpanReported
  | startAsync | markErrorHandled =>
    exact congrArg (StoreReply.nothing, ·) (hset _ rfl)
  | markSpanContinued =>
    exact congrArg (StoreReply.nothing, ·) (Attributes.markSpanContinued_shifts n m)
  | clearActiveSpan | deleteRaw key =>
    exact congrArg (StoreReply.nothing, ·) (Attributes.shift_erase n m _).symm
  | shouldClose | isSpanWithoutParent | isAlreadyFinalized | isErrorSpanReported
  | isAsyncStarted =>
    exact congrArg (fun b => (StoreReply.flag b, m.shift n)) (hflag _)
  | isErrorHandled => exact congrArg (fun b => (StoreReply.flag b, m.shift n)) (hstate _)
  | isSpanContinued => exact congrArg (fun b => (StoreReply.flag !b, m.shift n)) (hstate _)
  | getActiveSpan | peekPendingException =>
    exact congrArg (fun a => (StoreReply.attribute a, m.shift n)) (hat _)
  | requestState =>
    exact congrArg (fun a => (StoreReply.attribute (some a), m.shift n))
      (m.shift_requestState n)
  | takePendingException =>
    exact Prod.ext (congrArg StoreReply.attribute (hat _)) (Attributes.shift_erase n m _).symm
  | attributes => rfl

variable {o : Offset} {w w₀ : World}

/-- A call on the bookkeeping, seen without ids. -/
theorem World.store_alike (h : o.Alike w w₀) {call : StoreCall} (hc : call.bringsSpan = false) :
    (w.store o.here call).1.anonymous = (w₀.store o.alone call).1.anonymous ∧
      o.Alike (w.store o.here call).2 (w₀.store o.alone call).2 := by
  have hopen := h.openRequest o.here o.alone
  unfold store
  dsimp only
  rw [hopen.attributes, StoreCall.run_shift hc]
  generalize call.run ((w₀.openRequest o.alone).attributes o.alone) = out
  obtain ⟨reply, m⟩ := out
  refine ⟨?_, hopen.setAttributes m⟩
  rcases reply with _ | b | a | m
  · rfl
  · rfl
  · refine congrArg Answer.attribute ?_
    cases a with
    | none => rfl
    | some a => exact congrArg some (hopen.view a)
  · exact congrArg Answer.attributes (hopen.viewAll m)

/-! ## Calls on a continuation -/

namespace Continuation

variable {label : String}

theorem start_alike (h : o.Alike w w₀) (label : String) :
    { o with labels := label :: o.labels : Offset }.Alike (start label o.here w)
      (start label o.alone w₀) :=
  (h.modifyAttributes (Attributes.raiseFlag_shifts .asyncStarted)).setContinuation label false

/-- What a continuation of the request takes: the same span in both worlds, or nothing. -/
def TakenAlike (o : Offset) :
    Option (RequestName × Attribute) → Option (RequestName × Attribute) → Prop :=
  Option.Rel fun p q => p = (o.here, q.2.shift o.spans) ∧ q.1 = o.alone

theorem taken_shifts : Attributes.Shifts taken :=
  (Attributes.drop_shifts .pendingException).comp (Attributes.drop_shifts .activeSpan)

theorem takeSpan_agree (h : o.Alike w w₀) (hl : label ∈ o.labels) :
    o.Agree (TakenAlike o) ((takeSpan label).runIn w) ((takeSpan label).runIn w₀) := by
  obtain ⟨done, hk, hk₀⟩ := h.continuation hl
  cases done with
  | true =>
    rw [takeSpan_done hk rfl, takeSpan_done hk₀ rfl]
    exact .ok .none (h.log ..)
  | false =>
    have hspent : o.Alike (spent label { request := o.here } w)
        (spent label { request := o.alone } w₀) :=
      (h.setContinuation label true).forget fun _ => List.mem_cons_of_mem label
    have hactive := h.present? .activeSpan
    cases ha₀ : Attribute.present? (w₀.attributes o.alone).activeSpan with
    | none =>
      have ha : Attribute.present? (w.attributes o.here).activeSpan = none :=
        hactive.trans (congrArg (Option.map _) ha₀)
      rw [takeSpan_bare hk rfl ha, takeSpan_bare hk₀ rfl ha₀]
      exact .ok .none (hspent.log ..)
    | some a =>
      have ha : Attribute.present? (w.attributes o.here).activeSpan = some (a.shift o.spans) :=
        hactive.trans (congrArg (Option.map _) ha₀)
      rw [takeSpan_taken hk rfl ha, takeSpan_taken hk₀ rfl ha₀]
      exact .ok (.some ⟨rfl, rfl⟩) (hspent.modifyAttributes taken_shifts)

theorem complete_agree (h : o.Alike w w₀) (hl : label ∈ o.labels) (status : Int)
    (failure : Option Fault) :
    o.Agree Eq ((complete label status failure).runIn w)
      ((complete label status failure).runIn w₀) := by
  unfold complete
  refine Offset.Agree.bind (takeSpan_agree h hl) fun p q v v₀ hp hv => ?_
  cases hp with
  | none => exact .ok rfl hv
  | @some p q hpq =>
    obtain ⟨r, a⟩ := q
    obtain ⟨rfl, rfl⟩ := hpq
    have hbare : (v.attributes o.here).isSpanWithoutParent =
        (v₀.attributes o.alone).isSpanWithoutParent := hv.flag .spanWithoutParent
    cases a with
    | span id =>
      simp only [Attribute.shift, Act.runIn_bind, Act.runIn_get, Act.runIn_when, hbare]
      -- the tag is set before the tracer's call, which may fail
      have htagged := (hv.modifyImpersonal id
        (Span.tag_impersonal httpStatusCode (toString status))).ite
          (b := failure.isNone && (v₀.attributes o.alone).isSpanWithoutParent && 100 ≤ status) hv
      have hfinalize := Tracer.finalize_agree htagged status (failure.map .fault) id
      rw [Attribute.map_fault_shift] at hfinalize
      generalize (Tracer.finalize status (failure.map .fault) (o.spans + id)).runIn _ = p
        at hfinalize ⊢
      generalize (Tracer.finalize status (failure.map .fault) id).runIn _ = q at hfinalize ⊢
      cases hfinalize with
      | ok hb hu =>
        subst hb
        exact .ok rfl ((hu.modifyAttributes (Attributes.raiseFlag_shifts .alreadyFinalized)).ite hu)
      | error e hu => exact .error e hu
    | _ =>
      simp only [Attribute.shift, Act.runIn_bind, Act.runIn_get, hbare]
      split
      · exact .error _ hv
      · exact Offset.Agree.bind (Tracer.failIfTold_agree hv .finalize) fun _ _ _ _ _ hu =>
          .error _ hu

theorem abandon_agree (h : o.Alike w w₀) (hl : label ∈ o.labels) :
    o.Agree Eq ((abandon label).runIn w) ((abandon label).runIn w₀) := by
  unfold abandon
  refine Offset.Agree.bind (takeSpan_agree h hl) fun p q v v₀ hp hv => ?_
  cases hp with
  | none => exact .ok rfl hv
  | @some p q hpq =>
    obtain ⟨r, a⟩ := q
    obtain ⟨rfl, rfl⟩ := hpq
    cases a with
    | span id => exact Tracer.abandon_agree hv id
    | _ =>
      exact Offset.Agree.bind (Tracer.failIfTold_agree hv .abandon) fun _ _ _ _ _ hu =>
        .error _ hu

end Continuation

/-! ## Steps -/

/-- What an endpoint has gathered, without ids. -/
def Draft.anonymous (d : Draft) : Draft := { d with seen := d.seen.map Seen.anonymous }

theorem Draft.see_anonymous {d d₀ : Draft} {x x₀ : Seen} (h : d.anonymous = d₀.anonymous)
    (hx : x.anonymous = x₀.anonymous) : (d.see x).anonymous = (d₀.see x₀).anonymous := by
  unfold see anonymous at *
  dsimp only at *
  obtain ⟨hstatus, hseen, hbackground⟩ := (Draft.mk.injEq ..).mp h
  rw [hstatus, hbackground, List.map_append, List.map_append, hseen]
  exact congrArg (fun y => Draft.mk _ (_ ++ [y]) _) hx

/-- What an endpoint answers with, without ids. -/
def Reply.anonymous : Reply → Reply
  | whole d => .whole d.anonymous
  | stream status chunks failure => .stream status chunks failure
  | refusal r => .refusal r

theorem Reply.send_alike {s : HttpScope} {reply reply₀ : Reply} (h : o.Alike w w₀)
    (hr : reply.anonymous = reply₀.anonymous) :
    o.ServesAlike s.host (reply.send { s with request := o.here } w)
      (reply₀.send { s with request := o.alone } w₀) := by
  cases reply with
  | whole d =>
    cases reply₀ with
    | whole d₀ =>
      have hd : d.anonymous = d₀.anonymous := (Reply.whole.injEq ..).mp hr
      obtain ⟨hstatus, hseen, hbackground⟩ := (Draft.mk.injEq ..).mp hd
      have hbounded : ∀ items : List Seen,
          items.all Seen.isBounded = (items.map Seen.anonymous).all Seen.isBounded := by
        intro items
        rw [List.all_map]
        exact congrArg items.all (funext fun x => x.isBounded_anonymous.symm)
      unfold send
      dsimp only
      rw [hbounded d.seen, hbounded d₀.seen, hseen, hstatus, hbackground]
      split
      · refine ⟨h, rfl, rfl, rfl, ?_, rfl⟩
        exact congrArg (fun items => [Message.start d₀.status, .body (.seen items)]) hseen
      · exact .of_sent h [] _
    | _ => cases hr
  | stream status chunks failure =>
    cases reply₀ with
    | stream status₀ chunks₀ failure₀ =>
      cases hr
      exact .of_sent h _ failure
    | _ => cases hr
  | refusal r =>
    cases reply₀ with
    | refusal r₀ =>
      cases hr
      exact r.respond_isLocal o s w w₀ h
    | _ => cases hr

namespace EndpointStep

/-- A step that is about its own request, which has a continuation under each of the labels: one
that starts none, uses no other, and stores no span of its choice. -/
def isOwn (labels : List String) : EndpointStep → Bool
  | .startAsync _ => false
  | .complete label _ _ | .abandonAsync label => labels.contains label
  | .store call => !call.bringsSpan
  | _ => true

/-- Steps that are all about their own request, and use only continuations that it has or that they
have started. -/
def areOwn (labels : List String) : List EndpointStep → Bool
  | [] => true
  | .startAsync label :: rest => areOwn (label :: labels) rest
  | step :: rest => step.isOwn labels && areOwn labels rest

/-- Further continuations do no harm. -/
theorem areOwn_mono (steps : List EndpointStep) :
    ∀ {labels labels' : List String}, (∀ label ∈ labels, label ∈ labels') →
      areOwn labels steps = true → areOwn labels' steps = true := by
  induction steps with
  | nil => exact fun _ _ => rfl
  | cons step rest ih =>
    intro labels labels' hl hs
    have hcontains : ∀ label, labels.contains label = true → labels'.contains label = true :=
      fun label h => List.contains_iff_mem.mpr (hl label (List.contains_iff_mem.mp h))
    cases step with
    | startAsync label =>
      refine ih (fun l h => ?_) hs
      rcases List.mem_cons.mp h with rfl | h
      · exact List.mem_cons_self
      · exact List.mem_cons_of_mem label (hl l h)
    | complete label code failure =>
      obtain ⟨hstep, hrest⟩ := Bool.and_eq_true_iff.mp hs
      exact Bool.and_eq_true_iff.mpr ⟨hcontains label hstep, ih hl hrest⟩
    | abandonAsync label =>
      obtain ⟨hstep, hrest⟩ := Bool.and_eq_true_iff.mp hs
      exact Bool.and_eq_true_iff.mpr ⟨hcontains label hstep, ih hl hrest⟩
    | _ =>
      obtain ⟨hstep, hrest⟩ := Bool.and_eq_true_iff.mp hs
      exact Bool.and_eq_true_iff.mpr ⟨hstep, ih hl hrest⟩

theorem onContinuation_agree {label : String} (h : o.Alike w w₀) (hl : label ∈ o.labels)
    {call : Act Bool} (hcall : o.Agree Eq (call.runIn w) (call.runIn w₀)) :
    o.Agree Eq ((onContinuation label call).runIn w) ((onContinuation label call).runIn w₀) := by
  obtain ⟨done, hk, hk₀⟩ := h.continuation hl
  have hhas : ∀ {v : World} {k : Continuation},
      v.continuations.get? label = some k → v.continuations.has label = true := by
    intro v k hv
    unfold Mapping.has
    rw [hv]
    rfl
  unfold onContinuation
  simp only [Act.runIn_bind, Act.runIn_get, hhas hk, hhas hk₀, if_true]
  generalize call.runIn w = p at hcall ⊢
  generalize call.runIn w₀ = q at hcall ⊢
  cases hcall with
  | ok hb hv =>
    subst hb
    exact .ok rfl hv
  | error e hv => exact .error e hv

theorem perform_agree {s : HttpScope} {d d₀ : Draft} (h : o.Alike w w₀)
    (hd : d.anonymous = d₀.anonymous) {step : EndpointStep} (hs : step.isOwn o.labels = true) :
    o.Agree (fun d d₀ => d.anonymous = d₀.anonymous)
      ((step.perform { s with request := o.here } d).runIn w)
      ((step.perform { s with request := o.alone } d₀).runIn w₀) := by
  obtain ⟨hstatus, hseen, hbackground⟩ := (Draft.mk.injEq ..).mp hd
  cases step with
  | status code => exact .ok ((Draft.mk.injEq ..).mpr ⟨rfl, hseen, hbackground⟩) h
  | background e => exact .ok ((Draft.mk.injEq ..).mpr ⟨hstatus, hseen, rfl⟩) h
  | raise e => exact .error e h
  | refuse code detail => exact .ok hd h
  | stream chunks failure => exact .ok hd h
  | log event => exact .ok hd (h.log ..)
  | detach => exact .ok hd (h.setCurrent none)
  | errorPass => exact .ok (Draft.see_anonymous hd rfl) h
  | address => exact .ok (Draft.see_anonymous hd rfl) h
  | current =>
    have hshown : ∀ v : World, (v.currentContext.map (·.spanText)).map (fun _ => "") =
        v.current.map fun _ => "" := by
      intro v
      unfold World.currentContext
      rw [Option.map_map, Option.map_map]
      rfl
    have hcurrent : w.current.map (fun _ => "") = w₀.current.map fun _ => "" := by
      rw [h.current, Option.map_map]
      rfl
    refine .ok (Draft.see_anonymous hd ?_) h
    show Seen.answer (.spanText _) = Seen.answer (.spanText _)
    rw [hshown, hshown, hcurrent]
  | store call =>
    have hcall : call.bringsSpan = false := Bool.not_eq_true' _ ▸ hs
    obtain ⟨hanswer, hw⟩ := World.store_alike h hcall
    exact .ok (Draft.see_anonymous hd (congrArg Seen.answer hanswer)) hw
  | startAsync label => cases hs
  | complete label code failure =>
    have hl : label ∈ o.labels := List.contains_iff_mem.mp hs
    refine Offset.Agree.bind (onContinuation_agree h hl
      (Continuation.complete_agree h hl code failure)) fun a a₀ v v₀ ha hv => ?_
    subst ha
    exact .ok (Draft.see_anonymous hd rfl) hv
  | abandonAsync label =>
    have hl : label ∈ o.labels := List.contains_iff_mem.mp hs
    refine Offset.Agree.bind (onContinuation_agree h hl (Continuation.abandon_agree h hl))
      fun a a₀ v v₀ ha hv => ?_
    subst ha
    exact .ok (Draft.see_anonymous hd rfl) hv

/-- Work can be started asynchronously only where requests are traced. -/
theorem run_startAsync (s : HttpScope) (d : Draft) (label : String) (rest : List EndpointStep)
    (w : World) : (run s d (.startAsync label :: rest)).runIn w =
      if s.coordinator.isNone then (.error Fault.notTraced, w)
      else (run s d rest).runIn (Continuation.start label s.request (w.openRequest s.request)) := by
  show (perform s d (.startAsync label) >>= fun d => run s d rest).runIn w = _
  unfold perform
  cases s.coordinator <;> simp

/-- An endpoint that is about its own request comes to the same in both worlds, step by step. -/
theorem run_agree {s : HttpScope} (steps : List EndpointStep) :
    ∀ {o : Offset} {w w₀ : World} {d d₀ : Draft}, o.Alike w w₀ → d.anonymous = d₀.anonymous →
      areOwn o.labels steps = true →
      o.Agree (fun r r₀ => r.anonymous = r₀.anonymous)
        ((run { s with request := o.here } d steps).runIn w)
        ((run { s with request := o.alone } d₀ steps).runIn w₀) := by
  induction steps with
  | nil =>
    intro o w w₀ d d₀ h hd _
    exact .ok (congrArg Reply.whole hd) h
  | cons step rest ih =>
    intro o w w₀ d d₀ h hd hs
    have hnext : step.isOwn o.labels = true → areOwn o.labels rest = true →
        o.Agree (fun r r₀ => r.anonymous = r₀.anonymous)
          ((step.perform { s with request := o.here } d >>= fun d =>
            run { s with request := o.here } d rest).runIn w)
          ((step.perform { s with request := o.alone } d₀ >>= fun d =>
            run { s with request := o.alone } d rest).runIn w₀) := fun hstep hrest =>
      Offset.Agree.bind (perform_agree h hd hstep) fun _ _ _ _ hd hv => ih hv hd hrest
    cases step with
    | refuse code detail => exact .ok rfl h
    | stream chunks failure =>
      exact .ok (congrArg (Reply.stream · chunks failure) ((Draft.mk.injEq ..).mp hd).1) h
    | startAsync label =>
      rw [run_startAsync, run_startAsync]
      dsimp only
      split
      · exact .error _ h
      · -- the steps that follow may use it, so they run between worlds with one label more
        have hstarted := Continuation.start_alike (h.openRequest o.here o.alone) label
        exact (ih hstarted hd hs).forget fun _ => List.mem_cons_of_mem label
    | _ =>
      obtain ⟨hstep, hrest⟩ := Bool.and_eq_true_iff.mp hs
      exact hnext hstep hrest

end EndpointStep

namespace HttpApp

theorem ofSteps_alike {s : HttpScope} {steps : List EndpointStep} (h : o.Alike w w₀)
    (hown : EndpointStep.areOwn o.labels steps = true) :
    o.ServesAlike s.host (ofSteps steps { s with request := o.here } w)
      (ofSteps steps { s with request := o.alone } w₀) := by
  have hrun := EndpointStep.run_agree (s := s) steps h
    (rfl : ({} : Draft).anonymous = ({} : Draft).anonymous) hown
  unfold ofSteps
  generalize (EndpointStep.run { s with request := o.here } {} steps).runIn w = p at hrun ⊢
  generalize (EndpointStep.run { s with request := o.alone } {} steps).runIn w₀ = q at hrun ⊢
  cases hrun with
  | ok hr hv => exact Reply.send_alike hv hr
  | error e hv => exact .of_sent hv [] (some e)

/-- An endpoint all of whose steps are about its own request is local. -/
theorem ofSteps_isLocal {steps : List EndpointStep} (h : EndpointStep.areOwn [] steps = true) :
    (ofSteps steps).IsLocal := fun _ _ _ _ hw =>
  ofSteps_alike hw (EndpointStep.areOwn_mono steps (fun _ hl => absurd hl List.not_mem_nil) h)

/-- An endpoint that asks whether its request has a continuation under each of the labels, as an
error page may ask for what the failed serving has started, and takes other steps if not. -/
def ofHeld (labels : List String) (steps other : List EndpointStep) : HttpApp := fun s w =>
  if ∀ label ∈ labels, w.own? s.request label ≠ none then ofSteps steps s w else ofSteps other s w

/-- What its request has, an endpoint may use, whoever started it. -/
theorem ofHeld_isLocal {labels : List String} {steps other : List EndpointStep}
    (h : EndpointStep.areOwn labels steps = true) (ho : EndpointStep.areOwn [] other = true) :
    (ofHeld labels steps other).IsLocal := by
  intro o s w w₀ hw
  unfold ofHeld
  dsimp only
  simp only [hw.own]
  split
  · next hheld =>
    have hmore : { o with labels := labels ++ o.labels : Offset }.Alike w w₀ :=
      { hw with
        held := fun label hl => (List.mem_append.mp hl).elim (hheld label) (hw.held label) }
    have hown := EndpointStep.areOwn_mono steps
      (fun label hl => List.mem_append_left o.labels hl) h
    exact (ofSteps_alike hmore hown).forget fun _ => List.mem_append_right labels
  · exact ofSteps_isLocal ho o s w w₀ hw

end HttpApp

end SpanLifecycle
