import SpanLifecycle.Proofs.Standing
import Mathlib.Data.List.Induction

/-!
# Histories

The history of a program is the list of its deeds, in the order in which they are done: what every
pass does before and after its chain, and what every action does that has no program of its own.
Between two deeds lie the worlds that chains and callers can observe.

`history_story` is the one induction over programs here.  A history is a `Story`: each deed starts
where the one before it has ended and does what its actor does (`Does`), and no pass ends that was
not opened.  `Does.works` says once what any deed can do to spans and requests, and what holds
throughout a story follows from what a single deed keeps (`Story.run`).
-/

namespace SpanLifecycle

/-- Who does a deed. -/
inductive Actor where
  /-- A pass that gives its request a new span, up to the start of its chain. -/
  | starts (r : RequestName) (id : SpanId)
  /-- A pass that goes on with the span its request brings along, up to the start of its chain. -/
  | resumes (r : RequestName) (id : SpanId)
  /-- A pass whose chain does not start. -/
  | refuses (r : RequestName)
  /-- The end of a pass over a span, after its chain. -/
  | ends (r : RequestName) (id : SpanId) (error : Bool)
  /-- An action without a program of its own, inside an exchange over a request. -/
  | acts (r : RequestName) (a : Action)
  /-- What is done before and after a program during which a span is current. -/
  | shifts

/-- Something that was done, with the worlds just before and just after. -/
structure Deed where
  actor : Actor
  before : World
  after : World

/-! ## The history of a program -/

namespace Exchange

/-- Who opens a pass over an exchange. -/
def opening (x : Exchange) (w : World) : Actor :=
  match Attribute.present? (w.attributes x.request).activeSpan with
  | none => .starts x.request w.spans.length
  | some (.span id) => .resumes x.request id
  | some _ => .refuses x.request

/-- Who ends it. -/
def ending (x : Exchange) (w : World) : Actor := .ends x.request (x.spanIn w) (x.isErrorPass w)

end Exchange

mutual

/-- The deeds of one action. -/
def deeds (r : RequestName) (status : Int) (a : Action) (w : World) : List Deed :=
  match w.missing? a with
  | some _ => []
  | none =>
    match a with
    | .handle x c _ chain =>
      let after := (x.handle c (fun w => runActions x.request x.status chain w) w).world
      match x.chainStart? c w with
      | none => [⟨.refuses x.request, w, after⟩]
      | some v =>
        ⟨x.opening w, w, v⟩ :: (history x.request x.status chain v ++
          [⟨x.ending w, (runActions x.request x.status chain v).world, after⟩])
    | .status _ => []
    | .attempt body => history r status body w
    | .during id body =>
      let v := (w.activate id).2
      let u := (runActions r status body v).world
      ⟨.shifts, w, v⟩ :: (history r status body v ++ [⟨.shifts, u, u.close (w.activate id).1⟩])
    | a => [⟨.acts r a, w, (a.performAt r status w).world⟩]

/-- The deeds of a program, up to the first action that raises. -/
def history (r : RequestName) (status : Int) (actions : List Action) (w : World) : List Deed :=
  match actions with
  | [] => []
  | a :: rest =>
    let step := runAction r status a w
    deeds r status a w ++
      match step.raised with
      | some _ => []
      | none => history r step.status rest step.world

end

/-- The world after deeds that follow one another. -/
def now (w : World) : List Deed → World
  | [] => w
  | d :: rest => now d.after rest

/-! ## What a deed is -/

/-- What an actor does. -/
inductive Does : Actor → World → World → Prop where
  | starts {x : Exchange} {c : String} {w v : World} (h : x.chainStart? c w = some v)
      (ha : Attribute.present? (w.attributes x.request).activeSpan = none) :
      Does (.starts x.request w.spans.length) w v
  | resumes {x : Exchange} {c : String} {w v : World} {id : SpanId}
      (h : x.chainStart? c w = some v)
      (ha : Attribute.present? (w.attributes x.request).activeSpan = some (.span id)) :
      Does (.resumes x.request id) w v
  | refuses {ρ : Type} {x : Exchange} {c : String} {w : World} (chain : Chain ρ)
      (h : x.chainStart? c w = none) : Does (.refuses x.request) w (x.handle c chain w).world
  | endsNormal {ρ : Type} {x : Exchange} {c : String} {id : SpanId} {v : World} (scope : Scope)
      (chain : Chain ρ) (hid : id < (chain v).world.spans.length) :
      Does (.ends x.request id false) (chain v).world
        (Pass.runNormal c x id scope chain v).world
  | endsError {ρ : Type} {x : Exchange} {id : SpanId} {v : World} (scope : Scope)
      (chain : Chain ρ) (hid : id < (chain v).world.spans.length) :
      Does (.ends x.request id true) (chain v).world (Pass.runError x id scope chain v).world
  | acts {r : RequestName} {status : Int} {a : Action} {w : World} (h : w.missing? a = none) :
      Does (.acts r a) w (a.performAt r status w).world
  | shifts (w : World) (current : Option SpanId) : Does .shifts w { w with current }

namespace Exchange

variable {x : Exchange} {c : String} {w v : World}

theorem opening_does (h : x.chainStart? c w = some v) : Does (x.opening w) w v := by
  unfold opening
  cases ha : Attribute.present? (w.attributes x.request).activeSpan with
  | none => exact .starts h ha
  | some a =>
    obtain ⟨id, rfl⟩ := chainStart?_active h ha
    exact .resumes h ha

/-- The pass is over the span of the exchange's request, or the one that it gives it. -/
theorem opening_eq (h : x.chainStart? c w = some v) :
    x.opening w = .starts x.request (x.spanIn w) ∨ x.opening w = .resumes x.request (x.spanIn w) := by
  unfold opening spanIn
  cases ha : Attribute.present? (w.attributes x.request).activeSpan with
  | none => exact .inl rfl
  | some a =>
    obtain ⟨id, rfl⟩ := chainStart?_active h ha
    exact .inr rfl

theorem ending_does {ρ : Type} {chain : Chain ρ} (h : x.chainStart? c w = some v)
    (hid : x.spanIn w < (chain v).world.spans.length) :
    Does (x.ending w) (chain v).world (x.handle c chain w).world := by
  obtain ⟨scope, hrun⟩ := handle_started h chain
  rw [hrun]
  unfold ending
  cases x.isErrorPass w with
  | true => exact .endsError scope chain hid
  | false => exact .endsNormal scope chain hid

end Exchange

/-! ## What a deed can do -/

/-- A call that neither sets the active span, nor marks the request as finalized, nor writes to the
mapping behind the bookkeeping. -/
def StoreCall.isPlain : StoreCall → Bool
  | .setActiveSpan _ | .markAlreadyFinalized | .setRaw .. | .deleteRaw _ => false
  | _ => true

/-- The actions by which a program disposes of a span itself: through a continuation, or by a call
of the tracer. -/
def Action.isDisposal : Action → Bool
  | .complete .. | .abandonAsync _ | .finalize .. | .abandon _ => true
  | _ => false

/-- All that deeds can do to spans and requests, by who does them. -/
inductive Works (w w' : World) : Actor → Prop where
  | starts {x : Exchange} {c : String} (h : x.Begins c w w') :
      Works w w' (.starts x.request w.spans.length)
  | resumes {r : RequestName} {id : SpanId} (ha : (w.attributes r).activeSpan = some (.span id))
      (h : Keeps w w') : Works w w' (.resumes r id)
  | refuses {r : RequestName} (h : Keeps w w') : Works w w' (.refuses r)
  | ends {r : RequestName} {id : SpanId} {error : Bool} (h : Settles r id w w') :
      Works w w' (.ends r id error)
  | shifts (h : Keeps w w') : Works w w' .shifts
  | acts {q : RequestName} {a : Action} (h : Keeps w w') : Works w w' (.acts q a)
  | uses {q r : RequestName} {id : SpanId} {a : Action} (hd : a.isDisposal = true)
      (ha : (w.attributes r).activeSpan = some (.span id)) (h : Settles r id w w') :
      Works w w' (.acts q a)
  | writes {q r : RequestName} {o : Option RequestName} {call : StoreCall}
      (hr : Action.requestOr q o = r) (hcall : call.isPlain = false)
      (h : ∀ j, Becomes r j w w'
        { span := w.span j, attributes := (call.run (w.attributes r)).2 }) :
      Works w w' (.acts q (.store o call))
  | finalizes {q : RequestName} {id : SpanId} {code : Int} {failure : Option Fault}
      (h : ∀ r, ∃ s calls exports, Becomes r id w w'
        { span := s, attributes := w.attributes r, calls, exports }) :
      Works w w' (.acts q (.finalize id code failure))
  | abandons {q : RequestName} {id : SpanId}
      (h : ∀ r, ∃ s calls, (s.state = .finalized ↔ (w.span id).state = .finalized) ∧
        Becomes r id w w' { span := s, attributes := w.attributes r, calls }) :
      Works w w' (.acts q (.abandon id))

theorem StoreCall.run_keeps {call : StoreCall} (h : call.isPlain = true) (m : Attributes) :
    m.Keeps (call.run m).2 := by
  cases call with
  | setActiveSpan _ | markAlreadyFinalized | setRaw _ _ | deleteRaw _ => cases h
  | markSpanContinued => exact .markSpanContinued m
  | clearActiveSpan => exact ⟨.inr (by simp [run]), by simp [run], by simp [run]⟩
  | _ =>
    exact ⟨.inl (by simp [run]), by simp [run, Attribute.truthy, Value.truthy], by simp [run]⟩

/-- A new span is open. -/
theorem Tracer.Started.keeps {headers : Headers} {name : String} {w w' : World}
    (h : Tracer.Started headers name w w') : Keeps w w' := by
  obtain ⟨s, hspans, hnew⟩ := h.spans
  refine ⟨by rw [hspans, List.length_append]; exact Nat.le_add_right _ _, fun j => ?_, fun q => ?_⟩
  · rw [World.span_append hspans]
    by_cases hj : j = w.spans.length
    · rw [if_pos hj, hnew.state, World.span_default (Nat.le_of_eq hj.symm)]
      rfl
    · rw [if_neg hj]
  · unfold World.attributes
    rw [h.requests]
    exact .refl _

theorem Pass.hasErrorHandler_keeps (c : String) (w : World) :
    Keeps w ((Pass.hasErrorHandler c).runIn w).2 := by
  obtain ⟨v, hv, -, hb⟩ := Pass.hasErrorHandler_answer c w
  rw [hv]
  exact .of_becomes (hb outerRequest 0) rfl (.refl _)

theorem World.store_becomes (w : World) (r : RequestName) (call : StoreCall) (j : SpanId) :
    Becomes r j w (w.store r call).2
      { span := w.span j, attributes := (call.run (w.attributes r)).2 } :=
  (Becomes.openRequest r j w r).thenModifyAttributes fun m => (call.run m).2

namespace Action

variable {w : World} {q : RequestName} {a : Action}

/-- Making an answer of what an operation gives back does nothing more. -/
theorem runIn_map_snd {α : Type} (a : Act α) (f : α → Answer) (w : World) :
    ((do return f (← a) : Act Answer).runIn w).2 = (a.runIn w).2 := by
  rw [Act.runIn_bind]
  rcases a.runIn w with ⟨e | x, v⟩ <;> rfl

/-- What an action does that has no program of its own. -/
theorem perform_works (hw : w.Sound) (h : w.missing? a = none) :
    Works w ((a.perform q).runIn w).2 (.acts q a) := by
  cases a with
  | store o call =>
    cases hcall : call.isPlain with
    | true => exact .acts (.of_becomes (w.store_becomes _ call 0) rfl (call.run_keeps hcall _))
    | false => exact .writes rfl hcall fun j => w.store_becomes _ call j
  | startAsync label o =>
    refine .acts (.trans (.openRequest w _) (.trans (.modifyAttributes _ (requestOr q o)
      (·.raiseFlag .asyncStarted) ⟨.inl (by simp), ?_, by simp⟩) (.aside rfl rfl)))
    simp [Attribute.truthy, Value.truthy]
  | complete label code failure =>
    unfold perform
    rw [runIn_map_snd]
    cases Continuation.complete_uses hw label code failure with
    | keeps h => exact .acts h
    | settles r id ha h => exact .uses rfl ha h
  | abandonAsync label =>
    unfold perform
    rw [runIn_map_snd]
    cases Continuation.abandon_uses hw label with
    | keeps h => exact .acts h
    | settles r id ha h => exact .uses rfl ha h
  | start headers name method path =>
    unfold perform
    rw [Act.runIn_bind]
    cases hf : w.failures.of? .create with
    | some e =>
      rw [Tracer.start_failed hf]
      exact .acts (.failed w .create)
    | none =>
      obtain ⟨v, hv, hs⟩ := Tracer.start_ok hf headers name method path
      rw [hv]
      exact .acts hs.keeps
  | finalize id code failure =>
    unfold perform
    rw [runIn_map_snd]
    exact .finalizes fun r => Tracer.finalize_becomes r code _ (lt_of_missing? h)
  | abandon id =>
    unfold perform
    rw [runIn_map_snd]
    exact .abandons fun r => Tracer.abandon_becomes r (lt_of_missing? h)
  | tag id key value => exact .acts (.tag w (lt_of_missing? h) key value)
  | hasErrorHandler c =>
    unfold perform
    rw [runIn_map_snd]
    exact .acts (Pass.hasErrorHandler_keeps c w)
  | activate id label => exact .acts (.aside rfl rfl)
  | close label =>
    unfold perform
    simp only [Act.runIn_bind, Act.runIn_modify, Act.runIn_pure]
    split
    · exact .acts (.refl w)
    · next scope _ => exact .acts ((Keeps.close w scope).trans (.aside rfl rfl))
  | _ => exact .acts (.aside rfl rfl)

end Action

namespace Does

variable {actor : Actor} {w w' : World}

/-- Every deed leads from a sound world to a sound world. -/
theorem follows (h : Does actor w w') (hw : w.Sound) : Follows w w' := by
  cases h with
  | starts h _ | resumes h _ => exact Exchange.chainStart?_follows hw _ _ h
  | refuses chain h => exact Exchange.refused_follows hw h chain
  | endsNormal scope chain hid => exact Pass.runNormal_after hw _ _ hid scope
  | endsError scope chain hid => exact Pass.runError_after hw _ hid scope
  | acts h => exact Action.performAt_follows hw _ _ _ h
  | shifts current => exact .aside hw rfl rfl rfl rfl rfl

/-- What a deed can do to spans and requests. -/
theorem works (h : Does actor w w') (hw : w.Sound) : Works w w' actor := by
  cases h with
  | starts h ha => exact .starts (Exchange.chainStart?_begins h ha)
  | resumes h ha =>
    exact .resumes (Attribute.of_present? ha)
      (.of_becomes (Exchange.chainStart?_resumes h ha 0) rfl (.markSpanContinued _))
  | refuses chain h =>
    obtain ⟨m, calls, hb, -, -, hm⟩ := Exchange.handle_refused h chain
    exact .refuses (.of_becomes (hb 0) rfl hm)
  | endsNormal scope chain hid => exact .ends (Pass.runNormal_ends _ _ scope hid)
  | endsError scope chain hid => exact .ends (Pass.runError_ends _ scope hid)
  | @acts r status a _ h =>
    have hworks := Action.perform_works (q := r) hw h
    unfold Action.performAt
    revert hworks
    rcases (a.perform r).runIn w with ⟨e | answer, v⟩ <;> exact fun h => h
  | shifts current => exact .shifts (.aside rfl rfl)

end Does

/-! ## Stories -/

/-- The request that a pass has given a span, and that span. -/
def Actor.started? : Actor → Option (RequestName × SpanId)
  | .starts r id => some (r, id)
  | _ => none

/-- The request whose span a pass has gone on with, and that span. -/
def Actor.resumed? : Actor → Option (RequestName × SpanId)
  | .resumes r id => some (r, id)
  | _ => none

/-- The spans that passes have started, with the requests that they were started for. -/
def startedIn (l : List Deed) : List (RequestName × SpanId) :=
  l.filterMap fun d => d.actor.started?

/-- The spans that passes have gone on with, with their requests. -/
def resumedIn (l : List Deed) : List (RequestName × SpanId) :=
  l.filterMap fun d => d.actor.resumed?

theorem mem_startedIn_append {l : List Deed} {d : Deed} {e : RequestName × SpanId} :
    e ∈ startedIn (l ++ [d]) ↔ e ∈ startedIn l ∨ d.actor.started? = some e := by
  unfold startedIn
  simp

theorem mem_startedIn_append_left {l l' : List Deed} {e : RequestName × SpanId}
    (h : e ∈ startedIn l) : e ∈ startedIn (l ++ l') := by
  unfold startedIn
  rw [List.filterMap_append]
  exact List.mem_append_left _ h

theorem startedIn_append_of_none {l : List Deed} {d : Deed} (h : d.actor.started? = none) :
    startedIn (l ++ [d]) = startedIn l := by
  unfold startedIn
  simp [h]

theorem mem_resumedIn_append {l : List Deed} {d : Deed} {e : RequestName × SpanId} :
    e ∈ resumedIn (l ++ [d]) ↔ e ∈ resumedIn l ∨ d.actor.resumed? = some e := by
  unfold resumedIn
  simp

/-- A span that starts is the next one. -/
theorem Does.started {actor : Actor} {w w' : World} {r : RequestName} {id : SpanId}
    (h : Does actor w w') (hs : actor.started? = some (r, id)) :
    id = w.spans.length ∧ w'.spans.length = w.spans.length + 1 := by
  cases h with
  | starts h ha =>
    cases hs
    exact ⟨rfl, (Exchange.chainStart?_begins h ha).length⟩
  | _ => cases hs

/-- A pass that ends was opened before, over the same span. -/
def Actor.IsOpened (past : List Deed) : Actor → Prop
  | .ends r id _ => (r, id) ∈ startedIn past ∨ (r, id) ∈ resumedIn past
  | _ => True

/-- Deeds that follow one another from one world to another, after those of the past. -/
inductive Story : List Deed → World → List Deed → World → Prop where
  | done (past : List Deed) (w : World) : Story past w [] w
  | next {past rest : List Deed} {actor : Actor} {w v u : World} (hd : Does actor w v)
      (ho : actor.IsOpened past) (h : Story (past ++ [⟨actor, w, v⟩]) v rest u) :
      Story past w (⟨actor, w, v⟩ :: rest) u

namespace Story

variable {past l l' : List Deed} {w v u : World}

theorem single {actor : Actor} (hd : Does actor w v) (ho : actor.IsOpened past) :
    Story past w [⟨actor, w, v⟩] v := .next hd ho (.done _ _)

theorem append (h : Story past w l v) (g : Story (past ++ l) v l' u) :
    Story past w (l ++ l') u := by
  induction h with
  | done past w => rwa [List.append_nil] at g
  | next hd ho _ ih =>
    rw [List.append_cons] at g
    exact .next hd ho (ih g)

/-- A story can be cut anywhere, and goes on from the world that it has come to. -/
theorem cut (h : Story past w (l ++ l') u) :
    Story past w l (now w l) ∧ Story (past ++ l) (now w l) l' u := by
  induction l generalizing past w with
  | nil => exact ⟨.done past w, by rwa [List.append_nil]⟩
  | cons d rest ih =>
    cases h with
    | next hd ho h =>
      obtain ⟨h₁, h₂⟩ := ih h
      exact ⟨.next hd ho h₁, List.append_cons .. ▸ h₂⟩

/-- A story leads to where its last deed has ended. -/
theorem eq_now (h : Story past w l u) : u = now w l := by
  induction h with
  | done => rfl
  | next _ _ _ ih => exact ih

/-- What a deed in the middle of a story is. -/
theorem at_deed {d : Deed} (h : Story past w (l ++ d :: l') u) :
    Does d.actor d.before d.after ∧ d.actor.IsOpened (past ++ l) ∧ d.before = now w l := by
  obtain ⟨-, h⟩ := h.cut
  generalize now w l = v at h
  cases h with
  | next hd ho _ => exact ⟨hd, ho, rfl⟩

/-- A story goes on from where a deed in the middle of it has ended. -/
theorem after_deed {d : Deed} (h : Story past w (l ++ d :: l') u) :
    Story (past ++ l ++ [d]) d.after l' u := by
  obtain ⟨-, h⟩ := h.cut
  generalize now w l = v at h
  cases h with
  | next _ _ h => exact h

/-- What holds of a sound world, and is kept by every deed of a story, holds at the end of it. -/
theorem run {I : List Deed → World → Prop} (h : Story past w l u) (hw : w.Sound) (hI : I past w)
    (hstep : ∀ before d rest, l = before ++ d :: rest → Story past w before d.before →
      Does d.actor d.before d.after → d.actor.IsOpened (past ++ before) → d.before.Sound →
      I (past ++ before) d.before → I (past ++ before ++ [d]) d.after) :
    u.Sound ∧ I (past ++ l) u := by
  induction l using List.reverseRecOn generalizing u with
  | nil =>
    cases h
    exact ⟨hw, by rwa [List.append_nil]⟩
  | append_singleton l d ih =>
    obtain ⟨hbefore, hlast⟩ := h.cut
    obtain ⟨hw', hI'⟩ := ih hbefore fun before e rest he =>
      hstep before e (rest ++ [d]) (by rw [he, List.append_assoc]; rfl)
    generalize now w l = v at hbefore hlast hw' hI'
    cases hlast with
    | next hd ho h =>
      cases h
      rw [← List.append_assoc]
      exact ⟨(hd.follows hw').sound, hstep l _ [] rfl hbefore hd ho hw' hI'⟩

/-- A story leads from a sound world to a sound world. -/
theorem sound (h : Story past w l u) (hw : w.Sound) : u.Sound :=
  (h.run (I := fun _ _ => True) hw trivial fun _ _ _ _ _ _ _ _ _ => trivial).1

/-- What a deed in the middle of a story is done in is sound. -/
theorem sound_at {d : Deed} (h : Story past w (l ++ d :: l') u) (hw : w.Sound) :
    Does d.actor d.before d.after ∧ d.before.Sound := by
  obtain ⟨hdoes, -, hnow⟩ := h.at_deed
  exact ⟨hdoes, hnow ▸ h.cut.1.sound hw⟩

/-- Every span that passes have started exists, and was started for one request only. -/
theorem started (h : Story [] w l u) (hw : w.Sound) :
    (∀ r id, (r, id) ∈ startedIn l → id < u.spans.length) ∧
      ∀ r q id, (r, id) ∈ startedIn l → (q, id) ∈ startedIn l → r = q := by
  refine (h.run (I := fun past u => (∀ r id, (r, id) ∈ startedIn past → id < u.spans.length) ∧
    ∀ r q id, (r, id) ∈ startedIn past → (q, id) ∈ startedIn past → r = q) hw ?_ ?_).2
  · exact ⟨fun r id hmem => absurd hmem List.not_mem_nil,
      fun r q id hmem => absurd hmem List.not_mem_nil⟩
  · intro before d rest _ _ hd _ hsound ⟨hlt, honce⟩
    have hlen := (hd.follows hsound).run.length_le
    simp only [List.nil_append, mem_startedIn_append] at hlt honce ⊢
    refine ⟨fun r id hid => ?_, fun r q id hr hq => ?_⟩
    · rcases hid with hid | hid
      · exact Nat.lt_of_lt_of_le (hlt r id hid) hlen
      · obtain ⟨rfl, hnew⟩ := hd.started hid
        exact hnew ▸ Nat.lt_succ_self _
    -- a span that starts is none of those that have started before
    · have hold : ∀ {p q : RequestName}, (p, id) ∈ startedIn before →
          d.actor.started? ≠ some (q, id) := fun hp hq =>
        absurd (hd.started hq).1 (Nat.ne_of_lt (hlt _ id hp))
      rcases hr with hr | hr <;> rcases hq with hq | hq
      · exact honce r q id hr hq
      · exact absurd hq (hold hr)
      · exact absurd hr (hold hq)
      · rw [hr] at hq
        cases hq
        rfl

end Story

/-! ## Histories are stories -/

mutual

theorem deeds_story (r : RequestName) (status : Int) (a : Action) {w : World} (hw : w.Sound)
    (past : List Deed) : Story past w (deeds r status a w) (runAction r status a w).world := by
  cases a with
  | handle x c raiseOn chain =>
    rw [deeds, runAction]
    dsimp only [World.missing?]
    cases hv : x.chainStart? c w with
    | none => exact .single (.refuses _ hv) trivial
    | some v =>
      have hstart := Exchange.chainStart?_follows hw x c hv
      have hchain := history_story x.request x.status chain hstart.sound
        (past ++ [⟨x.opening w, w, v⟩])
      have hid := Nat.lt_of_lt_of_le (Exchange.spanIn_lt hv hw)
        (runActions_follows x.request x.status chain hstart.sound).run.length_le
      refine .next (Exchange.opening_does hv) ?_
        (hchain.append (.single (Exchange.ending_does hv hid) ?_))
      · rcases Exchange.opening_eq hv with h | h <;> rw [h] <;> trivial
      · have hmem : (⟨x.opening w, w, v⟩ : Deed) ∈ past ++ [⟨x.opening w, w, v⟩] ++
            history x.request x.status chain v := by simp
        exact (Exchange.opening_eq hv).imp
          (fun h => List.mem_filterMap.mpr ⟨_, hmem, by rw [h]; rfl⟩)
          (fun h => List.mem_filterMap.mpr ⟨_, hmem, by rw [h]; rfl⟩)
  | status code => rw [deeds, runAction]; exact .done past w
  | attempt body => rw [deeds, runAction]; exact history_story r status body hw past
  | during id body =>
    rw [deeds, runAction]
    cases hm : w.missing? (.during id body) with
    | some kind => exact .done past w
    | none =>
      have hactive := Follows.activate hw id
      have hbody := history_story r status body hactive.sound
        (past ++ [⟨.shifts, w, (w.activate id).2⟩])
      exact .next (.shifts w _) trivial (hbody.append (.single (.shifts _ _) trivial))
  | _ =>
    unfold deeds runAction
    generalize hm : w.missing? _ = missing
    cases missing with
    | some kind => exact .done past w
    | none => exact .single (.acts hm) trivial

theorem history_story (r : RequestName) (status : Int) (actions : List Action) {w : World}
    (hw : w.Sound) (past : List Deed) :
    Story past w (history r status actions w) (runActions r status actions w).world := by
  cases actions with
  | nil => rw [history, runActions]; exact .done past w
  | cons a rest =>
    have hstep := deeds_story r status a hw past
    rw [history, runActions]
    dsimp only
    cases (runAction r status a w).raised with
    | some e => exact hstep.append (.done _ _)
    | none =>
      exact hstep.append (history_story r _ rest (runAction_follows r status a hw).sound _)

end

end SpanLifecycle
