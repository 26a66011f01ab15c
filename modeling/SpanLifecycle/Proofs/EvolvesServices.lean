import SpanLifecycle.Proofs.EvolvesPasses
import SpanLifecycle.Proofs.Layers
import SpanLifecycle.Proofs.Steady
import SpanLifecycle.Service.Session

/-!
# Services evolve

Routes, layers and endpoints evolve a world, as passes and programs do, and so do sessions with a
service (`ServiceSession.run_evolves`).  Only what comes in from outside can name a span that was
never started: the attributes that a request brings along, and what the steps of an endpoint store.
It names none but the first `n` spans where these have been started already.
-/

namespace SpanLifecycle

open World

/-! ## Applications -/

/-- An application that evolves every world, provided that its first `n` spans have been started. -/
def HttpApp.Evolves (n : Nat) (app : HttpApp) : Prop :=
  ∀ (s : HttpScope) (w : World), w.Grounded → n ≤ w.spans.length → w.Evolves (app s w).world

namespace HttpApp.Evolves

variable {n : Nat} {inner : HttpApp}

theorem isolated (h : inner.Evolves n) : inner.isolated.Evolves n := by
  intro s w hw hn
  have hdone := h s w hw hn
  have hrestored := hdone.restoreContext
  exact hrestored.trans (.setCurrent hrestored.grounded fun id hid =>
    Nat.lt_of_lt_of_le (hw.current id hid) hdone.length_le)

theorem answeringFailures (h : inner.Evolves n) : inner.answeringFailures.Evolves n := by
  intro s w hw hn
  rw [(inner.answeringFailures_same s w).1]
  exact h s w hw hn

theorem admitted {w : World} (hw : w.Grounded) (c errorPath : String) (s : HttpScope) :
    w.Evolves (admitted c errorPath s w) := by
  have happoint : w.Evolves (appoint c errorPath s w) := Pass.setCoordinator_evolves hw c _
  have hopen := happoint.trans (.openRequest happoint.grounded s.request)
  exact hopen.trans (.setContext hopen.grounded fun hplain =>
    (hplain.set (.inl rfl) _).set (.inr rfl) _)

/-- A traced application makes one pass, with the application in a context of its own as the chain. -/
theorem traced (h : inner.Evolves n) (c errorPath : String) :
    (inner.traced c errorPath).Evolves n := by
  intro s w hw hn
  have hadmit := admitted hw c errorPath s
  have hpass := hadmit.trans (Exchange.handle_evolves hadmit.grounded
    (Nat.le_trans hn hadmit.length_le) (fun v hv hnv => by
      rw [(chain_reply (tracedScope c s) v inner s.exchange.status).2]
      exact h.isolated (tracedScope c s) v hv hnv) s.exchange c)
  rw [traced_eq, passed_world]
  exact hpass.restoreContext

theorem again (h : inner.Evolves n) (errorPath : String) {done : HttpEnd} (e : Fault)
    (hw : done.world.Grounded) (hn : n ≤ done.world.spans.length) :
    done.world.Evolves (again errorPath inner done e).world := by
  have hlog := World.Evolves.log hw redispatchLogger
    (.silent rfl rfl : (redispatchEvent done.scope errorPath e).Fits _ _)
  unfold HttpApp.again
  dsimp only
  split
  · exact hlog
  · exact hlog.trans (h _ _ hlog.grounded (Nat.le_trans hn hlog.length_le))

theorem redispatching (h : inner.Evolves n) (errorPath : String) :
    (inner.redispatching errorPath).Evolves n := by
  intro s w hw hn
  unfold HttpApp.redispatching
  split
  · exact h s w hw hn
  · have hopen := World.Evolves.openRequest hw s.request
    have hdone := hopen.trans (h s _ hopen.grounded hn)
    dsimp only
    split
    · exact hdone
    · split
      · exact hdone
      · exact hdone
      · exact hdone.trans (h.again errorPath _ hdone.grounded (Nat.le_trans hn hdone.length_le))

end HttpApp.Evolves

theorem Refusal.respond_evolves (r : Refusal) (n : Nat) : r.respond.Evolves n := by
  intro s w hw _
  unfold respond
  split
  · exact .refl hw
  · exact .refl hw

/-! ## Endpoints -/

/-- A call that stores no span but the first `n`. -/
def StoreCall.NamesBelow (n : Nat) : StoreCall → Prop
  | setActiveSpan (.span id) | setRaw _ (.span id) => id < n
  | _ => True

/-- Such a call has what it needs where these have been started. -/
theorem StoreCall.NamesBelow.missing? {n : Nat} {call : StoreCall} (h : call.NamesBelow n)
    {w : World} (hn : n ≤ w.spans.length) : w.missing? (.store none call) = none := by
  cases call with
  | setActiveSpan a =>
    cases a with
    | span id => exact if_pos (Nat.lt_of_lt_of_le h hn)
    | _ => rfl
  | setRaw key a =>
    cases a with
    | span id => exact if_pos (Nat.lt_of_lt_of_le h hn)
    | _ => rfl
  | _ => rfl

namespace EndpointStep

theorem onContinuation_evolves {w : World} (hw : w.Grounded) (label : String) {call : Act Bool}
    (hcall : w.Evolves (call.runIn w).2) :
    w.Evolves ((onContinuation label call).runIn w).2 := by
  unfold onContinuation
  rw [Act.runIn_bind, Act.runIn_get]
  dsimp only
  split
  · exact Action.evolves_map hcall _
  · exact .refl hw

theorem perform_evolves {n : Nat} {w : World} (hw : w.Grounded) (hn : n ≤ w.spans.length)
    (s : HttpScope) (d : Draft) (step : EndpointStep)
    (hstep : ∀ call, step = .store call → call.NamesBelow n) :
    w.Evolves ((step.perform s d).runIn w).2 := by
  cases step with
  | store call => exact .store hw ((hstep call rfl).missing? hn) s.request
  | startAsync label =>
    unfold perform
    cases s.coordinator with
    | none => exact .refl hw
    | some c => exact Continuation.start_evolves hw label _
  | complete label code failure =>
    exact (onContinuation_evolves hw label (Continuation.complete_evolves hw label code failure)).bind
      fun _ _ _ hv => .refl hv.grounded
  | abandonAsync label =>
    exact (onContinuation_evolves hw label (Continuation.abandon_evolves hw label)).bind
      fun _ _ _ hv => .refl hv.grounded
  | log event => exact .log hw endpointLogger (.silent rfl rfl)
  | detach => exact .setCurrent hw nofun
  | _ => exact .refl hw

theorem run_evolves {n : Nat} (s : HttpScope) (steps : List EndpointStep) :
    ∀ (d : Draft) (w : World), w.Grounded → n ≤ w.spans.length →
      (∀ call, .store call ∈ steps → call.NamesBelow n) →
      w.Evolves ((run s d steps).runIn w).2 := by
  induction steps with
  | nil => exact fun _ _ hw _ _ => .refl hw
  | cons step rest ih =>
    intro d w hw hn hstored
    have hstep := perform_evolves hw hn s d step fun call hcall =>
      hstored call (hcall ▸ List.mem_cons_self)
    have hnext := hstep.bind (f := fun d => run s d rest) fun d v _ hv =>
      ih d v hv.grounded (Nat.le_trans hn hv.length_le) fun call hcall =>
        hstored call (List.mem_cons_of_mem _ hcall)
    cases step with
    | refuse code detail => exact .refl hw
    | stream chunks failure => exact .refl hw
    | _ => exact hnext

end EndpointStep

theorem HttpApp.ofSteps_evolves {n : Nat} {steps : List EndpointStep}
    (h : ∀ call, .store call ∈ steps → call.NamesBelow n) : (ofSteps steps).Evolves n := by
  intro s w hw hn
  have hrun := EndpointStep.run_evolves s steps {} w hw hn h
  unfold ofSteps
  revert hrun
  rcases (EndpointStep.run s {} steps).runIn w with ⟨e | reply, v⟩
  · exact fun hrun => hrun
  · intro hrun
    show w.Evolves (reply.send s v).world
    rw [(reply.send_same s v).1]
    exact hrun

/-- What runs at an endpoint of a service: the steps of an endpoint, or any program on its request
and then an answer, or one of these behind layers of its own. -/
inductive Handler where
  | steps (body : List EndpointStep)
  | program (actions : List Action) (answer : Body)
  | traced (coordinator errorPath : String) (inner : Handler)
  | redispatching (errorPath : String) (inner : Handler)

namespace Handler

/-- A program and then an answer as an application.  What the program raises escapes. -/
def ofProgram (actions : List Action) (answer : Body) : HttpApp := fun scope w =>
  let done := runActions scope.request 200 actions w
  { world := done.world
    scope
    sent := if done.raised.isNone then Message.response done.status answer else []
    raised := done.raised }

/-- A handler as an application. -/
def app : Handler → HttpApp
  | steps body => .ofSteps body
  | program actions answer => ofProgram actions answer
  | traced coordinator errorPath inner => inner.app.traced coordinator errorPath
  | redispatching errorPath inner => inner.app.redispatching errorPath

/-- A handler whose steps store no span but the first `n`. -/
def NamesBelow (n : Nat) : Handler → Prop
  | steps body => ∀ call, .store call ∈ body → call.NamesBelow n
  | program .. => True
  | traced _ _ inner | redispatching _ inner => inner.NamesBelow n

theorem app_evolves {n : Nat} {h : Handler} (hh : h.NamesBelow n) : h.app.Evolves n := by
  induction h with
  | steps body => exact HttpApp.ofSteps_evolves hh
  | program actions answer =>
    intro scope w hw _
    exact runActions_evolves scope.request 200 actions hw
  | traced c errorPath inner ih => exact (ih hh).traced c errorPath
  | redispatching errorPath inner ih => exact (ih hh).redispatching errorPath

end Handler

/-! ## Services -/

theorem Route.evolves_inherits (ε : Type) (n : Nat) : Inherits ε fun _ w done =>
    w.Grounded → n ≤ w.spans.length → w.Evolves done.world where
  failing _ _ _ hw _ := .refl hw
  refusing r s w := r.respond_evolves n s w
  answering _ _ _ _ hw _ := .refl hw
  found _ _ _ _ h := h
  mounted inner s w taken wording routes h hw hn := by
    rw [(inner.answeringFailures_same _ w).1]
    exact h hw hn

namespace Service

variable {ε : Type} {n : Nat} {serve : ε → HttpApp}

theorem router_evolves (hs : ∀ e, (serve e).Evolves n) (v : Service ε) :
    (v.router serve).Evolves n := by
  refine Route.dispatch_inherits (Route.evolves_inherits _ n) ?_ v.routes
  intro page s w hw hn
  cases page with
  | documentation => exact .refl hw
  | health => exact .refl hw
  | errors => exact .openRequest hw s.request
  | own e => exact hs e s w hw hn

theorem app_evolves (hs : ∀ e, (serve e).Evolves n) (v : Service ε) : (v.app serve).Evolves n := by
  have hlayers : (v.layers (v.router serve)).Evolves n := by
    unfold layers
    split
    · exact v.router_evolves hs
    · exact ((v.router_evolves hs).traced _ _).redispatching _
    · exact ((v.router_evolves hs).traced _ _).redispatching _
  exact fun s w hw hn => hlayers.answeringFailures.isolated _ w hw hn

end Service

/-! ## Sessions -/

/-- Attributes whose active span, if it is one, is among the first `n`. -/
def Attributes.NamesBelow (n : Nat) (m : Attributes) : Prop :=
  ∀ id, m.at? .activeSpan = some (.span id) → id < n

namespace ServiceStep

variable {ε : Type}

mutual

/-- The requests of a step bring along no span but the first `n`. -/
def NamesBelow (n : Nat) : ServiceStep ε → Prop
  | .request r => r.attributes.NamesBelow n
  | .socket _ attributes => attributes.NamesBelow n
  | .lifespan steps => AllNameBelow n steps
  | .complete .. | .abandonAsync _ | .addRoutes _ => True

/-- So do those of all steps of a list. -/
def AllNameBelow (n : Nat) : List (ServiceStep ε) → Prop
  | [] => True
  | s :: rest => s.NamesBelow n ∧ AllNameBelow n rest

end

end ServiceStep

namespace World.Evolves

variable {w : World}

/-- A request arrives with attributes of its own. -/
theorem setAttributes {n : Nat} {m : Attributes} (hw : w.Grounded) (hn : n ≤ w.spans.length)
    (hm : m.NamesBelow n) (r : RequestName) : w.Evolves (w.setAttributes r m) :=
  modifyAttributes hw r (fun _ => m) fun id hid => .inr (Nat.lt_of_lt_of_le (hm id hid) hn)

end World.Evolves

namespace ServiceSession

variable {ε : Type} {n : Nat} {endpoints : ε → HttpApp} {t : ServiceSession ε}

theorem serve_evolves (hs : ∀ e, (endpoints e).Evolves n) (ht : t.world.Grounded)
    (hn : n ≤ t.world.spans.length) {r : HttpRequest} (hr : r.attributes.NamesBelow n) :
    t.world.Evolves (t.serve endpoints r).2.world := by
  have hset := World.Evolves.setAttributes ht hn hr (.numbered t.served)
  exact hset.trans (t.service.app_evolves hs _ _ hset.grounded hn)

theorem onContinuation_evolves (ht : t.world.Grounded) (label : String) {call : Act Bool}
    (hcall : t.world.Evolves (call.runIn t.world).2) :
    t.world.Evolves (t.onContinuation label call).2.world := by
  unfold onContinuation
  split
  · revert hcall
    rcases call.runIn t.world with ⟨e | b, w⟩
    · exact fun hcall => hcall
    · exact fun hcall => hcall
  · exact .refl ht

theorem startUp_evolves (ht : t.world.Grounded) : t.world.Evolves t.startUp.world := by
  unfold startUp
  split
  · exact .log ht logger (.silent rfl rfl)
  · exact .refl ht
  · exact .refl ht

theorem shutDown_evolves (ht : t.world.Grounded) : t.world.Evolves t.shutDown.world := by
  unfold shutDown
  split
  · have hoff : t.world.Evolves { t.world with exporting := false } :=
      .aside (ht.aside ht.sound (Nat.le_refl _) rfl rfl) rfl rfl rfl rfl rfl rfl
    exact hoff.trans (.log hoff.grounded logger (.silent rfl rfl))
  · exact .refl ht
  · exact .refl ht

-- A lifespan holds further steps, so that steps and lists of steps are followed together.
mutual

theorem step_evolves (hs : ∀ e, (endpoints e).Evolves n) :
    ∀ (step : ServiceStep ε) (t : ServiceSession ε), t.world.Grounded →
      n ≤ t.world.spans.length → step.NamesBelow n →
      t.world.Evolves (t.step endpoints step).2.world
  | .request r, t, ht, hn, hr => by
    unfold step
    exact serve_evolves hs ht hn hr
  | .socket path attributes, t, ht, hn, hm => by
    unfold step
    exact .setAttributes ht hn hm _
  | .complete label status failure, t, ht, _, _ => by
    unfold step
    exact onContinuation_evolves ht label (Continuation.complete_evolves ht label status failure)
  | .abandonAsync label, t, ht, _, _ => by
    unfold step
    exact onContinuation_evolves ht label (Continuation.abandon_evolves ht label)
  | .addRoutes routes, t, ht, _, _ => by
    unfold step
    split
    · exact .refl ht
    · exact .refl ht
  | .lifespan steps, t, ht, hn, hsteps => by
    unfold step
    have hup := startUp_evolves ht
    have hrun := hup.trans (run_evolves hs steps t.startUp hup.grounded
      (Nat.le_trans hn hup.length_le) hsteps)
    exact hrun.trans (shutDown_evolves hrun.grounded)

/-- A session evolves its world with all that happens in it. -/
theorem run_evolves (hs : ∀ e, (endpoints e).Evolves n) :
    ∀ (steps : List (ServiceStep ε)) (t : ServiceSession ε), t.world.Grounded →
      n ≤ t.world.spans.length → ServiceStep.AllNameBelow n steps →
      t.world.Evolves (t.run endpoints steps).2.world
  | [], t, ht, _, _ => by
    unfold run
    exact .refl ht
  | step :: rest, t, ht, hn, hsteps => by
    unfold run
    have hstep := step_evolves hs step t ht hn hsteps.1
    exact hstep.trans (run_evolves hs rest _ hstep.grounded (Nat.le_trans hn hstep.length_le)
      hsteps.2)

end

end ServiceSession

end SpanLifecycle
