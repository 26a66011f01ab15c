import Mathlib.Data.List.TakeWhile
import SpanLifecycle.Http.Redispatch

/-!
# The calls of a re-dispatch

A request is handed to the inner application once, or twice if the first call failed before a
response was started and the application has a route for the error path.  `Redispatch` says what
the second call is given and what is made of the calls, and `redispatching_calls` that there are no
others.

An error path with a character beyond one byte cannot be written into the scope of a second call,
which then is not made: `again_encodable` and `again_unencodable`.
-/

namespace SpanLifecycle

/-! ## Error paths as bytes -/

namespace Latin1

/-- A text has bytes if all of its characters fit into one. -/
theorem encode_ok {s : String} (h : ∀ c ∈ s.toList, fits c = true) :
    encode s = .ok (s.toList.map fun c => c.toNat.toUInt8) := by
  have hall : s.toList.takeWhile fits = s.toList := List.takeWhile_eq_self_iff.mpr h
  unfold encode
  simp only [hall, List.drop_length, List.takeWhile_nil, List.isEmpty_nil, if_true]

/-- A text with a character that does not fit has none. -/
theorem encode_error {s : String} (h : ¬ ∀ c ∈ s.toList, fits c = true) :
    ∃ e, encode s = .error e ∧ e.kind = .unicodeEncode := by
  have hrest : s.toList.drop (s.toList.takeWhile fits).length = s.toList.dropWhile fits := by
    have hsplit : s.toList = s.toList.takeWhile fits ++ s.toList.dropWhile fits :=
      List.takeWhile_append_dropWhile.symm
    have hdrop := congrArg (List.drop (s.toList.takeWhile fits).length) hsplit
    rwa [List.drop_left] at hdrop
  unfold encode
  dsimp only
  rw [hrest]
  cases hdrop : s.toList.dropWhile fits with
  | nil => exact absurd (List.dropWhile_eq_nil_iff.mp hdrop) h
  | cons c rest =>
    have hc : fits c = false := by
      have hhead := List.head?_dropWhile_not fits s.toList
      rw [hdrop] at hhead
      exact hhead
    simp only [hc, Bool.not_false, List.takeWhile_cons, if_true, List.isEmpty_cons,
      Bool.false_eq_true, if_false]
    exact ⟨_, rfl, rfl⟩

end Latin1

/-! ## Calls -/

/-- One call of an application: what it was given, and how it ended. -/
structure HttpCall where
  scope : HttpScope
  world : World
  done : HttpEnd

namespace HttpApp

/-- The call of an application on a scope in a world. -/
def callOn (app : HttpApp) (s : HttpScope) (w : World) : HttpCall :=
  { scope := s, world := w, done := app s w }

/-- The first call of a request, whose attributes are there unless it is an error pass already. -/
def firstCall (app : HttpApp) (s : HttpScope) (w : World) : HttpCall :=
  app.callOn s (if s.error.isSome then w else w.openRequest s.request)

/-- The request of a first call is to be called again: it was no error pass, an exception escaped
from it before a response was started, and the error path is served. -/
structure IsFollowed (errorPath : String) (s : HttpScope) (first : HttpEnd) : Prop where
  unmarked : s.error = none
  unanswered : Message.statuses first.sent = []
  raised : ∃ e, first.raised = some e ∧ e.isOrdinary = true
  serves : first.scope.serves errorPath = .ok true

end HttpApp

/-- How a request ended that was called once, or once again on the error path. -/
structure Redispatch (errorPath : String) (rawPath : List UInt8) (inner : HttpApp) (s : HttpScope)
    (first : HttpCall) (again? : Option HttpCall) (done : HttpEnd) : Prop where
  /-- There is a second call exactly if the first one is followed. -/
  followed : again?.isSome ↔ HttpApp.IsFollowed errorPath s first.done
  /-- The second call is given the scope as the first one left it, but for the error path, the marks
  of the error pass and the three keys that routing has written; whatever else the scope carries is
  there, in its order.  It is given the world as the first one left it, but for the log. -/
  second : ∀ again, again? = some again → ∃ e, first.done.raised = some e ∧
    again = inner.callOn
      { first.done.scope with
        path := errorPath
        rawPath
        query := ""
        error := some { status := 500, fault := some e, failedPath := some first.done.scope.path }
        further := first.done.scope.further.filter
          (·.1 ∉ ["endpoint", "route", "path_params"]) }
      (first.done.world.log HttpApp.redispatchLogger
        (HttpApp.redispatchEvent first.done.scope errorPath e))
  /-- What was sent is what the calls sent, one after the other. -/
  sent : done.sent = (first :: again?.toList).flatMap fun call => call.done.sent
  /-- No more than one response is started if no call starts more than one. -/
  answeredOnce : (∀ call ∈ first :: again?.toList, (Message.statuses call.done.sent).length ≤ 1) →
    (Message.statuses done.sent).length ≤ 1
  world : done.world = (again?.getD first).done.world
  scope : done.scope = first.done.scope
  /-- The exception of the last call passes, unless it could not be told whether the error path is
  served. -/
  raised : (s.error = none → first.done.failure?.isSome →
      ∃ b, first.done.scope.serves errorPath = .ok b) →
    done.raised = (again?.getD first).done.raised
  /-- If it could not be told, what the lookup raised takes the place of the request's failure. -/
  unknown : ∀ e, s.error = none → first.done.failure?.isSome →
    first.done.scope.serves errorPath = .error e → done.raised = some e

namespace HttpApp

variable {errorPath : String} {rawPath : List UInt8} {inner : HttpApp} {s : HttpScope} {w : World}

/-! ## The ways of a request -/

theorem failure?_eq_some {done : HttpEnd} {e : Fault} :
    done.failure? = some e ↔
      Message.statuses done.sent = [] ∧ done.raised = some e ∧ e.isOrdinary = true := by
  unfold HttpEnd.failure? HttpEnd.started?
  cases done.raised with
  | none => simp
  | some f =>
    cases Message.statuses done.sent with
    | cons status rest => simp
    | nil =>
      simp only [List.head?_nil, true_and, Option.some.injEq]
      constructor
      · intro h
        split at h
        · cases h
          exact ⟨rfl, ‹_›⟩
        · cases h
      · rintro ⟨rfl, h⟩
        rw [if_pos h]

theorem isFollowed_iff {first : HttpEnd} :
    IsFollowed errorPath s first ↔
      s.error = none ∧ first.failure?.isSome ∧ first.scope.serves errorPath = .ok true := by
  constructor
  · rintro ⟨hs, hsent, ⟨e, he, ho⟩, hserves⟩
    rw [failure?_eq_some.mpr ⟨hsent, he, ho⟩]
    exact ⟨hs, rfl, hserves⟩
  · rintro ⟨hs, hf, hserves⟩
    obtain ⟨e, he⟩ := Option.isSome_iff_exists.mp hf
    obtain ⟨hsent, hraised, ho⟩ := failure?_eq_some.mp he
    exact ⟨hs, hsent, ⟨e, hraised, ho⟩, hserves⟩

/-- What becomes of a request after its first call. -/
def followUp (errorPath : String) (inner : HttpApp) (s : HttpScope) (first : HttpEnd) : HttpEnd :=
  if s.error.isSome then first
  else
    match first.failure? with
    | none => first
    | some e =>
      match first.scope.serves errorPath with
      | .error f => { first with raised := some f }
      | .ok false => first
      | .ok true => again errorPath inner first e

theorem redispatching_eq (inner : HttpApp) (s : HttpScope) (w : World) :
    inner.redispatching errorPath s w =
      inner.followUp errorPath s (inner.firstCall s w).done := by
  unfold redispatching followUp firstCall callOn
  split <;> rfl

/-- A request that failed is followed up where the error path is served. -/
theorem redispatching_failed {e : Fault} (hs : s.error = none)
    (hf : (inner s (w.openRequest s.request)).failure? = some e)
    (hserves : (inner s (w.openRequest s.request)).scope.serves errorPath = .ok true) :
    inner.redispatching errorPath s w =
      again errorPath inner (inner s (w.openRequest s.request)) e := by
  rw [redispatching_eq]
  unfold followUp firstCall callOn
  simp only [hs, Option.isSome_none, Bool.false_eq_true, if_false, hf, hserves]

/-- On an error path that has bytes, the application is called again. -/
theorem again_encodable (hpath : Latin1.encode errorPath = .ok rawPath) (first : HttpEnd)
    (e : Fault) :
    again errorPath inner first e =
      let last := inner (first.scope.toErrorPass errorPath rawPath e)
        (first.world.log redispatchLogger (redispatchEvent first.scope errorPath e))
      { last with scope := first.scope, sent := first.sent ++ last.sent } := by
  unfold again
  rw [hpath]

/-- On an error path without bytes it is not: the failure to write the path takes the place of the
request's. -/
theorem again_unencodable {f : Fault} (hpath : Latin1.encode errorPath = .error f)
    (first : HttpEnd) (e : Fault) :
    again errorPath inner first e =
      { first with
        world := first.world.log redispatchLogger (redispatchEvent first.scope errorPath e)
        raised := some f } := by
  unfold again
  rw [hpath]

/-! ## What is made of the calls -/

/-- A request that is called once ends as that call did. -/
theorem redispatch_once {first : HttpCall} (h : ¬ IsFollowed errorPath s first.done)
    (hknown : ∀ e, s.error = none → first.done.failure?.isSome →
      first.done.scope.serves errorPath ≠ .error e) :
    Redispatch errorPath rawPath inner s first none first.done where
  followed := by simpa using h
  second again h := absurd h.symm (Option.some_ne_none again)
  sent := by simp
  answeredOnce hstarts := hstarts first (List.mem_cons_self ..)
  world := rfl
  scope := rfl
  raised _ := rfl
  unknown e hs hf he := absurd he (hknown e hs hf)

/-- So does one of which it could not be told whether to call it again, but for the exception. -/
theorem redispatch_unknown {first : HttpCall} {f : Fault} (hs : s.error = none)
    (hf : first.done.failure?.isSome) (hserves : first.done.scope.serves errorPath = .error f) :
    Redispatch errorPath rawPath inner s first none { first.done with raised := some f } where
  followed := by
    have h : ¬ IsFollowed errorPath s first.done := by
      intro h
      have htrue := h.serves
      rw [hserves] at htrue
      cases htrue
    simpa using h
  second again h := absurd h.symm (Option.some_ne_none again)
  sent := by simp
  answeredOnce hstarts := hstarts first (List.mem_cons_self ..)
  world := rfl
  scope := rfl
  raised hknown := by
    obtain ⟨b, hb⟩ := hknown hs hf
    rw [hserves] at hb
    cases hb
  unknown e _ _ he := by
    rw [hserves] at he
    cases he
    rfl

/-- The second call of a request. -/
def secondCall (errorPath : String) (rawPath : List UInt8) (inner : HttpApp) (first : HttpEnd)
    (e : Fault) : HttpCall :=
  inner.callOn (first.scope.toErrorPass errorPath rawPath e)
    (first.world.log redispatchLogger (redispatchEvent first.scope errorPath e))

/-- A request that is called twice ends as its second call did, behind what the first one sent. -/
theorem redispatch_twice {first : HttpCall} {e : Fault} (hs : s.error = none)
    (hpath : Latin1.encode errorPath = .ok rawPath) (hf : first.done.failure? = some e)
    (hserves : first.done.scope.serves errorPath = .ok true) :
    Redispatch errorPath rawPath inner s first
      (some (inner.secondCall errorPath rawPath first.done e))
      (again errorPath inner first.done e) := by
  obtain ⟨hunanswered, hraised, -⟩ := failure?_eq_some.mp hf
  have hfailed : first.done.failure?.isSome := by rw [hf]; rfl
  have hfollowed : IsFollowed errorPath s first.done := isFollowed_iff.mpr ⟨hs, hfailed, hserves⟩
  rw [again_encodable hpath]
  generalize hsecond : inner.secondCall errorPath rawPath first.done e = second
  have hlast : inner (first.done.scope.toErrorPass errorPath rawPath e)
      (first.done.world.log redispatchLogger (redispatchEvent first.done.scope errorPath e)) =
      second.done := hsecond ▸ rfl
  rw [hlast]
  refine
    { followed := by simpa using hfollowed
      second := ?_, sent := by simp, answeredOnce := ?_, world := rfl, scope := rfl
      raised := fun _ => rfl, unknown := ?_ }
  · intro call h
    cases h
    exact ⟨e, hraised, hsecond.symm⟩
  · intro hstarts
    have hone := hstarts second (List.mem_cons_of_mem first (List.mem_singleton_self _))
    unfold Message.statuses at hunanswered hone ⊢
    rw [List.filterMap_append, hunanswered, List.nil_append]
    exact hone
  · intro f _ _ h
    rw [hserves] at h
    cases h

/-- What follows a first call is a second one or nothing, and hangs on the application only in the
second call. -/
theorem redispatch_after (hpath : Latin1.encode errorPath = .ok rawPath) (inner : HttpApp)
    (s : HttpScope) (first : HttpCall) :
    ∃ again?, Redispatch errorPath rawPath inner s first again?
        (inner.followUp errorPath s first.done) ∧
      ∀ app : HttpApp, (∀ call ∈ again?.toList, app call.scope call.world = call.done) →
        app.followUp errorPath s first.done = inner.followUp errorPath s first.done := by
  unfold followUp
  cases hs : s.error with
  | some mark =>
    have hmarked : s.error ≠ none := by
      rw [hs]
      exact Option.some_ne_none mark
    refine ⟨none, ?_, fun app _ => rfl⟩
    exact redispatch_once (fun h => hmarked h.unmarked) fun e h => absurd h hmarked
  | none =>
    simp only [Option.isSome_none, Bool.false_eq_true, if_false]
    cases hf : first.done.failure? with
    | none =>
      have hspared : ¬ first.done.failure?.isSome := by simp [hf]
      refine ⟨none, ?_, fun app _ => rfl⟩
      exact redispatch_once (fun h => hspared (isFollowed_iff.mp h).2.1)
        fun e _ h => absurd h hspared
    | some e =>
      have hfailed : first.done.failure?.isSome := by rw [hf]; rfl
      dsimp only
      cases hserves : first.done.scope.serves errorPath with
      | error f => exact ⟨none, redispatch_unknown hs hfailed hserves, fun app _ => rfl⟩
      | ok served =>
        cases served with
        | false =>
          refine ⟨none, redispatch_once ?_ ?_, fun app _ => rfl⟩
          · intro h
            have htrue := h.serves
            rw [hserves] at htrue
            cases htrue
          · intro f _ _ h
            rw [hserves] at h
            cases h
        | true =>
          refine ⟨_, redispatch_twice hs hpath hf hserves, fun app happ => ?_⟩
          have hagain := happ _ (List.mem_singleton_self _)
          show again errorPath app first.done e = again errorPath inner first.done e
          rw [again_encodable hpath, again_encodable hpath]
          exact congrArg (fun last : HttpEnd =>
            ({ last with
              scope := first.done.scope
              sent := first.done.sent ++ last.sent } : HttpEnd)) hagain

/-- Re-dispatching makes one call of the inner application, or two.  Nothing hangs on what the
application would do if it were called otherwise: another one that ends these calls in the same way
is served in the same way. -/
theorem redispatching_calls (hpath : Latin1.encode errorPath = .ok rawPath) (inner : HttpApp)
    (s : HttpScope) (w : World) :
    let first := inner.firstCall s w
    ∃ again?, Redispatch errorPath rawPath inner s first again?
        (inner.redispatching errorPath s w) ∧
      ∀ app : HttpApp, (∀ call ∈ first :: again?.toList, app call.scope call.world = call.done) →
        app.redispatching errorPath s w = inner.redispatching errorPath s w := by
  intro first
  obtain ⟨again?, h, hagain⟩ := redispatch_after hpath inner s first
  refine ⟨again?, by rw [redispatching_eq]; exact h, fun app happ => ?_⟩
  have hfirst : (app.firstCall s w).done = first.done := happ first (List.mem_cons_self ..)
  rw [redispatching_eq, redispatching_eq, hfirst]
  exact hagain app fun call hcall => happ call (List.mem_cons_of_mem first hcall)

/-- An application that fails everywhere but on its error page, which shows what it is told. -/
def failingOnce : HttpApp := fun scope world =>
  match scope.error with
  | none => { world, scope, raised := some { kind := .valueError, message := some "boom" } }
  | some mark =>
    { world, scope, sent := Message.response mark.status (.text (mark.failedPath.getD "")) }

/-- A request to an application that serves no path but its error page.  The scope carries what
routing has found, and between that the name of the client. -/
def doomedScope : HttpScope :=
  { path := "/boom", request := .numbered 0, serves := fun path => .ok (path == "/error")
    further := [("path_params", .value (.object [])), ("client", .value (.text "test")),
      ("endpoint", .object "/boom"), ("route", .object "/boom")] }

theorem failingOnce_called_twice :
    ∃ first again, Redispatch "/error" [47, 101, 114, 114, 111, 114] failingOnce doomedScope first
        (some again) (failingOnce.redispatching "/error" doomedScope {}) ∧
      again.scope.path = "/error" ∧ again.scope.request = .numbered 0 ∧
      again.scope.further = [("client", .value (.text "test"))] ∧
      Message.statuses (failingOnce.redispatching "/error" doomedScope {}).sent = [500] := by
  have hpath : Latin1.encode "/error" = .ok [47, 101, 114, 114, 111, 114] := rfl
  obtain ⟨again?, h, -⟩ := redispatching_calls hpath failingOnce doomedScope {}
  have hfollowed : IsFollowed "/error" doomedScope (failingOnce.firstCall doomedScope {}).done :=
    ⟨rfl, rfl, ⟨_, rfl, rfl⟩, rfl⟩
  obtain ⟨again, rfl⟩ := Option.isSome_iff_exists.mp (h.followed.mpr hfollowed)
  obtain ⟨e, -, hagain⟩ := h.second again rfl
  refine ⟨_, again, h, ?_, ?_, ?_, rfl⟩
  · rw [hagain]
    rfl
  · rw [hagain]
    rfl
  · rw [hagain]
    rfl

end HttpApp

end SpanLifecycle
