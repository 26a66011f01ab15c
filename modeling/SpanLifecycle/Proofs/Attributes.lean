import SpanLifecycle.Request.Bookkeeping

/-!
# Reading the bookkeeping after a change

Every operation on a request's attributes stores under one of the known keys, or forgets one.  So
every reader is settled by what stands under its own key (`at?`), as a flag (`flag`) or as a state
(`inState`), and a change elsewhere does not matter to it.
-/

namespace SpanLifecycle

/-- What is present is what is stored. -/
theorem Attribute.of_present? {a : Option Attribute} {x : Attribute}
    (h : Attribute.present? a = some x) : a = some x := by
  unfold Attribute.present? at h
  split at h
  · cases h
  · exact h

namespace Attributes

variable (m : Attributes)

theorem name_eq_iff (k k' : Key) : k'.name = k.name ↔ k' = k :=
  ⟨Key.name_injective k' k, fun h => by rw [h]⟩

theorem at?_set (key : String) (a : Attribute) (k : Key) :
    at? (Mapping.set m key a) k = if k.name = key then some a else m.at? k := by
  unfold at?
  rw [Mapping.get?_set]

theorem at?_erase (key : String) (k : Key) :
    at? (Mapping.erase m key) k = if k.name = key then none else m.at? k := by
  unfold at?
  rw [Mapping.get?_erase]

@[simp] theorem at?_put (k k' : Key) (a : Attribute) :
    (m.put k a).at? k' = if k' = k then some a else m.at? k' := by
  unfold at? put
  rw [Mapping.get?_set]
  simp only [name_eq_iff]

@[simp] theorem at?_drop (k k' : Key) :
    (m.drop k).at? k' = if k' = k then none else m.at? k' := by
  unfold at? drop
  rw [Mapping.get?_erase]
  simp only [name_eq_iff]

@[simp] theorem flag_put (k k' : Key) (a : Attribute) :
    (m.put k a).flag k' = if k' = k then a.truthy else m.flag k' := by
  unfold flag
  rw [at?_put]
  by_cases h : k' = k
  · simp only [h, if_true]
  · simp only [h, if_false]

@[simp] theorem flag_drop (k k' : Key) :
    (m.drop k).flag k' = if k' = k then false else m.flag k' := by
  unfold flag
  rw [at?_drop]
  by_cases h : k' = k
  · simp only [h, if_true]
  · simp only [h, if_false]

/-- What is stored reads as a state if it is one. -/
@[simp] theorem inState_put (k : Key) (a : Attribute) (s : RequestState) :
    (m.put k a).inState s =
      if k = .requestState then (match a with | .state t => decide (t = s) | _ => false)
      else m.inState s := by
  unfold inState requestState
  rw [at?_put]
  by_cases h : k = .requestState
  · subst h
    cases a <;> rfl
  · rw [if_neg (Ne.symm h), if_neg h]

/-- A request whose state is forgotten reads as fresh. -/
@[simp] theorem inState_drop (k : Key) (s : RequestState) :
    (m.drop k).inState s =
      if k = .requestState then decide (RequestState.fresh = s) else m.inState s := by
  unfold inState requestState
  rw [at?_drop]
  by_cases h : k = .requestState
  · rw [if_pos h.symm, if_pos h]
    rfl
  · rw [if_neg (Ne.symm h), if_neg h]

attribute [simp] activeSpan setActiveSpan clearActiveSpan raiseFlag shouldClose
  isSpanWithoutParent isAlreadyFinalized isErrorSpanReported isAsyncStarted isErrorHandled
  isSpanContinued markErrorHandled pendingException setPendingException takePendingException

theorem markErrorHandled_activeSpan : m.markErrorHandled.activeSpan = m.activeSpan := by
  simp

theorem markSpanContinued_activeSpan : m.markSpanContinued.activeSpan = m.activeSpan := by
  unfold markSpanContinued
  split <;> simp

theorem markSpanContinued_isAsyncStarted :
    m.markSpanContinued.isAsyncStarted = m.isAsyncStarted := by
  unfold markSpanContinued
  split <;> simp

/-! ## Handled requests -/

/-- The state of a handled request stands in the mapping. -/
theorem at?_of_isErrorHandled {m : Attributes} (h : m.isErrorHandled = true) :
    m.at? .requestState = some (.state .errorHandled) := by
  unfold isErrorHandled inState requestState at h
  cases ha : m.at? .requestState with
  | none =>
    rw [ha] at h
    cases h
  | some a =>
    rw [ha] at h
    cases a with
    | state s => rw [of_decide_eq_true h]
    | _ => cases h

/-- A further pass does not take a handled request back. -/
theorem markSpanContinued_of_isErrorHandled {m : Attributes} (h : m.isErrorHandled = true) :
    m.markSpanContinued = m := by
  have hfresh : m.inState .fresh = false := by
    unfold inState requestState
    rw [at?_of_isErrorHandled h]
    rfl
  unfold markSpanContinued
  rw [hfresh, if_neg Bool.false_ne_true]

/-! ## Requests without any bookkeeping -/

/-- Nothing stands under any of the known keys; foreign entries there may be. -/
def IsUntraced : Prop := ∀ k, m.at? k = none

variable {m}

theorem IsUntraced.inactive (h : m.IsUntraced) : Attribute.present? m.activeSpan = none := by
  rw [show m.activeSpan = none from h .activeSpan]
  rfl

theorem IsUntraced.flag (h : m.IsUntraced) (k : Key) : m.flag k = false := by
  unfold Attributes.flag
  rw [h k]

theorem IsUntraced.inState (h : m.IsUntraced) (s : RequestState) :
    m.inState s = decide (RequestState.fresh = s) := by
  unfold Attributes.inState Attributes.requestState
  rw [h .requestState]
  rfl

end Attributes

end SpanLifecycle
