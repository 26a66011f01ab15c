import SpanLifecycle.World

/-!
# Running computations

What a computation returns or raises and the world it leaves, one equation for each way to build
it.  With these, `simp` runs any straight computation on a world; where it branches, the branch is
settled first.
-/

namespace SpanLifecycle

namespace Act

variable {α β : Type}

@[simp] theorem runIn_pure (x : α) (w : World) : (pure x : Act α).runIn w = (.ok x, w) := rfl

@[simp] theorem runIn_throw (e : Fault) (w : World) :
    (throw e : Act α).runIn w = (.error e, w) := rfl

@[simp] theorem runIn_get (w : World) : (get : Act World).runIn w = (.ok w, w) := rfl

@[simp] theorem runIn_set (w w' : World) : (set w' : Act PUnit).runIn w = (.ok ⟨⟩, w') := rfl

@[simp] theorem runIn_modify (f : World → World) (w : World) :
    (modify f : Act PUnit).runIn w = (.ok ⟨⟩, f w) := rfl

/-- A second step runs in the world that the first one left, unless that one raised. -/
@[simp] theorem runIn_bind (a : Act α) (f : α → Act β) (w : World) :
    (a >>= f).runIn w =
      match a.runIn w with
      | (.ok x, w') => (f x).runIn w'
      | (.error e, w') => (.error e, w') := by
  have h : (a >>= f).runIn w = ExceptT.bindCont f (a.runIn w).1 (a.runIn w).2 := rfl
  rw [h]
  rcases a.runIn w with ⟨r | r, w'⟩ <;> rfl

@[simp] theorem runIn_map (g : α → β) (a : Act α) (w : World) :
    (g <$> a).runIn w =
      match a.runIn w with
      | (.ok x, w') => (.ok (g x), w')
      | (.error e, w') => (.error e, w') := by
  have h : (g <$> a).runIn w = (a >>= fun x => pure (g x)).runIn w := by
    rw [map_eq_pure_bind]
  rw [h, runIn_bind]
  rcases a.runIn w with ⟨r | r, w'⟩ <;> rfl

@[simp] theorem runIn_discard (a : Act α) (w : World) :
    (discard a).runIn w =
      match a.runIn w with
      | (.ok _, w') => (.ok ⟨⟩, w')
      | (.error e, w') => (.error e, w') := by
  have h : (discard a).runIn w = ((fun _ => PUnit.unit) <$> a).runIn w := rfl
  rw [h, runIn_map]

/-- A transitive relation holds of two steps if it holds of each. -/
theorem runIn_bind_rel {R : World → World → Prop} (hR : ∀ {u v w}, R u v → R v w → R u w)
    {a : Act α} {f : α → Act β} {w : World} (h : R w (a.runIn w).2)
    (g : ∀ x v, a.runIn w = (.ok x, v) → R w v → R v ((f x).runIn v).2) :
    R w ((a >>= f).runIn w).2 := by
  rw [runIn_bind]
  revert h g
  rcases a.runIn w with ⟨e | x, v⟩
  · intro h _
    exact h
  · intro h g
    exact hR h (g x v rfl h)

/-- A change that depends on a condition, before the rest. -/
theorem runIn_when {c : Prop} [Decidable c] (f : World → World) (a : Act α) (w : World) :
    (if c then (do modify f; a) else a).runIn w = a.runIn (if c then f w else w) := by
  by_cases h : c
  · rw [if_pos h, if_pos h, runIn_bind, runIn_modify]
  · rw [if_neg h, if_neg h]

end Act

end SpanLifecycle
