/-!
# Mappings

Finite maps as lists of pairs in insertion order.  Setting a present key replaces its value in
place, setting a new one appends it.  Looking a key up after a change is settled by `get?_set`
and `get?_erase`.
-/

namespace SpanLifecycle

/-- A finite map, in the order in which its keys were first set. -/
abbrev Mapping (κ : Type) (α : Type) := List (κ × α)

namespace Mapping

variable {κ α : Type} [DecidableEq κ]

/-- The value stored under a key. -/
def get? (m : Mapping κ α) (k : κ) : Option α :=
  match m with
  | [] => none
  | (k', v) :: rest => if k' = k then some v else get? rest k

/-- Stores a value under a key, in place if the key is present. -/
def set (m : Mapping κ α) (k : κ) (v : α) : Mapping κ α :=
  match m with
  | [] => [(k, v)]
  | (k', v') :: rest => if k' = k then (k, v) :: rest else (k', v') :: set rest k v

/-- Removes a key and its value. -/
def erase (m : Mapping κ α) (k : κ) : Mapping κ α :=
  match m with
  | [] => []
  | (k', v) :: rest => if k' = k then erase rest k else (k', v) :: erase rest k

/-- Whether a key is present. -/
def has (m : Mapping κ α) (k : κ) : Bool := (m.get? k).isSome

/-- Stores a value under a key that is absent, and leaves a present one alone. -/
def setDefault (m : Mapping κ α) (k : κ) (v : α) : Mapping κ α :=
  if m.has k then m else m.set k v

/-- All pairs of the second map set over the first, in order. -/
def update (m n : Mapping κ α) : Mapping κ α := n.foldl (fun acc entry => acc.set entry.1 entry.2) m

/-- The map that a list of pairs describes: of a repeated key the first value counts. -/
def ofPairs (pairs : List (κ × α)) : Mapping κ α :=
  pairs.foldl (fun m entry => setDefault m entry.1 entry.2) []

/-! ## Looking up after a change -/

theorem get?_set (m : Mapping κ α) (k k' : κ) (v : α) :
    (m.set k v).get? k' = if k' = k then some v else m.get? k' := by
  induction m with
  | nil => by_cases h : k = k' <;> simp [set, get?, h, eq_comm]
  | cons entry rest ih =>
    obtain ⟨k₀, v₀⟩ := entry
    by_cases h₀ : k₀ = k
    · subst h₀
      by_cases h : k' = k₀
      · simp [set, get?, h]
      · simp [set, get?, h, Ne.symm h]
    · by_cases h : k₀ = k'
      · subst h
        simp [set, get?, h₀]
      · simp [set, get?, h₀, h, ih]

/-- Storing the same twice is storing it once. -/
theorem set_set (m : Mapping κ α) (k : κ) (v : α) : (m.set k v).set k v = m.set k v := by
  induction m with
  | nil => simp [set]
  | cons entry rest ih =>
    obtain ⟨k₀, v₀⟩ := entry
    by_cases h : k₀ = k
    · simp [set, h]
    · simp [set, h, ih]

theorem get?_erase (m : Mapping κ α) (k k' : κ) :
    (m.erase k).get? k' = if k' = k then none else m.get? k' := by
  induction m with
  | nil => simp [erase, get?]
  | cons entry rest ih =>
    obtain ⟨k₀, v₀⟩ := entry
    by_cases h₀ : k₀ = k
    · subst h₀
      rw [erase, if_pos rfl, ih]
      by_cases h : k' = k₀
      · simp [h]
      · simp [h, get?, Ne.symm h]
    · by_cases h : k₀ = k'
      · subst h
        simp [erase, get?, h₀]
      · simp [erase, get?, h₀, h, ih]

end Mapping

end SpanLifecycle
