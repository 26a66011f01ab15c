import SpanLifecycle.Span.Basic
import Mathlib.Data.List.Dedup
import Mathlib.Data.List.DropRight

/-!
# The newest tags of a span

A span keeps every tag that is set on it, in a map that grows without bound, and of the attributes of
the same names only the newest, in a map that moves a key to its end when it is set again and forgets
the oldest one when it is full.  However often which keys are set, the second map can be read off the
first one and the order of the settings: it holds the entries of the keys that were set last
(`record_entries`), and as long as there are not too many keys, all of them
(`entries_newestKeys_perm`).
-/

namespace SpanLifecycle

/-! ## Lists without repetition -/

section

variable {κ : Type} [DecidableEq κ]

/-- What is added to a list is its newest member, whether or not it was one before. -/
theorem dedup_concat (keys : List κ) (k : κ) :
    (keys ++ [k]).dedup = keys.dedup.filter (· ≠ k) ++ [k] := by
  induction keys with
  | nil => simp
  | cons k' rest ih =>
    rw [List.cons_append, List.dedup_cons, List.dedup_cons, ih]
    by_cases hk : k' = k
    · subst hk
      by_cases hmem : k' ∈ rest <;> simp [hmem]
    · by_cases hmem : k' ∈ rest <;> simp [hmem, hk]

/-- Of the newest members, one that is removed makes room for an older one, if it was among them. -/
theorem rtake_filter_ne {keys : List κ} (h : keys.Nodup) (k : κ) (n : Nat) :
    (keys.filter (· ≠ k)).rtake n =
      if k ∈ keys.rtake (n + 1) then (keys.rtake (n + 1)).filter (· ≠ k) else keys.rtake n := by
  induction keys using List.reverseRecOn generalizing n with
  | nil => simp
  | append_singleton rest a ih =>
    obtain ⟨hrest, -, hfresh⟩ := List.nodup_append.mp h
    rw [List.filter_append, List.rtake_concat_succ, List.filter_append]
    by_cases ha : a = k
    · subst ha
      have hall : ∀ l ⊆ rest, l.filter (· ≠ a) = l := fun l hl =>
        List.filter_eq_self.mpr fun x hx =>
          decide_eq_true (hfresh x (hl hx) a (List.mem_singleton_self a))
      have hlast : [a].filter (· ≠ a) = [] := by simp
      rw [if_pos (by simp), hlast, List.append_nil, List.append_nil,
        hall rest (List.Subset.refl _), hall (rest.rtake n) (List.drop_subset _ _)]
    · have hlast : [a].filter (· ≠ k) = [a] := by simp [ha]
      rw [hlast]
      cases n with
      | zero => simp [Ne.symm ha]
      | succ m =>
        rw [List.rtake_concat_succ, List.rtake_concat_succ, ih hrest m]
        by_cases hk : k ∈ rest.rtake (m + 1)
        · simp [hk]
        · simp [hk, Ne.symm ha]

omit [DecidableEq κ] in
/-- Room for one more member is made by dropping the oldest one, if there is no room yet. -/
theorem rtake_room (keys : List κ) (n : Nat) :
    (if (keys.rtake (n + 1)).length < n + 1 then keys.rtake (n + 1)
      else (keys.rtake (n + 1)).drop 1) = keys.rtake n := by
  unfold List.rtake
  rw [List.length_drop, List.drop_drop]
  split
  · rw [show keys.length - (n + 1) = 0 by omega, show keys.length - n = 0 by omega]
  · rw [show keys.length - (n + 1) + 1 = keys.length - n by omega]

end

/-! ## Entries of a map -/

namespace Mapping

variable {κ α : Type} [DecidableEq κ]

/-- The entries of a map under given keys, in the order of the keys. -/
def entries (m : Mapping κ α) (keys : List κ) : Mapping κ α :=
  keys.filterMap fun k => (m.get? k).map fun v => (k, v)

variable {m : Mapping κ α} {keys : List κ} {k : κ}

theorem mem_entries {e : κ × α} : e ∈ m.entries keys ↔ e.1 ∈ keys ∧ m.get? e.1 = some e.2 := by
  obtain ⟨k, v⟩ := e
  simp [entries]

theorem get?_entries (m : Mapping κ α) (keys : List κ) (k : κ) :
    get? (m.entries keys) k = if k ∈ keys then m.get? k else none := by
  induction keys with
  | nil => rfl
  | cons k' rest ih =>
    unfold entries at ih ⊢
    cases hget : m.get? k' with
    | none =>
      rw [List.filterMap_cons_none (by simp [hget]), ih]
      by_cases hk : k = k'
      · simp [hk, hget]
      · simp [hk]
    | some v =>
      rw [List.filterMap_cons_some (by simp [hget]; rfl)]
      by_cases hk : k' = k
      · simp [get?, ← hk, hget]
      · simp [get?, hk, Ne.symm hk, ih]

theorem erase_entries (m : Mapping κ α) (keys : List κ) (k : κ) :
    erase (m.entries keys) k = m.entries (keys.filter (· ≠ k)) := by
  induction keys with
  | nil => rfl
  | cons k' rest ih =>
    unfold entries at ih ⊢
    cases hget : m.get? k' with
    | none =>
      rw [List.filterMap_cons_none (by simp [hget]), ih]
      by_cases hk : k' = k
      · simp [hk]
      · simp [hk, hget]
    | some v =>
      rw [List.filterMap_cons_some (by simp [hget]; rfl)]
      by_cases hk : k' = k
      · simp [erase, hk, ih]
      · simp [erase, hk, hget, ih]

/-- A key that is set shows in the entries of no other keys. -/
theorem entries_set_of_notMem (hk : k ∉ keys) (v : α) :
    (m.set k v).entries keys = m.entries keys := by
  unfold entries
  refine List.filterMap_congr fun k' hk' => ?_
  have hne : k' ≠ k := fun h => hk (h ▸ hk')
  rw [get?_set, if_neg hne]

theorem entries_set_concat (hk : k ∉ keys) (v : α) :
    (m.set k v).entries (keys ++ [k]) = m.entries keys ++ [(k, v)] := by
  rw [← entries_set_of_notMem hk v]
  simp [entries, get?_set]

/-- All keys of a list have entries. -/
theorem length_entries (h : ∀ k ∈ keys, (m.get? k).isSome) :
    (m.entries keys).length = keys.length := by
  induction keys with
  | nil => rfl
  | cons k rest ih =>
    obtain ⟨v, hv⟩ := Option.isSome_iff_exists.mp (h k List.mem_cons_self)
    have hrest := ih fun k' hk' => h k' (List.mem_cons_of_mem k hk')
    unfold entries at hrest ⊢
    simp [hv, hrest]

theorem drop_one_entries (h : ∀ k ∈ keys, (m.get? k).isSome) :
    (m.entries keys).drop 1 = m.entries (keys.drop 1) := by
  cases keys with
  | nil => rfl
  | cons k rest =>
    obtain ⟨v, hv⟩ := Option.isSome_iff_exists.mp (h k List.mem_cons_self)
    simp [entries, hv]

/-! ## Maps that pairs were set in -/

theorem update_concat (m : Mapping κ α) (pairs : List (κ × α)) (e : κ × α) :
    m.update (pairs ++ [e]) = (m.update pairs).set e.1 e.2 := by
  simp [update]

/-- The keys of such a map are those of the pairs. -/
theorem isSome_get?_update {pairs : List (κ × α)} :
    (get? (update [] pairs) k).isSome ↔ k ∈ pairs.map (·.1) := by
  induction pairs using List.reverseRecOn with
  | nil => simp [update, get?]
  | append_singleton rest e ih =>
    rw [update_concat, get?_set, List.map_append, List.mem_append, ← ih]
    by_cases hk : k = e.1 <;> simp [hk]

theorem map_fst_set (m : Mapping κ α) (k : κ) (v : α) :
    (m.set k v).map (·.1) = if k ∈ m.map (·.1) then m.map (·.1) else m.map (·.1) ++ [k] := by
  induction m with
  | nil => simp [set]
  | cons entry rest ih =>
    obtain ⟨k', v'⟩ := entry
    by_cases hk : k' = k
    · simp [set, hk]
    · by_cases hmem : k ∈ rest.map (·.1)
      · rw [if_pos hmem] at ih
        simp [set, hk, ih, List.mem_cons_of_mem _ hmem]
      · rw [if_neg hmem] at ih
        have hnot : k ∉ k' :: rest.map (·.1) := by simp [hmem, Ne.symm hk]
        simp [set, hk, ih, hnot]

theorem nodup_update (pairs : List (κ × α)) : ((update [] pairs).map (·.1)).Nodup := by
  induction pairs using List.reverseRecOn with
  | nil => simp [update]
  | append_singleton rest e ih =>
    rw [update_concat, map_fst_set]
    split
    · exact ih
    · next hmem =>
      rw [← List.concat_eq_append]
      exact ih.concat hmem

/-- A map without repeated keys holds what can be looked up in it. -/
theorem mem_iff_get? (h : (m.map (·.1)).Nodup) (k : κ) (v : α) :
    (k, v) ∈ m ↔ m.get? k = some v := by
  induction m generalizing v with
  | nil => simp [get?]
  | cons entry rest ih =>
    obtain ⟨k', v'⟩ := entry
    obtain ⟨hfresh, hrest⟩ := List.nodup_cons.mp h
    have hmem := ih hrest
    by_cases hk : k' = k
    · subst hk
      have habsent : ∀ v, (k', v) ∉ rest := fun v hv =>
        hfresh (List.mem_map.mpr ⟨(k', v), hv, rfl⟩)
      simp [get?, habsent, eq_comm]
    · simp [get?, hk, Ne.symm hk, hmem]

theorem mem_map_fst_update {pairs : List (κ × α)} :
    k ∈ (update [] pairs).map (·.1) ↔ k ∈ pairs.map (·.1) := by
  have hget := mem_iff_get? (nodup_update pairs) k
  constructor
  · intro h
    obtain ⟨⟨_, v⟩, he, rfl⟩ := List.mem_map.mp h
    exact isSome_get?_update.mp (Option.isSome_of_eq_some ((hget v).mp he))
  · intro h
    obtain ⟨v, hv⟩ := Option.isSome_iff_exists.mp (isSome_get?_update.mpr h)
    exact List.mem_map.mpr ⟨(k, v), (hget v).mpr hv, rfl⟩

/-- The entries under some of the keys of a map, in any order, are those that are left when the map is
filtered for them. -/
theorem entries_perm {p : κ → Bool} (hm : (m.map (·.1)).Nodup) (hkeys : keys.Nodup)
    (h : ∀ k, k ∈ keys ↔ k ∈ m.map (·.1) ∧ p k = true) :
    (m.entries keys).Perm (m.filter fun e => p e.1) := by
  have hentries : (m.entries keys).Nodup := by
    refine hkeys.filterMap fun k k' e hk hk' => ?_
    obtain ⟨v, -, rfl⟩ := Option.map_eq_some_iff.mp hk
    obtain ⟨v', -, he⟩ := Option.map_eq_some_iff.mp hk'
    exact (congrArg Prod.fst he).symm
  rw [List.perm_ext_iff_of_nodup hentries (hm.of_map.filter _)]
  rintro ⟨k, v⟩
  rw [mem_entries, List.mem_filter, mem_iff_get? hm, h]
  constructor
  · rintro ⟨⟨-, hp⟩, hget⟩
    exact ⟨hget, hp⟩
  · rintro ⟨hget, hp⟩
    exact ⟨⟨List.mem_map_of_mem ((mem_iff_get? hm k v).mpr hget), hp⟩, hget⟩

end Mapping

/-! ## Attributes -/

namespace SpanAttributes

/-- The keys that attributes were set under, by a list of settings, each where it was set last.  The
empty key does not count. -/
def keysOf (settings : List (String × String)) : List String :=
  ((settings.map (·.1)).filter (· ≠ "")).dedup

/-- The newest of these keys, oldest first, as many as a span keeps. -/
def newestKeys (settings : List (String × String)) : List String :=
  (keysOf settings).rtake limit

variable {settings : List (String × String)}

theorem keysOf_nodup (settings : List (String × String)) : (keysOf settings).Nodup :=
  List.nodup_dedup _

theorem mem_keysOf {k : String} : k ∈ keysOf settings ↔ k ∈ settings.map (·.1) ∧ k ≠ "" := by
  simp [keysOf]

theorem newestKeys_subset (settings : List (String × String)) :
    newestKeys settings ⊆ keysOf settings := List.drop_subset _ _

theorem newestKeys_concat_empty (value : String) :
    newestKeys (settings ++ [("", value)]) = newestKeys settings := by
  simp [newestKeys, keysOf]

theorem keysOf_concat {key : String} (hkey : key ≠ "") (value : String) :
    keysOf (settings ++ [(key, value)]) = (keysOf settings).filter (· ≠ key) ++ [key] := by
  unfold keysOf
  rw [List.map_append, List.filter_append, ← dedup_concat]
  simp [hkey]

/-- A key that is set becomes the newest one; if it is another one than those that there are, and they
are as many as a span keeps, then the oldest one goes. -/
theorem newestKeys_concat {key : String} (hkey : key ≠ "") (value : String) :
    newestKeys (settings ++ [(key, value)]) =
      (if key ∈ newestKeys settings then (newestKeys settings).filter (· ≠ key)
        else if (newestKeys settings).length < limit then newestKeys settings
        else (newestKeys settings).drop 1) ++ [key] := by
  unfold newestKeys
  rw [keysOf_concat hkey, show limit = 127 + 1 from rfl, List.rtake_concat_succ,
    rtake_filter_ne (keysOf_nodup settings), rtake_room]

/-- Setting an attribute keeps in step with setting a tag: what the attributes are of the tags, the
entries of the newest keys, they still are afterwards. -/
theorem record_entries (settings : List (String × String)) (key value : String) :
    record ((Mapping.update [] settings).entries (newestKeys settings)) key value =
      (Mapping.update [] (settings ++ [(key, value)])).entries
        (newestKeys (settings ++ [(key, value)])) := by
  rw [Mapping.update_concat]
  have hset : ∀ k ∈ newestKeys settings, ((Mapping.update [] settings).get? k).isSome :=
    fun k hk => Mapping.isSome_get?_update.mpr
      (mem_keysOf.mp (newestKeys_subset settings hk)).1
  unfold record
  by_cases hkey : key = ""
  · subst hkey
    have hempty : "" ∉ newestKeys settings := fun h =>
      (mem_keysOf.mp (newestKeys_subset settings h)).2 rfl
    rw [if_pos rfl, newestKeys_concat_empty]
    exact (Mapping.entries_set_of_notMem hempty value).symm
  · rw [if_neg hkey, newestKeys_concat hkey]
    by_cases hmem : key ∈ newestKeys settings
    · have hhas : Mapping.has ((Mapping.update [] settings).entries (newestKeys settings)) key := by
        rw [Mapping.has, Mapping.get?_entries, if_pos hmem]
        exact hset key hmem
      rw [if_pos hhas, if_pos hmem, Mapping.entries_set_concat (by simp), Mapping.erase_entries]
    · have hhas : ¬Mapping.has ((Mapping.update [] settings).entries (newestKeys settings)) key := by
        rw [Mapping.has, Mapping.get?_entries, if_neg hmem]
        exact Bool.false_ne_true
      rw [if_neg hhas, if_neg hmem]
      unfold makeRoom
      rw [Mapping.length_entries hset]
      split
      · rw [Mapping.entries_set_concat hmem]
      · rw [Mapping.entries_set_concat fun h => hmem (List.mem_of_mem_drop h),
          Mapping.drop_one_entries hset]

/-- As long as there are not more keys than a span keeps attributes of, all tags but one under the empty
key are among the attributes. -/
theorem entries_newestKeys_perm
    (h : ((Mapping.update [] settings).filter (·.1 ≠ "")).length ≤ limit) :
    ((Mapping.update [] settings).entries (newestKeys settings)).Perm
      ((Mapping.update [] settings).filter (·.1 ≠ "")) := by
  have hkeys : ∀ k, k ∈ keysOf settings ↔
      k ∈ (Mapping.update [] settings).map (·.1) ∧ decide (k ≠ "") = true := fun k => by
    rw [mem_keysOf, Mapping.mem_map_fst_update, decide_eq_true_iff]
  have hperm := Mapping.entries_perm (p := fun k => k ≠ "") (Mapping.nodup_update settings)
    (keysOf_nodup settings) hkeys
  have hset : ∀ k ∈ keysOf settings, ((Mapping.update [] settings).get? k).isSome :=
    fun k hk => Mapping.isSome_get?_update.mpr (mem_keysOf.mp hk).1
  have hlength : (keysOf settings).length ≤ limit := by
    rw [← Mapping.length_entries hset, hperm.length_eq]
    exact h
  have hall : newestKeys settings = keysOf settings := by
    unfold newestKeys List.rtake
    rw [Nat.sub_eq_zero_of_le hlength, List.drop_zero]
  rw [hall]
  exact hperm

end SpanAttributes

end SpanLifecycle
