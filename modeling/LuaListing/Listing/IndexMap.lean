/-!
# Maps keyed by index

The rows of a symbol section are keyed by an integer index.  An `IndexMap` keeps them as a
list of pairs in increasing order of index, with one pair per index: a later row for an
index replaces the earlier one, and the pairs read in order are the sections sorted by
index.

## Main definitions

* `IndexMap`, `IndexMap.insert`, `IndexMap.get?`, `IndexMap.keys`, `IndexMap.values`.

## Main statements

* `IndexMap.get?_insert` — reading after a write: the written value at its index, the old
  value elsewhere.
* `IndexMap.sorted_insertSorted` — a write keeps the indices strictly increasing.
-/

namespace LuaListing

/-- Values keyed by integer index, kept in increasing order of index. -/
structure IndexMap (α : Type) where
  /-- The pairs. -/
  entries : List (Int × α) := []
  /-- The indices strictly increase, so each index has one pair. -/
  sorted : (entries.map (·.1)).Pairwise (· < ·) := by simp
  deriving DecidableEq, Repr

namespace IndexMap

variable {α : Type}

instance : Inhabited (IndexMap α) := ⟨{}⟩

/-- Put `(k, v)` into a list sorted by index, replacing the pair with index `k`. -/
def insertSorted (k : Int) (v : α) : List (Int × α) → List (Int × α)
  | [] => [(k, v)]
  | (k', v') :: rest =>
    if k < k' then (k, v) :: (k', v') :: rest
    else if k = k' then (k, v) :: rest
    else (k', v') :: insertSorted k v rest

/-- A pair of the list after putting `(k, v)` in is `(k, v)` or was there before. -/
theorem mem_insertSorted {k : Int} {v : α} {l : List (Int × α)} {p : Int × α}
    (h : p ∈ insertSorted k v l) : p = (k, v) ∨ p ∈ l := by
  induction l with
  | nil => simpa [insertSorted] using h
  | cons q rest ih =>
    obtain ⟨k', v'⟩ := q
    unfold insertSorted at h
    split at h
    · simpa using h
    · split at h
      · rcases List.mem_cons.mp h with h | h
        · exact .inl h
        · exact .inr (List.mem_cons_of_mem _ h)
      · rcases List.mem_cons.mp h with h | h
        · exact .inr (h ▸ List.mem_cons_self)
        · exact (ih h).imp id (List.mem_cons_of_mem _)

/-- Putting a pair in keeps the indices strictly increasing. -/
theorem sorted_insertSorted (k : Int) (v : α) {l : List (Int × α)}
    (h : (l.map (·.1)).Pairwise (· < ·)) : ((insertSorted k v l).map (·.1)).Pairwise (· < ·) := by
  induction l with
  | nil => simp [insertSorted]
  | cons q rest ih =>
    obtain ⟨k', v'⟩ := q
    rw [List.map_cons, List.pairwise_cons] at h
    unfold insertSorted
    split
    · -- a new least index goes in front
      next hlt =>
      rw [List.map_cons, List.pairwise_cons, List.map_cons, List.pairwise_cons]
      refine ⟨?_, h.1, h.2⟩
      intro j hj
      rcases List.mem_cons.mp hj with rfl | hj
      · exact hlt
      · exact Int.lt_trans hlt (h.1 j hj)
    · split
      · -- the pair of the index is replaced, the indices stay as they were
        next heq =>
        subst heq
        rw [List.map_cons, List.pairwise_cons]
        exact h
      · -- the index goes further on, past a smaller one
        next hlt hne =>
        rw [List.map_cons, List.pairwise_cons]
        refine ⟨?_, ih h.2⟩
        intro j hj
        obtain ⟨p, hp, rfl⟩ := List.mem_map.mp hj
        rcases mem_insertSorted hp with rfl | hp
        · show k' < k
          omega
        · exact h.1 p.1 (List.mem_map_of_mem hp)

/-- The value at index `k`. -/
def get? (m : IndexMap α) (k : Int) : Option α := m.entries.lookup k

/-- Write `v` at index `k`, replacing what was there. -/
def insert (m : IndexMap α) (k : Int) (v : α) : IndexMap α :=
  ⟨insertSorted k v m.entries, sorted_insertSorted k v m.sorted⟩

/-- The indices that hold a value, in increasing order. -/
def keys (m : IndexMap α) : List Int := m.entries.map (·.1)

/-- The values in increasing order of index. -/
def values (m : IndexMap α) : List α := m.entries.map (·.2)

theorem lookup_pair_cons (j k : Int) (v : α) (l : List (Int × α)) :
    ((k, v) :: l).lookup j = if j = k then some v else l.lookup j := by
  by_cases h : j = k
  · subst h
    simp
  · have : (j == k) = false := by simpa using h
    simp [List.lookup_cons, this, h]

theorem lookup_insertSorted (k j : Int) (v : α) (l : List (Int × α)) :
    (insertSorted k v l).lookup j = if j = k then some v else l.lookup j := by
  induction l with
  | nil => simp [insertSorted, lookup_pair_cons]
  | cons p rest ih =>
    obtain ⟨k', v'⟩ := p
    unfold insertSorted
    split
    · rw [lookup_pair_cons]
    · split
      · rename_i hk
        subst hk
        rw [lookup_pair_cons, lookup_pair_cons]
        by_cases h : j = k <;> simp [h]
      · rename_i hne
        rw [lookup_pair_cons, lookup_pair_cons, ih]
        by_cases h : j = k'
        · have hjk : ¬ k' = k := fun e => hne e.symm
          simp [h, hjk]
        · simp [h]

@[simp] theorem get?_insert (m : IndexMap α) (k j : Int) (v : α) :
    (m.insert k v).get? j = if j = k then some v else m.get? j :=
  lookup_insertSorted k j v m.entries

end IndexMap

end LuaListing
