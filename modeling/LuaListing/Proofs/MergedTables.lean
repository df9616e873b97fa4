import Mathlib
import LuaListing.Proofs.TableInsertion
import LuaListing.Proofs.AnnotatedOutput

/-!
# Merging opcode tables

Merging tables inserts the descriptions of each table in turn, so a merge is one run of
insertions over the descriptions of all the tables.  What a run of insertions does then says
what a merge is: its names are those of the tables in order of first appearance, and a name
maps to its description in the last table that has it.  The newest description wins and the
oldest place stays.

The tables of the bundled versions are merged oldest first, in the order of the versions:
a mapping from version names gives the merge the tables it holds for the four versions, so
neither the mapping's own order nor its other names make a difference.  With no version
selected, the table used is this merge of the four bundled tables.

## Main statements

* `OpcodeTable.merge_eq_foldl_insert` — a merge is one run of insertions.
* `OpcodeTable.names_merge` — the names of a merge.
* `OpcodeTable.find?_merge` — the description of a name in a merge.
* `mergedTable_congr` — the merge of a mapping depends only on its tables for the versions.
* `selectTable_none` — with no version, the merge of the bundled tables is used.
* `merge_newest_description_first_place` — all of it together.
-/

namespace LuaListing

namespace OpcodeTable

/-! ### A merge is one run of insertions -/

theorem foldl_union (ts : List OpcodeTable) (acc : OpcodeTable) :
    ts.foldl union acc = (ts.flatMap entries).foldl insert acc := by
  induction ts generalizing acc with
  | nil => rfl
  | cons t ts ih => rw [List.foldl_cons, ih, List.flatMap_cons, List.foldl_append, union]

theorem merge_eq_foldl_insert (ts : List OpcodeTable) :
    merge ts = (ts.flatMap entries).foldl insert empty :=
  foldl_union ts empty

/-- **Names of a merge**: every name of the tables, in order of first appearance. -/
theorem names_merge (ts : List OpcodeTable) :
    (merge ts).names = (ts.flatMap names).eraseDups := by
  rw [merge_eq_foldl_insert, names_foldl_insert, List.map_flatMap]
  rfl

/-! ### Descriptions of a merge -/

/-- A table holds at most one description of a name, so the description found is the last
one. -/
theorem find?_eq_getLast?_filter (t : OpcodeTable) (k : String) :
    t.find? k = (t.entries.filter fun i => i.name == k).getLast? := by
  have hlen : (t.entries.filter fun i => i.name == k).length ≤ 1 := by
    have hc := List.nodup_iff_count_le_one.mp t.nodup_names k
    rwa [List.count_eq_length_filter, List.filter_map, List.length_map] at hc
  rw [find?, ← List.head?_filter]
  generalize t.entries.filter (fun i => i.name == k) = l at hlen ⊢
  rcases l with _ | ⟨a, _ | ⟨b, l⟩⟩
  · rfl
  · rfl
  · simp at hlen

/-- **Descriptions of a merge**: a name maps to its description in the last table that has
it. -/
theorem find?_merge (ts : List OpcodeTable) (k : String) :
    (merge ts).find? k = ts.reverse.findSome? (·.find? k) := by
  rw [merge_eq_foldl_insert, find?_foldl_insert]
  induction ts with
  | nil => rfl
  | cons t ts ih =>
    -- the descriptions of the later tables come last, and are found first in the reversal
    rw [List.flatMap_cons, List.filter_append, List.getLast?_append, ih,
      ← find?_eq_getLast?_filter t, List.reverse_cons, List.findSome?_append,
      List.findSome?_singleton]

end OpcodeTable

/-! ### The merge of a mapping from version names -/

/-- The merge of a mapping depends only on the tables it holds for the bundled versions. -/
theorem mergedTable_congr {m m' : List (String × OpcodeTable)}
    (h : ∀ v ∈ LuaVersion.all, m.lookup v.name = m'.lookup v.name) :
    mergedTable m = mergedTable m' := by
  rw [mergedTable, mergedTable, List.filterMap_congr h]

theorem lookup_cons_of_ne {k a : String} (h : k ≠ a) (b : OpcodeTable)
    (l : List (String × OpcodeTable)) : ((a, b) :: l).lookup k = l.lookup k := by
  rw [List.lookup_cons, beq_false_of_ne h]

/-- In a mapping whose names are distinct, the order of the pairs does not matter. -/
theorem lookup_eq_of_perm {m m' : List (String × OpcodeTable)} (hp : m.Perm m')
    (k : String) : (m.map Prod.fst).Nodup → m.lookup k = m'.lookup k := by
  induction hp with
  | nil => exact fun _ => rfl
  | cons p _ ih =>
    intro hm
    obtain ⟨a, b⟩ := p
    by_cases hk : k = a
    · rw [hk, List.lookup_cons_self, List.lookup_cons_self]
    · rw [lookup_cons_of_ne hk, lookup_cons_of_ne hk, ih (List.nodup_cons.mp hm).2]
  | swap p q l =>
    intro hm
    obtain ⟨a, b⟩ := p
    obtain ⟨a', b'⟩ := q
    -- the two names differ, so at most one of them is `k`
    have hne : a' ≠ a := fun e => (List.nodup_cons.mp hm).1 (by simp [e])
    by_cases hk : k = a'
    · rw [hk, List.lookup_cons_self, lookup_cons_of_ne hne, List.lookup_cons_self]
    · by_cases hk' : k = a
      · rw [hk', lookup_cons_of_ne hne.symm, List.lookup_cons_self, List.lookup_cons_self]
      · rw [lookup_cons_of_ne hk, lookup_cons_of_ne hk', lookup_cons_of_ne hk',
          lookup_cons_of_ne hk]
  | trans h₁ _ ih₁ ih₂ =>
    intro hm
    rw [ih₁ hm, ih₂ ((h₁.map Prod.fst).nodup_iff.mp hm)]

/-- The bundled versions' names, in merge order. -/
theorem map_name_all : LuaVersion.all.map LuaVersion.name = ["5.0", "5.1", "5.2", "5.3"] := rfl

/-- With no version selected, the table is the merge of the bundled tables, keyed by their
versions' names. -/
theorem selectTable_none :
    (selectTable none).2 = .ok (mergedTable (LuaVersion.all.map fun v => (v.name, v.load.1))) := by
  have hloaded : loadAll.1 = LuaVersion.all.map fun v => (v, v.load.1) := by
    rw [loadAll, foldl_load_fst, List.nil_append]
  -- each version finds its own table among the four
  have hlookup : (LuaVersion.all.filterMap fun v =>
      (LuaVersion.all.map fun v => (v.name, v.load.1)).lookup v.name) =
      LuaVersion.all.map fun v => v.load.1 := rfl
  simp only [selectTable, hloaded, List.map_map, mergedTable, hlookup]
  rfl

/-- **Merging opcode tables.**  A merge lists every name of the tables in order of first
appearance, and maps it to its description in the last table that has it.  The merge of a mapping from version names is the merge of its tables for
`5.0`, `5.1`, `5.2` and `5.3` in that order, so it depends neither on the mapping's order nor
on its other names; with no version selected, the merge of the four bundled tables is used. -/
theorem merge_newest_description_first_place :
    (∀ ts : List OpcodeTable,
      (OpcodeTable.merge ts).names = (ts.flatMap OpcodeTable.names).eraseDups) ∧
    (∀ ts : List OpcodeTable,
      ∀ k, (OpcodeTable.merge ts).find? k = ts.reverse.findSome? (·.find? k)) ∧
    (∀ m : List (String × OpcodeTable),
      mergedTable m =
        OpcodeTable.merge (["5.0", "5.1", "5.2", "5.3"].filterMap fun v => m.lookup v)) ∧
    (∀ m m' : List (String × OpcodeTable),
      (∀ v ∈ ["5.0", "5.1", "5.2", "5.3"], m.lookup v = m'.lookup v) →
        mergedTable m = mergedTable m') ∧
    (∀ m m' : List (String × OpcodeTable), (m.map Prod.fst).Nodup → m.Perm m' →
      mergedTable m = mergedTable m') ∧
    (selectTable none).2 = .ok (mergedTable (LuaVersion.all.map fun v => (v.name, v.load.1))) := by
  refine ⟨OpcodeTable.names_merge, OpcodeTable.find?_merge, fun m => ?_,
    fun m m' h => mergedTable_congr ?_, fun m m' hm hp => mergedTable_congr ?_, selectTable_none⟩
  · rw [mergedTable, ← map_name_all, List.filterMap_map]
    rfl
  · intro v hv
    exact h v.name (map_name_all ▸ List.mem_map_of_mem hv)
  · intro v _
    exact lookup_eq_of_perm hp v.name hm

/-- The merge of the bundled tables gives every opcode the description of the newest version
that has it, and the mapping of the bundled tables by name merges to the same table in
either order. -/
theorem merge_newest_description_bundled :
    (∀ k, (OpcodeTable.merge (LuaVersion.all.map fun v => v.load.1)).find? k =
      (LuaVersion.all.map fun v => v.load.1).reverse.findSome? (·.find? k)) ∧
    ((LuaVersion.all.map fun v => (v.name, v.load.1)).map Prod.fst).Nodup ∧
    (LuaVersion.all.map fun v => (v.name, v.load.1)).Perm
      (LuaVersion.all.map fun v => (v.name, v.load.1)).reverse ∧
    mergedTable (LuaVersion.all.map fun v => (v.name, v.load.1)) =
      mergedTable (LuaVersion.all.map fun v => (v.name, v.load.1)).reverse := by
  have hkeys : ((LuaVersion.all.map fun v => (v.name, v.load.1)).map Prod.fst).Nodup := by
    rw [List.map_map]
    exact map_name_all ▸ (by decide)
  have hperm := (List.reverse_perm (LuaVersion.all.map fun v => (v.name, v.load.1))).symm
  exact ⟨merge_newest_description_first_place.2.1 _, hkeys, hperm,
    merge_newest_description_first_place.2.2.2.2.1 _ _ hkeys hperm⟩

end LuaListing
