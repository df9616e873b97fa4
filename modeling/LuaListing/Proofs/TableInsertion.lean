import Mathlib.Data.List.Induction
import LuaListing.Opcode.Table

/-!
# Insertion into opcode tables

An opcode table is an insertion-ordered map from names to descriptions: inserting the
description of a name already present replaces it in place, and a new name goes to the end.
So after inserting descriptions one after another from the empty table, the names are those
of the descriptions in order of first occurrence, and each name maps to the last description
inserted for it.

## Main results

* `OpcodeTable.names_insert`, `OpcodeTable.find?_insert` — what one insertion does.
* `OpcodeTable.names_foldl_insert` — the names after a run of insertions.
* `OpcodeTable.find?_foldl_insert` — the description a name maps to after it.
-/

namespace LuaListing

namespace OpcodeTable

theorem contains_iff (t : OpcodeTable) (n : String) : t.contains n = true ↔ n ∈ t.names := by
  simp [contains, names]

/-- **Names after one insertion**: unchanged when the name is present, one more at the end
otherwise. -/
theorem names_insert (t : OpcodeTable) (i : OpcodeInfo) :
    (t.insert i).names = if i.name ∈ t.names then t.names else t.names ++ [i.name] := by
  by_cases h : i.name ∈ t.names
  · -- the replaced descriptions carry the inserted name, which is theirs already
    rw [if_pos h, insert, dif_pos ((contains_iff t i.name).mpr h)]
    exact map_name_replace t.entries i
  · rw [if_neg h, insert, dif_neg (by rw [contains_iff]; exact h)]
    simp [names]

/-- **Lookup after one insertion**: the inserted description under its own name, the old
one under every other. -/
theorem find?_insert (t : OpcodeTable) (i : OpcodeInfo) (n : String) :
    (t.insert i).find? n = if i.name = n then some i else t.find? n := by
  by_cases hc : t.contains i.name = true
  · rw [insert, dif_pos hc]
    simp only [find?, List.find?_map]
    by_cases hn : i.name = n
    · subst hn
      -- some description has the name; the first of them is the one replaced
      have hs : (t.entries.find? fun j => j.name == i.name).isSome := by
        rw [List.find?_isSome]
        simpa [contains] using hc
      obtain ⟨j, hj⟩ := Option.isSome_iff_exists.mp hs
      have hjn : j.name = i.name := by simpa using List.find?_some hj
      have hp : ((fun j => j.name == i.name) ∘ fun j => if (j.name == i.name) = true then i else j) =
          fun j => j.name == i.name := by
        funext k
        by_cases hk : k.name = i.name <;> simp [hk]
      rw [hp, hj]
      simp [hjn]
    · -- descriptions of the name `n` are left as they are
      have hp : ((fun j => j.name == n) ∘ fun j => if (j.name == i.name) = true then i else j) =
          fun j => j.name == n := by
        funext k
        by_cases hk : k.name = i.name
        · simp [hk]
        · simp [hk]
      rw [hp, if_neg hn]
      cases hf : t.entries.find? (fun j => j.name == n) with
      | none => rfl
      | some j =>
        have hjn : j.name = n := by simpa using List.find?_some hf
        simp [hjn, Ne.symm hn]
  · have hnone : ∀ j ∈ t.entries, j.name ≠ i.name := by
      simpa [contains] using hc
    rw [insert, dif_neg hc]
    simp only [find?, List.find?_append]
    by_cases hn : i.name = n
    · subst hn
      have hf : t.entries.find? (fun j => j.name == i.name) = none := by
        simpa using hnone
      simp [hf]
    · simp [hn]

/-! ### Runs of insertions -/

/-- **Names in order of first occurrence.** -/
theorem names_foldl_insert (is : List OpcodeInfo) :
    (is.foldl insert empty).names = (is.map (·.name)).eraseDups := by
  induction is using List.reverseRecOn with
  | nil => rfl
  | append_singleton is i ih =>
    rw [List.foldl_append, List.foldl_cons, List.foldl_nil, names_insert, ih, List.map_append,
      List.map_singleton, List.eraseDups_append]
    by_cases h : ∃ j ∈ is, j.name = i.name <;> simp [List.removeAll, List.eraseDups_cons, h]

/-- **Each name maps to its last description.** -/
theorem find?_foldl_insert (is : List OpcodeInfo) (n : String) :
    (is.foldl insert empty).find? n = (is.filter fun i => i.name == n).getLast? := by
  induction is using List.reverseRecOn with
  | nil => rfl
  | append_singleton is i ih =>
    rw [List.foldl_append, List.foldl_cons, List.foldl_nil, find?_insert, ih, List.filter_append]
    by_cases h : i.name = n <;> simp [h]

end OpcodeTable

end LuaListing
