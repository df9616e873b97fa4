import Mathlib.Data.List.Sort
import LuaListing.Listing.Symbols

/-!
# Which local a register holds

At a pc, the locals in scope occupy the registers `0, 1, 2, …` in declaration order.  The
resolver finds the local of a register by walking the locals and numbering those in scope;
before walking it refuses a negative register and one past the number of locals.  This
module shows that the walk finds exactly the local at the register's place among the
locals in scope, so the quick refusal never changes an answer:

* register `r` resolves to the `r`-th local in scope at `pc`, uncertain exactly when `pc`
  is the instruction before its start, and to nothing when `r` is negative or there are no
  more than `r` locals in scope;
* the local found is one of the locals and is in scope at `pc`;
* the registers that resolve at `pc` are exactly `0, …, n - 1` for `n` locals in scope.

A table's locals are walked in increasing order of index (`SymbolTable.orderedLocals`): an
index map keeps its indices strictly increasing, so its values are those read at its indices
sorted, and the statements hold of a table's locals as of any list.

## Main results

* `IndexMap.values_eq_filterMap_sorted` — the values of an index map are those at its
  indices, sorted.
* `scanRegister_eq_getElem?` — the walk from any number, in closed form.
* `resolveRegister_eq_getElem?` — the resolver reads the locals in scope.
* `resolveRegister_eq_inScope_get` — the resolver, its quick refusal and its matches.
-/

namespace LuaListing

/-! ### A table's locals, by index -/

namespace IndexMap

variable {α : Type}

/-- In a list of pairs whose indices strictly increase, the values are those read at the
indices, in order. -/
theorem map_snd_eq_filterMap_lookup {l : List (Int × α)} (h : (l.map (·.1)).Pairwise (· < ·)) :
    l.map (·.2) = (l.map (·.1)).filterMap fun j => l.lookup j := by
  induction l with
  | nil => rfl
  | cons p rest ih =>
    obtain ⟨k, v⟩ := p
    rw [List.map_cons, List.pairwise_cons] at h
    -- the later indices are all above `k`, so reading at them skips the first pair
    have hrest : (rest.map (·.1)).filterMap (fun j => ((k, v) :: rest).lookup j) =
        (rest.map (·.1)).filterMap fun j => rest.lookup j := by
      apply List.filterMap_congr
      intro j hj
      rw [lookup_pair_cons, if_neg (Int.ne_of_gt (h.1 j hj))]
    rw [List.map_cons, List.map_cons, List.filterMap_cons, lookup_pair_cons, if_pos rfl, hrest,
      ih h.2]

/-- **The values are those at the indices, in increasing order of index.** -/
theorem values_eq_filterMap_keys (m : IndexMap α) : m.values = m.keys.filterMap m.get? :=
  map_snd_eq_filterMap_lookup m.sorted

/-- **The values of an index map are those at its indices, sorted**: reading the map at each
of its indices in increasing order gives its values in order. -/
theorem values_eq_filterMap_sorted (m : IndexMap α) :
    m.values = (m.keys.mergeSort fun a b => decide (a ≤ b)).filterMap m.get? := by
  have hle : m.keys.Pairwise (· ≤ ·) := m.sorted.imp Int.le_of_lt
  rw [List.mergeSort_eq_self (· ≤ ·) hle]
  exact values_eq_filterMap_keys m

end IndexMap

/-- A table's locals in declaration order are its locals at its indices, sorted. -/
theorem SymbolTable.orderedLocals_eq_sorted (t : SymbolTable) :
    t.orderedLocals = (t.locals.keys.mergeSort fun a b => decide (a ≤ b)).filterMap t.locals.get? :=
  t.locals.values_eq_filterMap_sorted

/-! ### Resolving a register -/

variable (register pc : Int)

/-- The match the resolver reports for a local found at `pc`. -/
def matchAt (l : LocalVar) : LocalVar × Bool := (l, pc == l.start - 1)

/-- **The walk in closed form**: started at number `position`, it finds the local in scope
whose place among the locals in scope is `register - position`, and nothing when
`register` is below `position`. -/
theorem scanRegister_eq_getElem? (locals : List LocalVar) (position : Nat) :
    scanRegister register pc locals position =
      if (position : Int) ≤ register then
        ((locals.filter (·.inScope pc))[(register - position).toNat]?).map (matchAt pc)
      else none := by
  induction locals generalizing position with
  | nil => simp [scanRegister]
  | cons l ls ih =>
    by_cases hs : l.inScope pc = true
    · -- a local in scope takes the number `position`
      have hf : (l :: ls).filter (·.inScope pc) = l :: ls.filter (·.inScope pc) :=
        List.filter_cons_of_pos hs
      by_cases hp : (position : Int) = register
      · subst hp
        simp [scanRegister, hs, matchAt]
      · rw [scanRegister, if_neg (by simp [hs]), if_neg hp, ih, hf]
        by_cases hlt : (position : Int) < register
        · have hk : (register - position).toNat = (register - ↑(position + 1)).toNat + 1 := by
            omega
          rw [if_pos (by omega), if_pos (by omega), hk, List.getElem?_cons_succ]
        · rw [if_neg (by omega), if_neg (by omega)]
    · -- a local out of scope is passed over without a number
      have hf : (l :: ls).filter (·.inScope pc) = ls.filter (·.inScope pc) :=
        List.filter_cons_of_neg hs
      rw [scanRegister, if_pos (by simp [hs]), ih, hf]

/-- The quick refusal of the resolver never changes what the walk from `0` finds. -/
theorem resolveRegister_eq_scanRegister (locals : List LocalVar) :
    resolveRegister register locals pc = scanRegister register pc locals 0 := by
  unfold resolveRegister
  split
  · next hr =>
    -- a refused register is negative, or at least the number of locals in scope
    have hlen := List.length_filter_le (·.inScope pc) locals
    rw [scanRegister_eq_getElem?]
    simp only [Bool.or_eq_true, decide_eq_true_eq] at hr
    split
    · rw [List.getElem?_eq_none (by omega), Option.map_none]
    · rfl
  · rfl

/-- **The resolver reads the locals in scope**: register `register` holds the local at that
place among the locals in scope at `pc`, and a negative register holds nothing. -/
theorem resolveRegister_eq_getElem? (locals : List LocalVar) :
    resolveRegister register locals pc =
      if 0 ≤ register then
        ((locals.filter (·.inScope pc))[register.toNat]?).map (matchAt pc)
      else none := by
  rw [resolveRegister_eq_scanRegister, scanRegister_eq_getElem?]
  simp

/-- The local a register resolves to is one of the locals, and is in scope. -/
theorem inScope_of_resolveRegister {locals : List LocalVar} {l : LocalVar} {uncertain : Bool}
    (h : resolveRegister register locals pc = some (l, uncertain)) :
    l ∈ locals ∧ l.inScope pc = true := by
  rw [resolveRegister_eq_getElem?] at h
  split at h
  · obtain ⟨l', hl', heq⟩ := Option.map_eq_some_iff.mp h
    obtain ⟨rfl, -⟩ := Prod.mk.inj heq
    exact List.mem_filter.mp (List.mem_of_getElem? hl')
  · exact absurd h nofun

/-- The registers that resolve at `pc` are those below the number of locals in scope. -/
theorem isSome_resolveRegister_iff (locals : List LocalVar) :
    (resolveRegister register locals pc).isSome ↔
      0 ≤ register ∧ register < (locals.filter (·.inScope pc)).length := by
  rw [resolveRegister_eq_getElem?]
  split
  · simp only [Option.isSome_map, isSome_getElem?]
    omega
  · simp only [Option.isSome_none, Bool.false_eq_true, false_iff]
    omega

/-- **Register resolution.**  At `pc`, with `inScope` the locals in scope there in
declaration order: the resolver answers as its walk from `0` does, whatever its quick
refusal; register `register` resolves to `inScope[register]`, uncertain exactly on the
instruction before that local's start, and to nothing when it is negative or past the
locals in scope; a local found is one of the locals and is in scope; and the registers that
resolve are exactly `0, …, inScope.length - 1`. -/
theorem resolveRegister_eq_inScope_get (locals : List LocalVar) :
    let inScope := locals.filter (·.inScope pc)
    resolveRegister register locals pc = scanRegister register pc locals 0 ∧
    resolveRegister register locals pc =
      (if 0 ≤ register then
        inScope[register.toNat]?.map fun l => (l, pc == l.start - 1)
      else none) ∧
    (∀ l uncertain, resolveRegister register locals pc = some (l, uncertain) →
      l ∈ locals ∧ l.inScope pc = true) ∧
    ((resolveRegister register locals pc).isSome ↔ 0 ≤ register ∧ register < inScope.length) :=
  ⟨resolveRegister_eq_scanRegister register pc locals,
    resolveRegister_eq_getElem? register pc locals,
    fun _ _ h => inScope_of_resolveRegister register pc h,
    isSome_resolveRegister_iff register pc locals⟩

end LuaListing
