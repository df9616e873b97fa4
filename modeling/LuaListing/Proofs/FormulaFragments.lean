import Mathlib
import LuaListing.Proofs.DefinitionsText

/-!
# The operand types a formula shows, fragment by fragment

A formula tags an operand slot with a type through a fragment such as `R(A)` or `Kst[Bx]`: a
type name, then an operand name in parentheses or brackets.  The library reads the fragments
with one scan from the left that, once it has read a fragment, goes on after its closing
bracket.  This module describes the fragments position by position instead, each bracket on
its own: a bracket at a position is a fragment when an operand name and the matching closing
bracket follow it and the run of word characters before it holds an ASCII letter or `_`; its
type is the longest end of that run that starts with one.  The two readings agree: the scan
never swallows a fragment, since a fragment holds no bracket but its own, and it never takes a
shorter type, since it tries every letter of a run before passing it.  So slot `i` holds the
type of the rightmost fragment whose operand belongs to `i`.

## Main definitions

* `Formula.typeBefore` — the type a bracket takes from the text before it.
* `Formula.operandBefore` — the operand named between a bracket and its closing character.
* `Formula.fragmentAt`, `Formula.fragmentsAt` — the fragment at a position, and all of them.
* `Formula.ScanFresh` — where the scan may stand without having missed a type.

## Main results

* `Formula.operandThen_eq` — reading a bracketed operand is reading a name up to the first
  closing character.
* `Formula.fragments_eq_fragmentsAt` — the scan finds exactly the fragments, in order.
* `Formula.operandTypes_get` — each slot holds the type of its rightmost fragment.
-/

namespace LuaListing

theorem isWordChar_of_isIdentStart {c : Char} (h : isIdentStart c = true) :
    isWordChar c = true := by
  simp only [isIdentStart, Bool.or_eq_true, beq_iff_eq] at h
  rcases h with h | rfl
  · have hlt : c.toNat < 0x80 := by
      simp only [Char.isAlpha, Char.isUpper, Char.isLower, Bool.or_eq_true, Bool.and_eq_true,
        decide_eq_true_eq, ge_iff_le, UInt32.le_iff_toNat_le] at h
      have hz : ('z' : Char).val.toNat = 122 := rfl
      have hZ : ('Z' : Char).val.toNat = 90 := rfl
      simp only [Char.toNat]
      omega
    simp [isWordChar, hlt, Char.isAlphanum, h]
  · decide

namespace Operand

theorem ofName?_eq_some_iff {s : String} {op : Operand} : ofName? s = some op ↔ op.name = s := by
  constructor
  · intro h
    simpa using List.find?_some h
  · rintro rfl
    exact ofName?_name op

end Operand

namespace Formula

/-- The type of a fragment whose bracket follows `before` (read nearest character first): the
longest end of the run of word characters before the bracket that starts with an ASCII letter
or `_`, or nothing when the run holds none. -/
def typeBefore (before : List Char) : List Char :=
  (before.takeWhile isWordChar).reverse.dropWhile fun c => !isIdentStart c

/-- The operand named after a bracket closed by `close`: the text up to the first `close`,
when there is one and it is an operand name. -/
def operandBefore (close : Char) (t : List Char) : Option Operand :=
  if close ∈ t then Operand.ofName? (String.ofList (t.takeWhile (· != close))) else none

/-- The fragment at a position of a text, `before` being the text before it (nearest first)
and `after` the text from it on: a bracket `(` or `[` that an operand name and the matching
closing bracket follow, with a type before it. -/
def fragmentAt (before after : List Char) : Option (String × Operand) :=
  if typeBefore before = [] then none
  else
    match after with
    | '(' :: t => (operandBefore ')' t).map fun op => (String.ofList (typeBefore before), op)
    | '[' :: t => (operandBefore ']' t).map fun op => (String.ofList (typeBefore before), op)
    | _ => none

/-- The fragments of a text, position by position from the left. -/
def fragmentsAt (s : List Char) : List (String × Operand) :=
  (List.range s.length).filterMap fun q => fragmentAt (s.take q).reverse (s.drop q)

/-- The fragments of the text `after`, `before` standing before it. -/
def fragmentsFrom (before : List Char) : List Char → List (String × Operand)
  | [] => []
  | c :: rest => (fragmentAt before (c :: rest)).toList ++ fragmentsFrom (c :: before) rest

theorem fragmentsFrom_eq (before s : List Char) :
    fragmentsFrom before s =
      (List.range s.length).filterMap fun q =>
        fragmentAt ((s.take q).reverse ++ before) (s.drop q) := by
  induction s generalizing before with
  | nil => rfl
  | cons c s ih =>
    rw [fragmentsFrom, ih, List.length_cons, List.range_succ_eq_map, List.filterMap_cons,
      List.filterMap_map]
    simp only [List.take_zero, List.reverse_nil, List.nil_append, List.drop_zero,
      Function.comp_def, List.take_succ_cons, List.reverse_cons, List.drop_succ_cons,
      List.append_assoc, List.singleton_append]
    cases fragmentAt before (c :: s) <;> rfl

theorem fragmentsAt_eq (s : List Char) : fragmentsAt s = fragmentsFrom [] s := by
  rw [fragmentsFrom_eq]
  simp [fragmentsAt]

/-- An operand name followed by its closing character: the text up to the first closing
character is the name. -/
theorem prefix_iff {close : Char} (hclose : isWordChar close = false) (op : Operand)
    (t : List Char) :
    (op.name.toList ++ [close]).isPrefixOf t = true ↔
      close ∈ t ∧ t.takeWhile (· != close) = op.name.toList := by
  have hname : ∀ x ∈ op.name.toList, (x != close) = true := by
    intro x hx
    rw [bne_iff_ne]
    rintro rfl
    rw [Operand.isWordChar_of_mem_name hx] at hclose
    exact Bool.noConfusion hclose
  rw [List.isPrefixOf_iff_prefix]
  constructor
  · rintro ⟨r, rfl⟩
    refine ⟨by simp, ?_⟩
    rw [List.append_assoc, List.takeWhile_append_of_pos hname]
    simp
  · rintro ⟨hmem, htake⟩
    -- the text after the name opens with the first closing character
    obtain ⟨x, r, hxr⟩ : ∃ x r, t.dropWhile (· != close) = x :: r := by
      cases h : t.dropWhile (· != close) with
      | nil =>
        rw [List.dropWhile_eq_nil_iff] at h
        simpa using h close hmem
      | cons x r => exact ⟨x, r, rfl⟩
    have hx : x = close := by
      have := List.head?_dropWhile_not (· != close) t
      rw [hxr] at this
      simpa using this
    refine ⟨r, ?_⟩
    rw [hx] at hxr
    rw [← htake, List.append_assoc, List.singleton_append, ← hxr]
    exact List.takeWhile_append_dropWhile

/-- **Reading an operand and its closing character is reading the name up to the first closing
character.** -/
theorem operandThen_eq {close : Char} (hclose : isWordChar close = false) (t : List Char) :
    operandThen close t =
      (operandBefore close t).map fun op => (op, t.drop (op.name.length + 1)) := by
  unfold operandThen operandBefore
  split
  · next hmem =>
    cases hop : Operand.ofName? (String.ofList (t.takeWhile (· != close))) with
    | none =>
      -- no operand is named there, so none is followed by the closing character
      refine List.findSome?_eq_none_iff.mpr fun op' _ => ?_
      rw [if_neg]
      intro hp
      have hn := ((prefix_iff hclose op' t).mp hp).2
      rw [hn, String.ofList_toList, Operand.ofName?_name] at hop
      cases hop
    | some op =>
      have hname : t.takeWhile (· != close) = op.name.toList := by
        rw [Operand.ofName?_eq_some_iff.mp hop, String.toList_ofList]
      refine Definitions.findSome?_eq_of_unique (a := op) (by cases op <;> decide) ?_ ?_
      · rw [if_pos ((prefix_iff hclose op t).mpr ⟨hmem, hname⟩)]
      · intro op' b' h
        split at h
        · next hp =>
          exact Operand.eq_of_name_toList (((prefix_iff hclose op' t).mp hp).2.symm.trans hname)
        · cases h
  · next hmem =>
    refine List.findSome?_eq_none_iff.mpr fun op' _ => ?_
    rw [if_neg]
    intro hp
    exact hmem ((prefix_iff hclose op' t).mp hp).1

theorem operandBefore_name {close : Char} (hclose : isWordChar close = false) (op : Operand)
    (r : List Char) : operandBefore close (op.name.toList ++ close :: r) = some op := by
  have hp : (op.name.toList ++ [close]).isPrefixOf (op.name.toList ++ close :: r) = true :=
    List.isPrefixOf_iff_prefix.mpr ⟨r, by simp⟩
  obtain ⟨hmem, htake⟩ := (prefix_iff hclose op _).mp hp
  rw [operandBefore, if_pos hmem, htake, String.ofList_toList, Operand.ofName?_name]

theorem eq_of_operandThen {close : Char} (hclose : isWordChar close = false) {t r : List Char}
    {op : Operand} (h : operandThen close t = some (op, r)) : t = op.name.toList ++ close :: r := by
  rw [operandThen_eq hclose] at h
  obtain ⟨op', hop', hr⟩ := Option.map_eq_some_iff.mp h
  obtain ⟨rfl, rfl⟩ := Prod.mk.inj hr
  unfold operandBefore at hop'
  split at hop'
  · next hmem =>
    have htake : t.takeWhile (· != close) = op'.name.toList := by
      rw [Operand.ofName?_eq_some_iff.mp hop', String.toList_ofList]
    obtain ⟨r', hr'⟩ :=
      List.isPrefixOf_iff_prefix.mp ((prefix_iff hclose op' t).mpr ⟨hmem, htake⟩)
    rw [← hr']
    simp [← String.length_toList]
  · cases hop'

/-- What a bracketed operand is read from. -/
theorem eq_of_closeOperand? {s r : List Char} {op : Operand} (h : closeOperand? s = some (op, r)) :
    s = '(' :: (op.name.toList ++ ')' :: r) ∨ s = '[' :: (op.name.toList ++ ']' :: r) := by
  unfold closeOperand? at h
  split at h
  · exact .inl (congrArg _ (eq_of_operandThen (by decide) h))
  · exact .inr (congrArg _ (eq_of_operandThen (by decide) h))
  · cases h

theorem fragmentAt_of_not_bracket {c : Char} (hc : c ≠ '(' ∧ c ≠ '[') (before t : List Char) :
    fragmentAt before (c :: t) = none := by
  unfold fragmentAt
  split
  · rfl
  · split
    · next heq => exact absurd (List.cons.inj heq).1 hc.1
    · next heq => exact absurd (List.cons.inj heq).1 hc.2
    · rfl

theorem ne_bracket_of_isWordChar {x : Char} (h : isWordChar x = true) :
    x ≠ '(' ∧ x ≠ '[' := by
  constructor <;> rintro rfl <;> revert h <;> decide

theorem operandBefore_eq_none {close : Char} (hclose : isWordChar close = false) {t : List Char}
    (h : operandThen close t = none) : operandBefore close t = none := by
  rw [operandThen_eq hclose, Option.map_eq_none_iff] at h
  exact h

/-- Where a scan may stand: no character of the word run before it could start a type, or the
word run after it is followed by no bracketed operand. -/
def ScanFresh (before after : List Char) : Prop :=
  (∀ x ∈ before.takeWhile isWordChar, isIdentStart x = false) ∨
    closeOperand? (after.dropWhile isWordChar) = none

theorem typeBefore_eq_nil {before : List Char}
    (h : ∀ x ∈ before.takeWhile isWordChar, isIdentStart x = false) :
    typeBefore before = [] := by
  rw [typeBefore, List.dropWhile_eq_nil_iff]
  intro x hx
  simpa using h x (List.mem_reverse.mp hx)

theorem typeBefore_word {before w : List Char} {c : Char}
    (hbefore : ∀ x ∈ before.takeWhile isWordChar, isIdentStart x = false)
    (hc : isIdentStart c = true) (hw : ∀ x ∈ w, isWordChar x = true) :
    typeBefore (w.reverse ++ c :: before) = c :: w := by
  have hrun : ∀ x ∈ w.reverse ++ [c], isWordChar x = true := by
    intro x hx
    rcases List.mem_append.mp hx with hx | hx
    · exact hw x (List.mem_reverse.mp hx)
    · exact List.mem_singleton.mp hx ▸ isWordChar_of_isIdentStart hc
  rw [typeBefore, show w.reverse ++ c :: before = (w.reverse ++ [c]) ++ before by simp,
    List.takeWhile_append_of_pos hrun, List.reverse_append,
    List.dropWhile_append_of_pos (by simpa using hbefore)]
  simp [hc]

/-- At a place where the scan may stand there is no fragment. -/
theorem fragmentAt_of_fresh {before rest : List Char} {c : Char}
    (h : ScanFresh before (c :: rest)) :
    fragmentAt before (c :: rest) = none := by
  rcases h with h | h
  · unfold fragmentAt
    rw [if_pos (typeBefore_eq_nil h)]
  · by_cases hc : c = '(' ∨ c = '['
    · -- a bracket is no word character, so the operand after it is the one the scan missed
      rcases hc with rfl | rfl
      · rw [List.dropWhile_cons_of_neg (by decide)] at h
        simp [fragmentAt, operandBefore_eq_none (by decide) h]
      · rw [List.dropWhile_cons_of_neg (by decide)] at h
        simp [fragmentAt, operandBefore_eq_none (by decide) h]
    · exact fragmentAt_of_not_bracket (not_or.mp hc) before rest

theorem fragmentsFrom_append_of_not_bracket {w : List Char}
    (hw : ∀ x ∈ w, x ≠ '(' ∧ x ≠ '[') (before t : List Char) :
    fragmentsFrom before (w ++ t) = fragmentsFrom (w.reverse ++ before) t := by
  induction w generalizing before with
  | nil => rfl
  | cons x w ih =>
    rw [List.cons_append, fragmentsFrom, fragmentAt_of_not_bracket (hw x List.mem_cons_self),
      Option.toList_none, List.nil_append, ih (fun y hy => hw y (List.mem_cons_of_mem x hy))]
    simp

/-- A bracketed operand after a type is the fragment there. -/
theorem fragmentAt_of_closeOperand {before s r : List Char} {op : Operand}
    (hty : typeBefore before ≠ []) (h : closeOperand? s = some (op, r)) :
    fragmentAt before s = some (String.ofList (typeBefore before), op) := by
  rcases eq_of_closeOperand? h with rfl | rfl
  · have hob : operandBefore ')' (op.name.toList ++ ')' :: r) = some op :=
      operandBefore_name (by decide) op r
    simp [fragmentAt, hty, hob]
  · have hob : operandBefore ']' (op.name.toList ++ ']' :: r) = some op :=
      operandBefore_name (by decide) op r
    simp [fragmentAt, hty, hob]

/-- A bracketed operand after a type is a fragment, and the scan may stand after it. -/
theorem fragmentsFrom_closeOperand {before s r : List Char} {op : Operand}
    (hty : typeBefore before ≠ []) (h : closeOperand? s = some (op, r)) :
    ∃ before', fragmentsFrom before s =
        (String.ofList (typeBefore before), op) :: fragmentsFrom before' r ∧
      ScanFresh before' r := by
  have hat := fragmentAt_of_closeOperand hty h
  -- the closing bracket is neither a word character nor an opening bracket
  obtain ⟨o, c, rfl, hcw, hcb⟩ : ∃ o c, s = o :: ((op.name.toList ++ [c]) ++ r) ∧
      isWordChar c = false ∧ c ≠ '(' ∧ c ≠ '[' := by
    rcases eq_of_closeOperand? h with rfl | rfl
    · exact ⟨'(', ')', by simp, by decide, by decide⟩
    · exact ⟨'[', ']', by simp, by decide, by decide⟩
  have hinside : ∀ x ∈ op.name.toList ++ [c], x ≠ '(' ∧ x ≠ '[' := by
    intro x hx
    rcases List.mem_append.mp hx with hx | hx
    · exact ne_bracket_of_isWordChar (Operand.isWordChar_of_mem_name hx)
    · exact List.mem_singleton.mp hx ▸ hcb
  refine ⟨(op.name.toList ++ [c]).reverse ++ o :: before, ?_, .inl ?_⟩
  · rw [fragmentsFrom, hat, Option.toList_some, List.singleton_append,
      fragmentsFrom_append_of_not_bracket hinside]
  · simp [hcw]

theorem fragments_eq_fragmentsFrom {before after : List Char} (h : ScanFresh before after) :
    fragments after = fragmentsFrom before after := by
  fun_induction fragments after generalizing before with
  | case1 => rfl
  | case2 c rest hc op r hop _ _ ih =>
    have hword := isWordChar_of_isIdentStart hc
    -- the scan missed no operand after `c`, so no letter before `c` starts a type
    have hfresh : ∀ x ∈ before.takeWhile isWordChar, isIdentStart x = false := by
      refine h.resolve_right ?_
      rw [List.dropWhile_cons_of_pos hword, hop]
      exact Option.some_ne_none _
    have hw : ∀ x ∈ rest.takeWhile isWordChar, isWordChar x = true :=
      fun x hx => List.mem_takeWhile_imp hx
    have hty := typeBefore_word hfresh hc hw
    obtain ⟨before', hB, hfresh'⟩ :=
      fragmentsFrom_closeOperand (hty ▸ List.cons_ne_nil _ _ : typeBefore _ ≠ []) hop
    rw [hty] at hB
    rw [fragmentsFrom, fragmentAt_of_not_bracket (ne_bracket_of_isWordChar hword),
      Option.toList_none, List.nil_append]
    conv_rhs => rw [← List.takeWhile_append_dropWhile (p := isWordChar) (l := rest)]
    rw [fragmentsFrom_append_of_not_bracket (fun x hx => ne_bracket_of_isWordChar (hw x hx)), hB,
      ih hfresh']
  | case3 c rest hc hop ih =>
    rw [fragmentsFrom, fragmentAt_of_fresh h, Option.toList_none, List.nil_append]
    exact ih (.inr hop)
  | case4 c rest hc ih =>
    rw [fragmentsFrom, fragmentAt_of_fresh h, Option.toList_none, List.nil_append]
    apply ih
    -- a character that starts no type keeps the scan fresh
    by_cases hw : isWordChar c = true
    · rcases h with h | h
      · left
        intro x hx
        rw [List.takeWhile_cons_of_pos hw, List.mem_cons] at hx
        rcases hx with rfl | hx
        · simpa using hc
        · exact h x hx
      · right
        rwa [List.dropWhile_cons_of_pos hw] at h
    · left
      simp [hw]

/-- **The scan finds every fragment, in order.** -/
theorem fragments_eq_fragmentsAt (s : List Char) : fragments s = fragmentsAt s := by
  rw [fragmentsAt_eq]
  exact fragments_eq_fragmentsFrom (.inl (by simp))

theorem OperandTypes.get_set (t : OperandTypes) (j i : Fin 3) (ty : String) :
    (t.set j ty).get i = if j = i then some ty else t.get i := by
  fin_cases i <;> fin_cases j <;> rfl

/-- Tagging slots one fragment at a time leaves in each slot the type of the last fragment
for it. -/
theorem get_foldl_set (fs : List (String × Operand)) (t : OperandTypes) (i : Fin 3) :
    (fs.foldl (fun t f => t.set f.2.slot f.1) t).get i =
      (((fs.filter fun f => f.2.slot = i).getLast?.map Prod.fst).or (t.get i)) := by
  induction fs using List.reverseRecOn with
  | nil => rfl
  | append_singleton fs f ih =>
    rw [List.foldl_append, List.foldl_cons, List.foldl_nil, OperandTypes.get_set, ih,
      List.filter_append, List.filter_singleton]
    by_cases hf : f.2.slot = i
    · simp [hf]
    · simp [hf]

/-- **The operand types a formula shows.**  Slot `i` holds the type of the rightmost fragment
of the formula whose operand belongs to slot `i`, and nothing when there is none; the
fragments are read position by position, each bracket on its own. -/
theorem operandTypes_get (doc : String) (i : Fin 3) :
    (operandTypes doc).get i =
      ((fragmentsAt doc.toList).filter fun f => f.2.slot = i).getLast?.map Prod.fst := by
  rw [operandTypes, get_foldl_set, fragments_eq_fragmentsAt]
  fin_cases i <;> simp [OperandTypes.get]

example : fragmentsAt "R(A+1) := (Bool)B".toList = [] := by decide
example : fragmentsAt "Gbl[Kst(Bx)] := R(A)".toList = [("Kst", .bx), ("R", .a)] := by decide

end Formula

end LuaListing
