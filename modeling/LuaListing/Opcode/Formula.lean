import LuaListing.Text.Blank
import LuaListing.Text.Word
import LuaListing.Text.Scan
import LuaListing.Opcode.Operand

/-!
# Formulas

The comment of an opcode holds a formula such as `R(A) := RK(B) + RK(C)`, written over one
or more lines with tabs and spaces for alignment.  This module puts formulas in their
canonical form and reads the operand types they show.

*Canonical form.*  The formula is trimmed of blanks; each line is trimmed of spaces and
tabs, runs of spaces and tabs inside a line become one space, empty lines are dropped, and
the lines are joined by a line feed followed by the continuation indent.  Only the space and
the tab are touched inside the text: another blank such as a carriage return stays.

*Operand types.*  A fragment `T(X)` or `T[X]`, where `X` is an operand name and `T` is a
name that starts with an ASCII letter or `_` and is preceded by no other word character of
its run, tags the slot of `X` with `T`; fragments are read left to right and a later tag of
a slot replaces an earlier one.

## Main definitions

* `Formula.tidyLine`, `Formula.normalize` — the canonical form.
* `Formula.closeOperand?` — an operand name in parentheses or brackets.
* `Formula.fragments` — the typed fragments of a formula, left to right.
* `Formula.operandTypes` — the slot tags they give.
-/

namespace LuaListing

namespace Formula

/-- Each run of spaces and tabs becomes one space. -/
def collapseSpaces : List Char → List Char
  | [] => []
  | c :: rest =>
    if isSpaceOrTab c then ' ' :: collapseSpaces (rest.dropWhile isSpaceOrTab)
    else c :: collapseSpaces rest
  termination_by l => l.length
  decreasing_by
    all_goals simp only [List.length_cons]
    all_goals have := length_dropWhile_le isSpaceOrTab rest
    all_goals omega

/-- Drop the spaces and tabs at both ends. -/
def stripSpaces (cs : List Char) : List Char :=
  ((cs.dropWhile isSpaceOrTab).reverse.dropWhile isSpaceOrTab).reverse

/-- One line of a formula in canonical form. -/
def tidyLine (cs : List Char) : List Char := collapseSpaces (stripSpaces cs)

/-- The formula in canonical form, continuation lines opened by `indent`. -/
def normalize (doc : String) (indent : String := "") : String :=
  let text := trim doc.toList
  if text = [] then ""
  else
    let lines := ((text.splitOn '\n').map tidyLine).filter (· ≠ [])
    String.intercalate ("\n" ++ indent) (lines.map String.ofList)

/-- An operand name followed by the closing character `close`, at the start of the text;
with the operand, the text after the closing character.  At most one name fits, since the
closing character must follow it directly. -/
def operandThen (close : Char) (s : List Char) : Option (Operand × List Char) :=
  Operand.all.findSome? fun op =>
    if (op.name.toList ++ [close]).isPrefixOf s then some (op, s.drop (op.name.length + 1))
    else none

/-- `(X)` or `[X]` for an operand name `X`, at the start of the text. -/
def closeOperand? : List Char → Option (Operand × List Char)
  | '(' :: r => operandThen ')' r
  | '[' :: r => operandThen ']' r
  | _ => none

theorem operandThen_length {close : Char} {s r : List Char} {op : Operand}
    (h : operandThen close s = some (op, r)) : r.length < s.length := by
  obtain ⟨o, -, ho⟩ := List.exists_of_findSome?_eq_some h
  split at ho
  · rename_i hp
    obtain ⟨-, rfl⟩ := Prod.mk.inj (Option.some.inj ho)
    have hl := (List.isPrefixOf_iff_prefix.mp hp).length_le
    simp only [List.length_append, List.length_cons, List.length_nil, String.length_toList] at hl
    simp only [List.length_drop]
    omega
  · simp at ho

theorem closeOperand?_length {s r : List Char} {op : Operand}
    (h : closeOperand? s = some (op, r)) : r.length < s.length := by
  unfold closeOperand? at h
  split at h
  · have := operandThen_length h
    simp only [List.length_cons]
    omega
  · have := operandThen_length h
    simp only [List.length_cons]
    omega
  · simp at h

/-- The fragments `T(X)` and `T[X]` of a text, left to right, as pairs of the type name
and the operand. -/
def fragments : List Char → List (String × Operand)
  | [] => []
  | c :: rest =>
    if isIdentStart c then
      match h : closeOperand? (rest.dropWhile isWordChar) with
      | some (op, r) =>
        have := closeOperand?_length h
        have := length_dropWhile_le isWordChar rest
        (String.ofList (c :: rest.takeWhile isWordChar), op) :: fragments r
      | none => fragments rest
    else fragments rest
  termination_by l => l.length
  decreasing_by
    all_goals simp only [List.length_cons]
    all_goals omega

/-- The operand types a formula shows: each fragment tags its operand's slot, later ones
replacing earlier ones. -/
def operandTypes (doc : String) : OperandTypes :=
  (fragments doc.toList).foldl (fun t f => t.set f.2.slot f.1) {}

end Formula

end LuaListing
