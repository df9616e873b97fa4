/-!
# Operands and their slots

An instruction has up to three operand fields.  The formulas name them `A`, `B` and `C`,
and wider encodings `Ax`, `Bx` and `sBx`; each name belongs to one of the three slots: `A`
and `Ax` to slot 0, `B`, `Bx` and `sBx` to slot 1, `C` to slot 2.  A slot can be tagged with
the type its value has (`R` for a register, `Kst` for a constant, ...).

## Main definitions

* `Operand`, `Operand.name`, `Operand.ofName?`, `Operand.slot`.
* `OperandTypes` — the type tag of each of the three slots, if known.
-/

namespace LuaListing

/-- An operand name of the instruction formats. -/
inductive Operand where
  | a
  | ax
  | b
  | bx
  | sbx
  | c
  deriving DecidableEq, Repr, Inhabited

namespace Operand

/-- How the operand is written. -/
def name : Operand → String
  | a => "A"
  | ax => "Ax"
  | b => "B"
  | bx => "Bx"
  | sbx => "sBx"
  | c => "C"

/-- All operands, longest name first where two share a beginning (`Ax` before `A`). -/
def all : List Operand := [sbx, ax, bx, a, b, c]

/-- The operand written `s`, if any. -/
def ofName? (s : String) : Option Operand := all.find? fun op => op.name == s

/-- The slot an operand occupies: `A` and `Ax` the first, `B`, `Bx` and `sBx` the second,
`C` the third. -/
def slot : Operand → Fin 3
  | a => 0
  | ax => 0
  | b => 1
  | bx => 1
  | sbx => 1
  | c => 2

theorem ofName?_name (op : Operand) : ofName? op.name = some op := by
  cases op <;> rfl

end Operand

/-- The type tag of each operand slot, when the formula shows one. -/
structure OperandTypes where
  /-- The tag of slot 0. -/
  first : Option String := none
  /-- The tag of slot 1. -/
  second : Option String := none
  /-- The tag of slot 2. -/
  third : Option String := none
  deriving DecidableEq, Repr, Inhabited

namespace OperandTypes

/-- The tag of slot `i`; slots from 3 on have none. -/
def get (t : OperandTypes) : Nat → Option String
  | 0 => t.first
  | 1 => t.second
  | 2 => t.third
  | _ => none

/-- Tag slot `i` with `ty`, replacing an earlier tag. -/
def set (t : OperandTypes) (i : Fin 3) (ty : String) : OperandTypes :=
  match i with
  | 0 => { t with first := some ty }
  | 1 => { t with second := some ty }
  | 2 => { t with third := some ty }

/-- The three tags in slot order. -/
def toList (t : OperandTypes) : List (Option String) := [t.first, t.second, t.third]

@[simp] theorem get_set_self (t : OperandTypes) (i : Fin 3) (ty : String) :
    (t.set i ty).get i = some ty := by
  match i with
  | 0 => rfl
  | 1 => rfl
  | 2 => rfl

end OperandTypes

end LuaListing
