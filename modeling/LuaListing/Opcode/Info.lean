import LuaListing.Opcode.Operand

/-!
# Opcode descriptions

What a definitions text says about one opcode: its name, the operands it prints in order
(its signature), its formula and the types the formula gives the operand slots.

A listing prints an instruction's operands in signature order, so the operand at
position `p` fills the slot of the `p`-th signature operand; past the signature a position
stands for the slot of the same number, and positions from 3 on have no type.

## Main definitions

* `OpcodeInfo` — name, signature, formula, slot types.
* `OpcodeInfo.slotForPosition`, `OpcodeInfo.operandType` — the slot and type of a printed
  operand.
-/

namespace LuaListing

/-- The description of one opcode. -/
structure OpcodeInfo where
  /-- The opcode's name, without the `OP_` prefix. -/
  name : String
  /-- The operands it prints, in order. -/
  signature : List Operand
  /-- Its formula in canonical form; empty when the text gives none. -/
  doc : String
  /-- The type of each operand slot, as the formula shows it. -/
  types : OperandTypes
  deriving DecidableEq, Repr, Inhabited

namespace OpcodeInfo

/-- The slot that the operand printed at position `p` fills. -/
def slotForPosition (info : OpcodeInfo) (p : Nat) : Nat :=
  match info.signature[p]? with
  | some op => op.slot
  | none => p

/-- The type of the operand printed at position `p`, if the formula shows one. -/
def operandType (info : OpcodeInfo) (p : Nat) : Option String :=
  info.types.get (info.slotForPosition p)

end OpcodeInfo

end LuaListing
