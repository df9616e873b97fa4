import Mathlib
import LuaListing.Listing.Annotator
import LuaListing.Proofs.RegisterScope

/-!
# The annotation lines of one instruction

An instruction is annotated by four cases, tested in this order.  An opcode the table does not
know gives one warning line and one warning record, and is counted.  A return of no values
(`RETURN 0 1 …`) gives the opcode's formula and a fixed operand text, whatever the function's
symbol table.  Without a symbol table, or without operands, the formula stands alone.
Otherwise the formula is followed by one line of operands, each shown as its decimal value and
the symbol it names, if any.

Which symbol an operand names depends on the type of the slot it fills (the slot of the
signature operand at its position, else the slot of the same number): a register names the
local at its place among the locals in scope, a constant the constant at minus its value, an
upvalue the upvalue at its value; a register-or-constant operand is a constant when negative.
Every symbol found is traced by exactly one record, in the order of the operands.

## Main definitions

* `Annotator.Symbol` — a local, a constant or an upvalue that an operand names.
* `Annotator.kindOf` — the type an operand is read as, by the slot rule.
* `Annotator.symbolOf` — the symbol an operand names.
* `Annotator.Symbol.mark`, `Annotator.Symbol.trace` — how it is shown and traced.

## Main results

* `OpcodeInfo.operandType_eq` — the type of a printed operand, by the slot rule.
* `Annotator.renderOperand_eq`, `Annotator.renderOperands_eq` — the operand text and its
  trace, one record for each symbol found.
* `Annotator.annotateInstruction_cases` — the annotation of an instruction, case by case.
-/

namespace LuaListing

namespace OpcodeInfo

/-- The type of the operand printed at position `p`: that of the slot of the `p`-th signature
operand; past the signature, that of slot `p`, and none from slot 3 on. -/
theorem operandType_eq (info : OpcodeInfo) (p : Nat) :
    info.operandType p =
      if h : p < info.signature.length then info.types.get info.signature[p].slot
      else if p < 3 then info.types.get p else none := by
  unfold operandType slotForPosition
  split
  · next op hop =>
    obtain ⟨h, rfl⟩ := List.getElem?_eq_some_iff.mp hop
    rw [dif_pos h]
  · next hnone =>
    rw [dif_neg (by simpa using hnone)]
    split
    · rfl
    · -- slots from 3 on carry no type
      obtain ⟨q, rfl⟩ : ∃ q, p = q + 3 := ⟨p - 3, by omega⟩
      rfl

end OpcodeInfo

namespace Annotator

/-- What an operand can name in a function's symbol table. -/
inductive Symbol where
  /-- A local, with whether the match is uncertain. -/
  | register (l : LocalVar) (uncertain : Bool)
  /-- A constant, by its name. -/
  | constant (name : List Glyph)
  /-- An upvalue, by its name. -/
  | upvalue (name : List Glyph)
  deriving DecidableEq, Repr

/-- The type the operand with value `v` at position `p` is read as: the type of the slot of the
signature operand at position `p`, and past the signature that of slot `p` (none from slot 3
on); a register-or-constant is a constant when negative and a register otherwise. -/
def kindOf (info : OpcodeInfo) (p : Nat) (v : Int) : Option String :=
  let slotType := if h : p < info.signature.length then info.types.get info.signature[p].slot
    else if p < 3 then info.types.get p else none
  if slotType = some "RK" then some (if v < 0 then "Kst" else "R") else slotType

theorem operandKind_eq_kindOf (info : OpcodeInfo) (p : Nat) (v : Int) :
    operandKind info p v = kindOf info p v := by
  rw [operandKind, kindOf, ← OpcodeInfo.operandType_eq]
  split
  · next hrk => rw [if_pos hrk]
  · next hrk => rw [if_neg hrk]

/-- The symbol that the operand with value `v` at position `p` names at `pc` in table `t`.
A register names the local at place `v` among the locals in scope at `pc`, uncertain on the
instruction before the local's start; a constant operand names the constant at `-v`; an
upvalue operand the upvalue at `v`; other operands name nothing. -/
def symbolOf (info : OpcodeInfo) (p : Nat) (v : Int) (pc : Nat) (t : SymbolTable) :
    Option Symbol :=
  let kind := kindOf info p v
  if kind = some "R" then
    if 0 ≤ v then
      ((t.orderedLocals.filter (·.inScope pc))[v.toNat]?).map fun l =>
        .register l ((pc : Int) == l.start - 1)
    else none
  else if kind = some "Kst" then (t.constant? (-v)).map .constant
  else if kind = some "UpValue" then (t.upvalue? v).map .upvalue
  else none

/-- How a symbol is shown after the operand's value: its name in angle brackets, after `?` for
an uncertain local and `^` for an upvalue. -/
def Symbol.mark : Symbol → List Glyph
  | .register l uncertain =>
    Glyph.ofString (if uncertain then "<?" else "<") ++ l.name ++ Glyph.ofString ">"
  | .constant name => Glyph.ofString "<" ++ name ++ Glyph.ofString ">"
  | .upvalue name => Glyph.ofString "<^" ++ name ++ Glyph.ofString ">"

/-- What opens every trace record of the operands of the instruction at `pc`. -/
def tracePrefix (pc : Nat) : String := "pc " ++ toString pc ++ ": "

/-- The trace record of finding a symbol for the operand with value `v` at `pc`. -/
def Symbol.trace (pc : Nat) (v : Int) : Symbol → Record
  | .register l uncertain =>
    Record.trace (Glyph.ofString (tracePrefix pc ++ "R(" ++ toString v ++ ") -> ") ++ l.name ++
      Glyph.ofString (if uncertain then " (uncertain)" else ""))
  | .constant name =>
    Record.trace (Glyph.ofString (tracePrefix pc ++ "Kst(" ++ toString v ++ ") -> ") ++ name)
  | .upvalue name =>
    Record.trace (Glyph.ofString (tracePrefix pc ++ "UpValue[" ++ toString v ++ "] -> ") ++ name)

/-- An operand as shown: its decimal value, then the symbol it names, if any. -/
def shown (v : Int) (s : Option Symbol) : List Glyph :=
  Glyph.ofString (toString v) ++ (s.map Symbol.mark).getD []

/-- **One operand**: its value and the symbol it names, traced by one record exactly when there
is a symbol. -/
theorem renderOperand_eq (info : OpcodeInfo) (p : Nat) (v : Int) (pc : Nat) (t : SymbolTable) :
    renderOperand info p v pc t =
      (shown v (symbolOf info p v pc t), ((symbolOf info p v pc t).map (Symbol.trace pc v)).toList) := by
  unfold renderOperand symbolOf
  rw [operandKind_eq_kindOf]
  split
  · next hk =>
    -- a register: the resolver reads the locals in scope
    rw [resolveRegister_eq_getElem?, if_pos hk]
    by_cases hv : 0 ≤ v
    · cases (t.orderedLocals.filter (·.inScope pc))[v.toNat]? <;>
        simp [hv, matchAt, shown, Symbol.mark, Symbol.trace, tracePrefix]
    · simp [hv, shown]
  · next hk =>
    rw [if_neg (by simp [hk]), if_pos hk]
    cases t.constant? (-v) <;> simp [shown, Symbol.mark, Symbol.trace, tracePrefix]
  · next hk =>
    rw [if_neg (by simp [hk]), if_neg (by simp [hk]), if_pos hk]
    cases t.upvalue? v <;> simp [shown, Symbol.mark, Symbol.trace, tracePrefix]
  · next hR hK hU =>
    -- an operand of any other type names nothing
    rw [if_neg hR, if_neg hK, if_neg hU]
    simp [shown]

/-- Pairing the items of a list with `0, 1, 2, …` is numbering them. -/
theorem map_zip_range_eq_mapIdx {α β : Type} (vs : List α) (f : Nat × α → β) :
    ((List.range vs.length).zip vs).map f = vs.mapIdx fun p v => f (p, v) := by
  rw [List.mapIdx_eq_zipIdx_map, List.zipIdx_eq_zip_range', ← List.range_eq_range',
    ← List.zip_swap, List.map_map]
  rfl

/-- Keeping the values among some options is joining them as lists of at most one item. -/
theorem reduceOption_map {α β : Type} (l : List α) (f : α → Option β) :
    (l.map f).reduceOption = l.flatMap fun a => (f a).toList := by
  induction l with
  | nil => rfl
  | cons a l ih =>
    cases h : f a with
    | none => simp [List.reduceOption_cons_of_none, h, ih]
    | some b => simp [List.reduceOption_cons_of_some, h, ih]

/-- **The operands of an instruction**: each shown at its position, joined by single spaces;
the trace holds one record for each operand that names a symbol, in the order of the
operands. -/
theorem renderOperands_eq (info : OpcodeInfo) (pc : Nat) (t : SymbolTable) (vs : List Int) :
    renderOperands info pc t vs =
      ((Glyph.ofString " ").intercalate (vs.mapIdx fun p v => shown v (symbolOf info p v pc t)),
        (vs.mapIdx fun p v => (symbolOf info p v pc t).map (Symbol.trace pc v)).reduceOption) := by
  unfold renderOperands
  rw [map_zip_range_eq_mapIdx]
  simp only [renderOperand_eq, List.mapIdx_eq_zipIdx_map, List.map_map, reduceOption_map,
    List.flatMap_map, Function.comp_def]

/-- A return of no values: `RETURN` with at least two operands, the first two `0` and `1`. -/
theorem returnsNothing_iff (i : Instruction) :
    returnsNothing i = true ↔ i.opcode = "RETURN" ∧ ∃ rest, i.operands = 0 :: 1 :: rest := by
  unfold returnsNothing
  rw [Bool.and_eq_true, beq_iff_eq, beq_iff_eq]
  -- the first two operands decide, when there are two
  match i.operands with
  | [] => simp
  | [v] => simp
  | v :: w :: rest => simp

theorem returnsNothing_eq_false {i : Instruction}
    (h : ¬(i.opcode = "RETURN" ∧ ∃ rest, i.operands = 0 :: 1 :: rest)) : returnsNothing i = false :=
  Bool.eq_false_iff.mpr (mt (returnsNothing_iff i).mp h)

/-- **The annotation of an instruction**, by the cases in the order they are tested.  An opcode
the table does not know is counted and gives exactly one warning line and one warning record.
A known opcode leaves the annotator as it was and gives the lines of its formula, then: for a
return of no values the fixed operand text, whatever the symbol table; without a symbol table
or without operands nothing more; otherwise one line of the operands, each shown as its value
and the symbol it names, with one trace record for each symbol found. -/
theorem annotateInstruction_cases (a : Annotator) (i : Instruction) :
    (a.opcodes.find? i.opcode = none →
      a.annotateInstruction i = ({ a with unknownOpcodes := a.unknownOpcodes + 1 },
        ⟨[a.layout.warningLine (Glyph.ofString ("unknown opcode " ++ i.opcode))],
          [Record.warning (Glyph.ofString ("Unknown opcode " ++ i.opcode ++ " at pc " ++
            toString i.pc))]⟩)) ∧
    ∀ info, a.opcodes.find? i.opcode = some info →
      let formula := (a.layout.formulaLines info.doc).map Glyph.ofString
      ((i.opcode = "RETURN" ∧ ∃ rest, i.operands = 0 :: 1 :: rest) →
        a.annotateInstruction i =
          (a, ⟨formula ++ [a.layout.operandLine (Glyph.ofString a.layout.returnsNothing)], []⟩)) ∧
      (¬(i.opcode = "RETURN" ∧ ∃ rest, i.operands = 0 :: 1 :: rest) →
        a.current = none ∨ i.operands = [] → a.annotateInstruction i = (a, ⟨formula, []⟩)) ∧
      (∀ t, ¬(i.opcode = "RETURN" ∧ ∃ rest, i.operands = 0 :: 1 :: rest) →
        a.current = some t → i.operands ≠ [] →
        a.annotateInstruction i = (a, ⟨formula ++ [a.layout.operandLine
            ((Glyph.ofString " ").intercalate
              (i.operands.mapIdx fun p v => shown v (symbolOf info p v i.pc t)))],
          (i.operands.mapIdx fun p v =>
            (symbolOf info p v i.pc t).map (Symbol.trace i.pc v)).reduceOption⟩)) := by
  refine ⟨fun h => by rw [annotateInstruction, h], fun info h => ?_⟩
  intro formula
  refine ⟨fun hr => ?_, fun hr hnone => ?_, fun t hr ht hne => ?_⟩
  · -- a return of no values is tested before the symbol table
    rw [annotateInstruction, h]
    simp only [(returnsNothing_iff i).mpr hr, if_true]
    rfl
  · -- no symbol table, or no operands: the formula alone
    rw [annotateInstruction, h]
    simp only [returnsNothing_eq_false hr, Bool.false_eq_true, if_false]
    rcases hnone with hc | ho
    · rw [hc]
    · cases a.current with
      | none => rfl
      | some t => simp [ho, formula]
  · rw [annotateInstruction, h]
    simp only [returnsNothing_eq_false hr, Bool.false_eq_true, if_false, ht, renderOperands_eq]
    simp [hne, formula]

/-- The cases at a table that knows only `MOVE`, inside a function: a `MOVE` with operands
gets its formula and one line of its operands, and an opcode the table does not know gets
the warning. -/
theorem annotateInstruction_cases_move :
    let move : OpcodeInfo := ⟨"MOVE", [], "R(A) := R(B)", {}⟩
    let t : SymbolTable := { address := [] }
    let a : Annotator :=
      { opcodes := OpcodeTable.empty.insert move, symbols := [t], current := some t }
    let i : Instruction := ⟨1, some 1, "MOVE", [1, 0], none⟩
    let unknown : Instruction := ⟨2, some 1, "FOO", [], none⟩
    a.opcodes.find? i.opcode = some move ∧
    ¬(i.opcode = "RETURN" ∧ ∃ rest, i.operands = 0 :: 1 :: rest) ∧ i.operands ≠ [] ∧
    a.annotateInstruction i = (a, ⟨(a.layout.formulaLines move.doc).map Glyph.ofString ++
        [a.layout.operandLine ((Glyph.ofString " ").intercalate
          (i.operands.mapIdx fun p v => shown v (symbolOf move p v i.pc t)))],
      (i.operands.mapIdx fun p v =>
        (symbolOf move p v i.pc t).map (Symbol.trace i.pc v)).reduceOption⟩) ∧
    a.opcodes.find? unknown.opcode = none ∧
    a.annotateInstruction unknown = ({ a with unknownOpcodes := a.unknownOpcodes + 1 },
      ⟨[a.layout.warningLine (Glyph.ofString ("unknown opcode " ++ unknown.opcode))],
        [Record.warning (Glyph.ofString ("Unknown opcode " ++ unknown.opcode ++ " at pc " ++
          toString unknown.pc))]⟩) := by
  intro move t a i unknown
  have hfind : a.opcodes.find? i.opcode = some move := by decide
  have hr : ¬(i.opcode = "RETURN" ∧ ∃ rest, i.operands = 0 :: 1 :: rest) := by simp [i]
  have hne : i.operands ≠ [] := by simp [i]
  have hunknown : a.opcodes.find? unknown.opcode = none := by decide
  exact ⟨hfind, hr, hne, ((annotateInstruction_cases a i).2 move hfind).2.2 t hr rfl hne,
    hunknown, (annotateInstruction_cases a unknown).1 hunknown⟩

end Annotator

end LuaListing
