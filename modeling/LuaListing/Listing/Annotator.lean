import LuaListing.Listing.Symbols
import LuaListing.Listing.Layout
import LuaListing.Opcode.Table
import LuaListing.Text.Lines

/-!
# Annotating a listing

The second pass echoes every line of a listing and writes annotation lines after each
instruction: the opcode's formula, and the operands decorated with the symbols they name,
when the function's symbol table is known:

    	1	[1]	LOADK    	0 -1	; "hi"
                            -- R(A) := Kst(Bx)
                            -> 0<?msg> -1<"hi">

An operand whose slot has type `R` names a local when its register resolves (`<?name>` on
the uncertain instruction before the local's start); `Kst` names the constant at minus the
operand; `UpValue` names an upvalue; `RK` is a constant when negative and a register
otherwise.  A return of no values (`RETURN 0 1`) shows a fixed text instead.  An unknown
opcode gives a warning line.

The annotator is a transducer: the only state carried from line to line is the symbol table
of the function whose header came last, and the count of instructions with unknown
opcodes.  A function header sets the table (to none when its address has no symbols); no
other line changes it.

## Main definitions

* `Annotator` — opcodes, symbols, layout, and the state.
* `Annotator.renderOperand`, `Annotator.annotateInstruction`, `Annotator.step`.
* `Annotator.run` — the transducer over a sequence of lines.
* `annotateListing` — both passes over a whole listing.
* `annotateText` — the same over the text of a listing, cut into lines and put back together.
-/

namespace LuaListing

/-- The result of annotating one line: the lines written, in order, and the log records. -/
structure Written where
  /-- The echoed line and the annotation lines after it. -/
  lines : List (List Glyph)
  /-- The records logged while annotating it. -/
  records : List Record
  deriving DecidableEq, Repr

/-- The second-pass transducer. -/
structure Annotator where
  /-- The opcode descriptions. -/
  opcodes : OpcodeTable
  /-- The symbol tables of every function of the listing. -/
  symbols : List SymbolTable
  /-- How annotations are laid out. -/
  layout : Layout := {}
  /-- The symbol table of the function whose header came last. -/
  current : Option SymbolTable := none
  /-- How many instructions had an unknown opcode so far. -/
  unknownOpcodes : Nat := 0

namespace Annotator

/-- The symbol table for an address. -/
def tableAt (a : Annotator) (address : List Glyph) : Option SymbolTable :=
  a.symbols.find? fun t => t.address == address

/-- Enter the function a header introduces: its table becomes the current one, and the
trace says whether it has one. -/
def enterFunction (a : Annotator) (h : FunctionHeader) : Annotator × List Record :=
  let table := a.tableAt h.address
  let opening := match table with
    | some _ => "Entering "
    | none => "No symbol table for "
  ({ a with current := table },
    [Record.trace (Glyph.ofString (opening ++ h.kind ++ " <") ++ h.source ++
      Glyph.ofString "> at " ++ h.address)])

/-- The type an operand is read as: a register-or-constant operand is a constant when
negative and a register otherwise. -/
def operandKind (info : OpcodeInfo) (position : Nat) (value : Int) : Option String :=
  match info.operandType position with
  | some "RK" => some (if value < 0 then "Kst" else "R")
  | kind => kind

/-- One operand as written, with the symbol it names when the table knows it, and the trace
of the lookup. -/
def renderOperand (info : OpcodeInfo) (position : Nat) (value : Int) (pc : Nat)
    (table : SymbolTable) : List Glyph × List Record :=
  let plain := (Glyph.ofString (toString value), [])
  let number := Glyph.ofString (toString value)
  let start := "pc " ++ toString pc ++ ": "
  match operandKind info position value with
  | some "R" =>
    match resolveRegister value table.orderedLocals pc with
    | some (l, uncertain) =>
      (number ++ Glyph.ofString (if uncertain then "<?" else "<") ++ l.name ++ Glyph.ofString ">",
        [Record.trace (Glyph.ofString (start ++ "R(" ++ toString value ++ ") -> ") ++ l.name ++
          Glyph.ofString (if uncertain then " (uncertain)" else ""))])
    | none => plain
  | some "Kst" =>
    match table.constant? (-value) with
    | some name =>
      (number ++ Glyph.ofString "<" ++ name ++ Glyph.ofString ">",
        [Record.trace (Glyph.ofString (start ++ "Kst(" ++ toString value ++ ") -> ") ++ name)])
    | none => plain
  | some "UpValue" =>
    match table.upvalue? value with
    | some name =>
      (number ++ Glyph.ofString "<^" ++ name ++ Glyph.ofString ">",
        [Record.trace (Glyph.ofString (start ++ "UpValue[" ++ toString value ++ "] -> ") ++ name)])
    | none => plain
  | _ => plain

/-- The operands of an instruction, each rendered at its position, joined by spaces. -/
def renderOperands (info : OpcodeInfo) (pc : Nat) (table : SymbolTable) (operands : List Int) :
    List Glyph × List Record :=
  let rendered := (List.range operands.length).zip operands |>.map fun (p, v) =>
    renderOperand info p v pc table
  (List.intercalate (Glyph.ofString " ") (rendered.map (·.1)), rendered.flatMap (·.2))

/-- Whether an instruction returns no values: `RETURN` with first operands `0 1`. -/
def returnsNothing (i : Instruction) : Bool := i.opcode == "RETURN" && i.operands.take 2 == [0, 1]

/-- The annotation lines of an instruction and the records they log, with the updated
count of unknown opcodes. -/
def annotateInstruction (a : Annotator) (i : Instruction) : Annotator × Written :=
  match a.opcodes.find? i.opcode with
  | none =>
    ({ a with unknownOpcodes := a.unknownOpcodes + 1 },
      ⟨[a.layout.warningLine (Glyph.ofString ("unknown opcode " ++ i.opcode))],
       [Record.warning (Glyph.ofString ("Unknown opcode " ++ i.opcode ++ " at pc " ++
          toString i.pc))]⟩)
  | some info =>
    let formula := (a.layout.formulaLines info.doc).map Glyph.ofString
    if returnsNothing i then
      (a, ⟨formula ++ [a.layout.operandLine (Glyph.ofString a.layout.returnsNothing)], []⟩)
    else
      match a.current with
      | none => (a, ⟨formula, []⟩)
      | some table =>
        if i.operands.isEmpty then (a, ⟨formula, []⟩)
        else
          let ops := renderOperands info i.pc table i.operands
          (a, ⟨formula ++ [a.layout.operandLine ops.1], ops.2⟩)

/-- Annotate one line: a function header enters its function, an instruction gets its
annotation lines; a line holding a numeral that is too long stops the annotator. -/
def step (a : Annotator) (line : List Glyph) : Except DigitLimitError (Annotator × Written) := do
  match ← Token.classify line with
  | some (.functionHeader h) =>
    let entered := a.enterFunction h
    return (entered.1, ⟨[line], entered.2⟩)
  | some (.instruction i) =>
    let done := a.annotateInstruction i
    return (done.1, ⟨line :: done.2.lines, done.2.records⟩)
  | _ => return (a, ⟨[line], []⟩)

/-- Annotate a sequence of lines, one step after another. -/
def run (a : Annotator) : List (List Glyph) → Except DigitLimitError (Annotator × Written)
  | [] => .ok (a, ⟨[], []⟩)
  | l :: ls => do
    let (a', first) ← a.step l
    let (a'', rest) ← run a' ls
    return (a'', ⟨first.lines ++ rest.lines, first.records ++ rest.records⟩)

end Annotator

/-- Both passes over the lines of a listing: the symbols are collected from all lines
first, then every line is annotated.  Returns the final annotator (for its count of unknown
opcodes), the lines written and all records in the order they were logged. -/
def annotateListing (opcodes : OpcodeTable) (layout : Layout) (lines : List (List Glyph)) :
    Except DigitLimitError (Annotator × Written) := do
  let (symbols, collected) ← collectSymbols lines
  let (a, done) ← Annotator.run { opcodes := opcodes, symbols := symbols, layout := layout } lines
  return (a, ⟨done.lines, collected ++ done.records⟩)

/-- The text a listing's text becomes: its lines, cut at line feeds, go through both passes,
and the lines written are put back together, each followed by a line feed. -/
def annotateText (opcodes : OpcodeTable) (layout : Layout) (text : List Glyph) :
    Except DigitLimitError (List Glyph) :=
  (annotateListing opcodes layout (Lines.split text)).map fun r => Lines.join r.2.lines

end LuaListing
