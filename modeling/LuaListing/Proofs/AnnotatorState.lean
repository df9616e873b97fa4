import LuaListing.Listing.Annotator
import LuaListing.Opcode.Version

/-!
# The annotator is a map over lines

The annotator carries two things from line to line: the symbol table of the function it is
in, and the number of instructions whose opcode has no description.  Both are functions of
the lines read so far, so annotating a listing is a map over its lines in which each line
sees only the lines before it:

* the current table is the table of the address of the last function header read, or the
  one current before the first line when no header has been read; no other line changes it;
* the count grows by one for each instruction read whose opcode has no description;
* a call on a line writes the line and then its annotation lines: those of an instruction
  under the current table, and none for any other line.

A call that meets a numeral with too many digits fails and leaves the annotator as it was,
so the lines of the statements above are the lines of the calls that succeeded.

## Main definitions

* `Annotator.headerAddress?` — the address of a line that reads as a function header.
* `Annotator.unknownAt` — whether a line reads as an instruction with an unknown opcode.
* `Annotator.tableAfter`, `Annotator.after` — the table and the annotator after some lines.
* `Annotator.annotationsOf`, `Annotator.recordsOf` — what a line writes under a table.
* `Annotator.feed` — lines fed to the annotator one call at a time.

## Main results

* `Annotator.step_after` — one call, as a function of the lines before it.
* `Annotator.feed_eq_after` — the annotator after any lines.
* `Annotator.fresh_annotator_is_line_map` — the calls of a fresh annotator.
-/

namespace LuaListing

namespace Annotator

/-! ### What a line tells the annotator -/

/-- The address of a line that reads as a function header. -/
def headerAddress? (line : List Glyph) : Option (List Glyph) :=
  match Token.classify line with
  | .ok (some (.functionHeader h)) => some h.address
  | _ => none

/-- Whether a line reads as an instruction whose opcode the table does not describe. -/
def unknownAt (opcodes : OpcodeTable) (line : List Glyph) : Bool :=
  match Token.classify line with
  | .ok (some (.instruction i)) => (opcodes.find? i.opcode).isNone
  | _ => false

/-- The table current after the lines `p`: the table of the address of the last function
header among them, or the one current before them when none of them is a header. -/
def tableAfter (a : Annotator) (p : List (List Glyph)) : Option SymbolTable :=
  match (p.filterMap headerAddress?).getLast? with
  | some address => a.tableAt address
  | none => a.current

/-- The annotator after the lines `p`, in closed form. -/
def after (a : Annotator) (p : List (List Glyph)) : Annotator :=
  { a with current := a.tableAfter p,
           unknownOpcodes := a.unknownOpcodes + p.countP (unknownAt a.opcodes) }

/-- The annotation lines of a line read as `tok` while `table` is current: those of an
instruction, none for any other line. -/
def annotationsOf (a : Annotator) (table : Option SymbolTable) : Option Token → List (List Glyph)
  | some (.instruction i) => ({ a with current := table }.annotateInstruction i).2.lines
  | _ => []

/-- The records logged for a line read as `tok` while `table` is current: the trace of
entering a function, or the records of annotating an instruction. -/
def recordsOf (a : Annotator) (table : Option SymbolTable) : Option Token → List Record
  | some (.functionHeader h) => (a.enterFunction h).2
  | some (.instruction i) => ({ a with current := table }.annotateInstruction i).2.records
  | _ => []

/-- The annotator after the lines `p` are fed to it one call at a time; a call that fails
leaves it as it was. -/
def feed (a : Annotator) : List (List Glyph) → Annotator
  | [] => a
  | line :: p =>
    match a.step line with
    | .ok (a', _) => a'.feed p
    | .error _ => a.feed p

@[simp] theorem feed_nil (a : Annotator) : a.feed [] = a := rfl

/-! ### One header, one instruction -/

theorem enterFunction_fst (a : Annotator) (h : FunctionHeader) :
    (a.enterFunction h).1 = { a with current := a.tableAt h.address } := rfl

/-- Entering a function logs one trace record, which says whether the function has a
symbol table. -/
theorem enterFunction_snd (a : Annotator) (h : FunctionHeader) :
    (a.enterFunction h).2 =
      [Record.trace (Glyph.ofString ((if (a.tableAt h.address).isSome then "Entering "
        else "No symbol table for ") ++ h.kind ++ " <") ++ h.source ++ Glyph.ofString "> at " ++
        h.address)] := by
  unfold enterFunction
  cases a.tableAt h.address <;> rfl

/-- Annotating an instruction changes the annotator only by counting an unknown opcode. -/
theorem annotateInstruction_fst (a : Annotator) (i : Instruction) :
    (a.annotateInstruction i).1 = { a with unknownOpcodes :=
      a.unknownOpcodes + if (a.opcodes.find? i.opcode).isNone then 1 else 0 } := by
  unfold annotateInstruction
  split
  · next h => simp [h]
  · next h =>
    simp only [h, Option.isNone_some]
    split
    · rfl
    · split
      · rfl
      · split <;> rfl

/-- What annotating an instruction writes depends on the opcodes, the layout and the current
table only. -/
theorem annotateInstruction_snd_congr {a b : Annotator} (i : Instruction)
    (hO : a.opcodes = b.opcodes) (hL : a.layout = b.layout) (hC : a.current = b.current) :
    (a.annotateInstruction i).2 = (b.annotateInstruction i).2 := by
  obtain ⟨O, S, L, C, n⟩ := a
  obtain ⟨O', S', L', C', n'⟩ := b
  simp only at hO hL hC
  subst hO hL hC
  unfold annotateInstruction
  cases O.find? i.opcode with
  | none => rfl
  | some info =>
    simp only
    split
    · rfl
    · cases C with
      | none => rfl
      | some table => by_cases he : i.operands.isEmpty <;> simp [he]

theorem splitOnAux_ne_nil (s sep : String) (b i j : String.Pos.Raw) (r : List String) :
    String.splitOnAux s sep b i j r ≠ [] := by
  fun_induction String.splitOnAux s sep b i j r <;> simp_all

/-- A formula gives at least one line, the bare marker when it is empty. -/
theorem formulaLines_ne_nil (l : Layout) (doc : String) : l.formulaLines doc ≠ [] := by
  have hsplit : (if doc.isEmpty then [""] else doc.splitOn "\n") ≠ [] := by
    split
    · simp
    · unfold String.splitOn
      split
      · simp
      · exact splitOnAux_ne_nil _ _ _ _ _ _
  unfold Layout.formulaLines
  split
  · simp
  · contradiction

/-- An instruction always gets at least one annotation line. -/
theorem annotateInstruction_lines_ne_nil (a : Annotator) (i : Instruction) :
    (a.annotateInstruction i).2.lines ≠ [] := by
  unfold annotateInstruction
  split
  · simp
  · have hf := formulaLines_ne_nil a.layout
    split
    · simp [hf]
    · split
      · simp [hf]
      · split <;> simp [hf]

theorem annotationsOf_eq_nil_iff (a : Annotator) (table : Option SymbolTable) (tok : Option Token) :
    a.annotationsOf table tok = [] ↔ ∀ i, tok ≠ some (.instruction i) := by
  rcases tok with _ | ⟨h⟩ | ⟨h⟩ | ⟨e⟩ | ⟨i⟩ <;>
    simp [annotationsOf, annotateInstruction_lines_ne_nil]

/-! ### The annotator after some lines -/

@[simp] theorem after_nil (a : Annotator) : a.after [] = a := rfl

@[simp] theorem tableAt_after (a : Annotator) (p : List (List Glyph)) :
    (a.after p).tableAt = a.tableAt := rfl

theorem tableAfter_append (a : Annotator) (p : List (List Glyph)) (line : List Glyph) :
    a.tableAfter (p ++ [line]) =
      match headerAddress? line with
      | some address => a.tableAt address
      | none => a.tableAfter p := by
  unfold tableAfter
  cases h : headerAddress? line with
  | none => simp [h]
  | some address => simp [h]

/-- One more line: a function header sets the table, an instruction with an unknown opcode
is counted, and nothing else changes. -/
theorem after_append (a : Annotator) (p : List (List Glyph)) (line : List Glyph) :
    a.after (p ++ [line]) =
      { a.after p with
        current := match headerAddress? line with
          | some address => a.tableAt address
          | none => a.tableAfter p,
        unknownOpcodes := (a.after p).unknownOpcodes + if unknownAt a.opcodes line then 1 else 0 } := by
  simp only [after, tableAfter_append, List.countP_append, List.countP_singleton]
  congr 1
  omega

/-- A line that cannot be read changes nothing. -/
theorem after_append_of_error {a : Annotator} {line : List Glyph} {e : DigitLimitError}
    (hc : Token.classify line = .error e) (p : List (List Glyph)) :
    a.after (p ++ [line]) = a.after p := by
  have hH : headerAddress? line = none := by simp [headerAddress?, hc]
  have hU : unknownAt a.opcodes line = false := by simp [unknownAt, hc]
  rw [after_append, hH, hU]
  rfl

/-- **One call after the lines `p`**: it fails exactly when the line cannot be read;
otherwise it writes the line followed by its annotation lines under the table current after
`p`, logs the line's records, and leaves the annotator after `p` and the line. -/
theorem step_after (a : Annotator) (p : List (List Glyph)) (line : List Glyph) :
    (a.after p).step line = (Token.classify line).map fun tok =>
      (a.after (p ++ [line]),
        ⟨line :: a.annotationsOf (a.tableAfter p) tok, a.recordsOf (a.tableAfter p) tok⟩) := by
  unfold step
  cases hc : Token.classify line with
  | error e => rfl
  | ok tok =>
    simp only [bind, Except.bind, Except.map, pure, Except.pure]
    rw [after_append]
    rcases tok with _ | ⟨h⟩ | ⟨h⟩ | ⟨e⟩ | ⟨i⟩
    · -- a line of no known shape
      have hH : headerAddress? line = none := by simp [headerAddress?, hc]
      have hU : unknownAt a.opcodes line = false := by simp [unknownAt, hc]
      simp [hH, hU, after, annotationsOf, recordsOf]
    · have hH : headerAddress? line = some h.address := by simp [headerAddress?, hc]
      have hU : unknownAt a.opcodes line = false := by simp [unknownAt, hc]
      simp [hH, hU, after, annotationsOf, recordsOf, enterFunction_fst, enterFunction_snd, tableAt]
    · have hH : headerAddress? line = none := by simp [headerAddress?, hc]
      have hU : unknownAt a.opcodes line = false := by simp [unknownAt, hc]
      simp [hH, hU, after, annotationsOf, recordsOf]
    · have hH : headerAddress? line = none := by simp [headerAddress?, hc]
      have hU : unknownAt a.opcodes line = false := by simp [unknownAt, hc]
      simp [hH, hU, after, annotationsOf, recordsOf]
    · have hH : headerAddress? line = none := by simp [headerAddress?, hc]
      have hU : unknownAt a.opcodes line = (a.opcodes.find? i.opcode).isNone := by
        simp [unknownAt, hc]
      -- the written lines do not see the count, only the table
      have hW := annotateInstruction_snd_congr (a := { a.after p with current := a.tableAfter p })
        (b := { a with current := a.tableAfter p }) i rfl rfl rfl
      simp only [after] at hW
      simp only [hH, hU, after, annotationsOf, recordsOf, annotateInstruction_fst, hW]

/-- Feeding lines one call at a time reaches the closed form. -/
theorem after_feed (a : Annotator) (p q : List (List Glyph)) :
    (a.after p).feed q = a.after (p ++ q) := by
  induction q generalizing p with
  | nil => simp
  | cons line q ih =>
    rw [feed, step_after]
    cases hc : Token.classify line with
    | error e =>
      -- the failed call leaves the annotator after `p`, which is the annotator after `p`
      -- and the line
      simp only [Except.map]
      rw [← after_append_of_error hc p, ih, List.append_assoc, List.singleton_append]
    | ok tok =>
      simp only [Except.map]
      rw [ih, List.append_assoc, List.singleton_append]

theorem feed_eq_after (a : Annotator) (p : List (List Glyph)) : a.feed p = a.after p := by
  simpa using after_feed a [] p

/-! ### A fresh annotator -/

/-- A fresh annotator has no table before the first function header. -/
theorem tableAfter_of_current_none {a : Annotator} (h : a.current = none)
    (p : List (List Glyph)) :
    a.tableAfter p = ((p.filterMap headerAddress?).getLast?).bind a.tableAt := by
  unfold tableAfter
  cases (p.filterMap headerAddress?).getLast? <;> simp [h]

/-- **The calls of a fresh annotator are a map over the lines.**  After the lines `p`, the
current table is the table of the address of the last function header among them (none
before the first header, or when the address has no table), and the count is the number of
instructions among them with an unknown opcode.  The next call fails exactly when its line
cannot be read; otherwise it writes the line, then the annotation lines of an instruction
under that table and none for any other line, and only a function header changes the
table.  A function header logs exactly one trace record, which says whether its address
has a table. -/
theorem fresh_annotator_is_line_map (opcodes : OpcodeTable) (symbols : List SymbolTable)
    (layout : Layout) (p : List (List Glyph)) (line : List Glyph) :
    let a : Annotator := { opcodes := opcodes, symbols := symbols, layout := layout }
    let table := ((p.filterMap headerAddress?).getLast?).bind a.tableAt
    (a.feed p).current = table ∧
    (a.feed p).unknownOpcodes = p.countP (unknownAt opcodes) ∧
    (a.feed p).step line = (Token.classify line).map (fun tok =>
      (a.feed (p ++ [line]), ⟨line :: a.annotationsOf table tok, a.recordsOf table tok⟩)) ∧
    (a.feed (p ++ [line])).current =
      (match headerAddress? line with
        | some address => a.tableAt address
        | none => (a.feed p).current) ∧
    (∀ tok, a.annotationsOf table tok = [] ↔ ∀ i, tok ≠ some (.instruction i)) ∧
    (∀ h, a.recordsOf table (some (.functionHeader h)) =
      [Record.trace (Glyph.ofString ((if (a.tableAt h.address).isSome then "Entering "
        else "No symbol table for ") ++ h.kind ++ " <") ++ h.source ++ Glyph.ofString "> at " ++
        h.address)]) := by
  intro a table
  have hT : a.tableAfter p = table := tableAfter_of_current_none rfl p
  refine ⟨?_, ?_, ?_, ?_, fun tok => annotationsOf_eq_nil_iff a table tok,
    fun h => enterFunction_snd a h⟩
  · rw [feed_eq_after, ← hT]
    rfl
  · rw [feed_eq_after]
    simp [after, a]
  · rw [feed_eq_after, feed_eq_after, step_after, hT]
  · rw [feed_eq_after, feed_eq_after, after_append]
    rfl

/-- A section header whose count has 4301 digits cannot be read: the call on it fails
rather than echo the line. -/
theorem step_fails_on_long_section_count :
    (({ opcodes := (LuaVersion.load .v51).1, symbols := [] } : Annotator).step
      (Glyph.ofString "x (" ++ List.replicate 4301 (.char '9') ++
        Glyph.ofString ") for 0x1:")).isOk = false := by
  decide +kernel

end Annotator

end LuaListing
