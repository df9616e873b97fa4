import Mathlib
import LuaListing.Proofs.FormulaContinuations
import LuaListing.Proofs.AnnotatorState
import LuaListing.Proofs.InstructionAnnotation
import LuaListing.Proofs.InstructionLines

/-!
# Annotation lines are passed over

After an instruction an annotator writes the lines of the opcode's formula, a line of
operands, or a warning.  Each starts with the padding of the layout and then its marker,
except a formula's continuation lines, which go on with the formula's own text.  Read again,
such a line is neither an instruction nor a section row, both of which open with a numeral
after their leading blanks: the markers `-- `, `-> ` and `!! ` do not, nor does a
continuation line of a formula with plain continuations (`FormulaContinuations`).  An
indented line of no known shape changes no state when a listing is read again: the first
pass ignores it, in a section or not, and the annotator echoes it alone.

An annotation line holds no line feed either, as long as the symbol names do not; every name
the first pass stores was read from a row, which ends at the first line feed.

## Main definitions

* `Inert` — a line that starts with a blank and reads as neither an instruction nor a row.
* `SymbolTable.NamesPlain` — no name of a table holds a line feed.

## Main results

* `Annotator.mem_lines_annotateInstruction` — the shapes of annotation lines.
* `Annotator.inert_of_mem_annotateInstruction` — every annotation line is inert.
* `Annotator.step_of_inert`, `Collector.feed_of_inert` — an inert line changes no state.
* `Annotator.lf_not_mem_of_mem_annotateInstruction` — annotation lines hold no line feed.
* `Collector.namesPlain_run` — the first pass stores names without line feeds.
-/

namespace LuaListing

/-! ### Lines a second reading passes over -/

/-- A line a second reading passes over: it starts with a blank, and neither an instruction
nor a section row can be read from it. -/
structure Inert (y : List Glyph) : Prop where
  /-- It starts with a blank, so it is no header. -/
  blank : startsWithBlank y = true
  /-- It is no instruction. -/
  notInstruction : Instruction.read? y = none
  /-- It is no section row. -/
  notEntry : SectionEntry.read? y = none

namespace Lexeme

theorem natural_eq_none {gs : List Glyph} (h : ∀ g ∈ gs.head?, g.isDigit = false) :
    natural gs = none := by
  cases gs with
  | nil => rfl
  | cons g rest =>
    have hg : g.isDigit = false := h g rfl
    simp [natural, hg]

theorem natural_eq_none_of_integer {gs : List Glyph} (h : integer gs = none) :
    natural gs = none := by
  unfold integer at h
  split at h
  · exact natural_eq_none fun g hg => by
      simp only [List.head?_cons, Option.mem_def, Option.some.injEq] at hg
      subst hg
      rfl
  · exact h

/-- A text that does not open with a numeral gives no integer. -/
theorem integer_map_char {cs : List Char} (h : opensNumeral cs = false) :
    integer (cs.map Glyph.char) = none := by
  rcases cs with _ | ⟨c, rest⟩
  · rfl
  · simp only [opensNumeral, Bool.or_eq_false_iff, Bool.and_eq_false_iff, beq_eq_false_iff_ne]
      at h
    obtain ⟨hc, hminus⟩ := h
    have hrest : c = '-' → ∀ g ∈ (rest.map Glyph.char).head?, g.isDigit = false := by
      intro hm g hg
      rcases rest with _ | ⟨d, rest⟩
      · simp at hg
      · simp only [List.map_cons, List.head?_cons, Option.mem_def, Option.some.injEq] at hg
        subst hg
        simp only [Glyph.isDigit, Glyph.digit?]
        simpa [hm] using hminus
    unfold integer
    split
    · next rest' heq =>
      simp only [List.map_cons, List.cons.injEq, Glyph.char.injEq] at heq
      obtain ⟨rfl, rfl⟩ := heq
      rw [natural_eq_none (hrest rfl)]
      rfl
    · exact natural_eq_none fun g hg => by
        simp only [List.map_cons, List.head?_cons, Option.mem_def, Option.some.injEq] at hg
        subst hg
        exact hc

end Lexeme

theorem isBlank_space : Glyph.isBlank (.char ' ') = true := by decide

/-- A line that opens with spaces and then no numeral is passed over. -/
theorem inert_of_indent {k : Nat} (hk : 0 < k) {y : List Glyph}
    (hy : Lexeme.integer (y.dropWhile Glyph.isBlank) = none) :
    Inert (List.replicate k (.char ' ') ++ y) := by
  obtain ⟨k, rfl⟩ : ∃ k', k = k' + 1 := ⟨k - 1, by omega⟩
  have hdrop : (List.replicate (k + 1) (Glyph.char ' ') ++ y).dropWhile Glyph.isBlank =
      y.dropWhile Glyph.isBlank :=
    List.dropWhile_append_of_pos fun g hg => by
      rw [List.eq_of_mem_replicate hg]
      exact isBlank_space
  have hblanks : Lexeme.blanks1 (List.replicate (k + 1) (.char ' ') ++ y) =
      some (y.dropWhile Glyph.isBlank) := by
    rw [← hdrop, List.replicate_succ, List.cons_append, Lexeme.blanks1, if_pos isBlank_space]
  have hnat := Lexeme.natural_eq_none_of_integer hy
  refine ⟨?_, ?_, ?_⟩
  · rw [List.replicate_succ, List.cons_append, startsWithBlank]
    exact isBlank_space
  · simp [Instruction.read?, hblanks, hnat]
  · simp [SectionEntry.read?, hblanks, hy]

/-- What the rest of an indented line opens with, when it is a trimmed text. -/
theorem integer_dropWhile_trim {l : List Char} (h : opensNumeral (trim l) = false) :
    Lexeme.integer (((trim l).map Glyph.char).dropWhile Glyph.isBlank) = none := by
  have hkeep : (trim l).dropWhile isBlankChar = trim l := by
    cases ht : trim l with
    | nil => rfl
    | cons c r => exact List.dropWhile_cons_of_neg (by simp [head?_trim l (c := c) (by simp [ht])])
  have hfun : (Glyph.isBlank ∘ Glyph.char) = isBlankChar := rfl
  rw [List.dropWhile_map, hfun, hkeep]
  exact Lexeme.integer_map_char h

/-! ### The shapes of annotation lines -/

/-- Dropping trailing blanks stops at the last character that is not blank. -/
theorem trimEnd_append_cons (a : List Char) {c : Char} (hc : isBlankChar c = false)
    (l : List Char) : trimEnd (a ++ c :: l) = a ++ c :: trimEnd l := by
  unfold trimEnd
  rw [List.reverse_append, List.reverse_cons, List.append_assoc, List.dropWhile_append]
  split
  · next h =>
    rw [List.isEmpty_iff.mp h, List.singleton_append, List.dropWhile_cons_of_neg (by simp [hc])]
    simp
  · simp

theorem trimEnd_cons {c : Char} (hc : isBlankChar c = false) (l : List Char) :
    trimEnd (c :: l) = c :: trimEnd l :=
  trimEnd_append_cons [] hc l

namespace Layout

variable {l : Layout}

theorem ofString_padding (l : Layout) :
    Glyph.ofString l.padding = List.replicate l.column.toNat (.char ' ') := by
  simp [padding, Glyph.ofString]

theorem inert_operandLine (hc : 1 ≤ l.column) (ho : l.operandMarker = "-> ")
    (text : List Glyph) : Inert (l.operandLine text) := by
  rw [operandLine, Glyph.ofString_append, ofString_padding, ho, List.append_assoc]
  exact inert_of_indent (by omega) rfl

theorem inert_warningLine (hc : 1 ≤ l.column) (hw : l.warningMarker = "!! ")
    (text : List Glyph) : Inert (l.warningLine text) := by
  rw [warningLine, Glyph.ofString_append, ofString_padding, hw, List.append_assoc]
  exact inert_of_indent (by omega) rfl

/-- The first line of a formula opens with the formula marker `--`. -/
theorem inert_firstFormulaLine (hc : 1 ≤ l.column) (hf : l.formulaMarker = "-- ")
    (first : String) :
    Inert (Glyph.ofString (String.trimBlankEnd (l.padding ++ l.formulaMarker ++ first))) := by
  have hm : (l.padding ++ l.formulaMarker ++ first).toList =
      List.replicate l.column.toNat ' ' ++ '-' :: '-' :: ' ' :: first.toList := by
    simp [padding, hf]
  have hdash : isBlankChar '-' = false := by decide
  rw [String.trimBlankEnd, Glyph.ofString, String.toList_ofList, hm,
    trimEnd_append_cons _ hdash, trimEnd_cons hdash, List.map_append,
    List.map_replicate]
  exact inert_of_indent (by omega) rfl

/-- A continuation line of a formula opens with the trimmed text of its line. -/
theorem inert_continuation (hc : 1 ≤ l.column) {line : String}
    (hline : opensNumeral (trim line.toList) = false) :
    Inert (Glyph.ofString (l.padding ++ String.ofList (List.replicate l.formulaMarker.length ' ') ++
      String.trimBlank line)) := by
  rw [Glyph.ofString_append, Glyph.ofString_append, ofString_padding, String.trimBlank]
  simp only [Glyph.ofString, String.toList_ofList, List.map_replicate]
  rw [List.replicate_append_replicate]
  exact inert_of_indent (by omega) (integer_dropWhile_trim hline)

/-- **Every line of a formula with plain continuations is passed over.** -/
theorem inert_formulaLines (hc : 1 ≤ l.column) (hf : l.formulaMarker = "-- ") {doc : String}
    (hdoc : PlainContinuations doc) : ∀ x ∈ l.formulaLines doc, Inert (Glyph.ofString x) := by
  intro x hx
  unfold formulaLines at hx
  split at hx
  · next first rest hsplit =>
    rcases List.mem_cons.mp hx with rfl | hx
    · exact inert_firstFormulaLine hc hf first
    · obtain ⟨line, hline, rfl⟩ := List.mem_map.mp hx
      -- a continuation line is a line of the formula after the first
      have htail : line ∈ (doc.splitOn "\n").tail := by
        split at hsplit
        · simp only [List.cons.injEq] at hsplit
          rw [← hsplit.2] at hline
          simp at hline
        · rw [hsplit]
          exact hline
      exact inert_continuation hc (hdoc line htail)
  · simp at hx

end Layout

namespace Annotator

/-- **What an annotation line is**: the warning for an unknown opcode, or, for a known one, a
line of its formula or its one line of operands, which shows the text for a return of no
values or the operands decorated from the current table. -/
theorem mem_lines_annotateInstruction {a : Annotator} {i : Instruction} {y : List Glyph}
    (hy : y ∈ (a.annotateInstruction i).2.lines) :
    y = a.layout.warningLine (Glyph.ofString ("unknown opcode " ++ i.opcode)) ∨
      ∃ info ∈ a.opcodes.find? i.opcode,
        (∃ x ∈ a.layout.formulaLines info.doc, y = Glyph.ofString x) ∨
        y = a.layout.operandLine (Glyph.ofString a.layout.returnsNothing) ∨
        ∃ t ∈ a.current, y = a.layout.operandLine (renderOperands info i.pc t i.operands).1 := by
  unfold annotateInstruction at hy
  split at hy
  · exact .inl (List.mem_singleton.mp hy)
  · next info hinfo =>
    refine .inr ⟨info, hinfo, ?_⟩
    have hformula : y ∈ (a.layout.formulaLines info.doc).map Glyph.ofString →
        ∃ x ∈ a.layout.formulaLines info.doc, y = Glyph.ofString x := fun h =>
      (List.mem_map.mp h).imp fun _ ⟨hx, e⟩ => ⟨hx, e.symm⟩
    -- every case writes the formula, some then one line of operands
    split at hy
    · rcases List.mem_append.mp hy with hy | hy
      · exact .inl (hformula hy)
      · exact .inr (.inl (List.mem_singleton.mp hy))
    · split at hy
      · exact .inl (hformula hy)
      · next t ht =>
        split at hy
        · exact .inl (hformula hy)
        · rcases List.mem_append.mp hy with hy | hy
          · exact .inl (hformula hy)
          · exact .inr (.inr ⟨t, ht, List.mem_singleton.mp hy⟩)

/-- **Every annotation line is passed over** when the layout has a column of at least one, the
default markers, and the table's formulas have plain continuations. -/
theorem inert_of_mem_annotateInstruction (a : Annotator) (hO : a.opcodes.DocsPlain)
    (hc : 1 ≤ a.layout.column) (hf : a.layout.formulaMarker = "-- ")
    (ho : a.layout.operandMarker = "-> ") (hw : a.layout.warningMarker = "!! ") (i : Instruction) :
    ∀ y ∈ (a.annotateInstruction i).2.lines, Inert y := by
  intro y hy
  rcases mem_lines_annotateInstruction hy with rfl | ⟨info, hinfo, ⟨x, hx, rfl⟩ | rfl | ⟨t, -, rfl⟩⟩
  · exact Layout.inert_warningLine hc hw _
  · exact Layout.inert_formulaLines hc hf (hO info (List.mem_of_find?_eq_some hinfo)) x hx
  · exact Layout.inert_operandLine hc ho _
  · exact Layout.inert_operandLine hc ho _

/-! ### An inert line changes nothing -/

theorem classify_of_inert {y : List Glyph} (hy : Inert y) : Token.classify y = .ok none := by
  simp [Token.classify, hy.blank, hy.notInstruction, hy.notEntry, Token.firstOf]

theorem headerAddress?_of_inert {y : List Glyph} (hy : Inert y) : headerAddress? y = none := by
  simp [headerAddress?, classify_of_inert hy]

theorem unknownAt_of_inert {y : List Glyph} (hy : Inert y) (opcodes : OpcodeTable) :
    unknownAt opcodes y = false := by
  simp [unknownAt, classify_of_inert hy]

/-- The annotator echoes an inert line alone, logs nothing and stays as it was. -/
theorem step_of_inert (a : Annotator) {y : List Glyph} (hy : Inert y) :
    a.step y = .ok (a, ⟨[y], []⟩) := by
  simp [step, classify_of_inert hy, bind, Except.bind, pure, Except.pure]

end Annotator

namespace Collector

/-- The first pass stays as it is on an inert line: in a section it only logs that the row is
malformed. -/
theorem feed_of_inert (c : Collector) {y : List Glyph} (hy : Inert y) :
    ∃ rs, c.feed y = .ok (c, rs) := by
  unfold feed
  rw [hy.blank]
  simp only [Bool.not_true, Bool.false_eq_true, if_false]
  split
  · exact ⟨[], rfl⟩
  · rw [hy.notEntry]
    exact ⟨_, rfl⟩

end Collector

/-! ### Names without line feeds -/

theorem exists_of_bind_eq_ok {ε α β : Type} {x : Except ε α} {f : α → Except ε β} {b : β}
    (h : x >>= f = .ok b) : ∃ a, x = .ok a ∧ f a = .ok b := by
  cases x with
  | error e => cases h
  | ok a => exact ⟨a, rfl, h⟩

theorem exists_of_map_eq_ok {ε α β : Type} {x : Except ε α} {f : α → β} {b : β}
    (h : x.map f = .ok b) : ∃ a, x = .ok a ∧ f a = b := by
  cases x with
  | error e => cases h
  | ok a => exact ⟨a, rfl, Except.ok.inj h⟩

theorem isBlank_lf : Lines.lf.isBlank = true := by decide

namespace IndexMap

variable {α : Type}

theorem mem_entries_insert {m : IndexMap α} {k : Int} {v : α} {p : Int × α}
    (h : p ∈ (m.insert k v).entries) : p = (k, v) ∨ p ∈ m.entries :=
  mem_insertSorted h

theorem mem_entries_of_get? {m : IndexMap α} {k : Int} {v : α} (h : m.get? k = some v) :
    (k, v) ∈ m.entries := by
  obtain ⟨l₁, l₂, hl, -⟩ := List.lookup_eq_some_iff.mp h
  simp [hl]

end IndexMap

/-- No name of the table holds a line feed. -/
def SymbolTable.NamesPlain (t : SymbolTable) : Prop :=
  (∀ p ∈ t.constants.entries, Lines.lf ∉ p.2) ∧ (∀ p ∈ t.upvalues.entries, Lines.lf ∉ p.2) ∧
    ∀ p ∈ t.locals.entries, Lines.lf ∉ p.2.name

namespace SymbolTable

theorem namesPlain_empty (address : List Glyph) : ({ address := address } : SymbolTable).NamesPlain :=
  ⟨nofun, nofun, nofun⟩

/-- Storing a row whose name holds no line feed keeps every name plain. -/
theorem NamesPlain.store {t : SymbolTable} (h : t.NamesPlain) (kind : String) {e : SectionEntry}
    (he : Lines.lf ∉ e.name) : (t.store kind e).1.NamesPlain := by
  obtain ⟨hc, hu, hl⟩ := h
  unfold SymbolTable.store
  split
  · refine ⟨fun p hp => ?_, hu, hl⟩
    rcases IndexMap.mem_entries_insert hp with rfl | hp
    · exact he
    · exact hc p hp
  · split
    · refine ⟨hc, fun p hp => ?_, hl⟩
      rcases IndexMap.mem_entries_insert hp with rfl | hp
      · exact he
      · exact hu p hp
    · split
      · split
        · split
          · next lv hmk =>
            -- a local is named by its row
            have hname : lv.name = e.name := by
              unfold LocalVar.make? at hmk
              split at hmk
              · cases hmk
                rfl
              · cases hmk
            refine ⟨hc, hu, fun p hp => ?_⟩
            rcases IndexMap.mem_entries_insert hp with rfl | hp
            · simpa [hname] using he
            · exact hl p hp
          · exact ⟨hc, hu, hl⟩
        · exact ⟨hc, hu, hl⟩
      · exact ⟨hc, hu, hl⟩

theorem lf_not_mem_of_constant? {t : SymbolTable} (h : t.NamesPlain) {i : Int}
    {name : List Glyph} (hi : t.constant? i = some name) : Lines.lf ∉ name :=
  h.1 _ (IndexMap.mem_entries_of_get? hi)

theorem lf_not_mem_of_upvalue? {t : SymbolTable} (h : t.NamesPlain) {i : Int}
    {name : List Glyph} (hi : t.upvalue? i = some name) : Lines.lf ∉ name :=
  h.2.1 _ (IndexMap.mem_entries_of_get? hi)

theorem lf_not_mem_of_mem_orderedLocals {t : SymbolTable} (h : t.NamesPlain) {l : LocalVar}
    (hl : l ∈ t.orderedLocals) : Lines.lf ∉ l.name := by
  obtain ⟨p, hp, rfl⟩ := List.mem_map.mp hl
  exact h.2.2 p hp

end SymbolTable

namespace SectionEntry

/-- The name of a row never takes a line feed. -/
theorem lf_not_mem_nameAndNumbers {name rest n : List Glyph} {ns : List Numeral}
    (h : nameAndNumbers name rest = some (n, ns)) (hname : Lines.lf ∉ name) : Lines.lf ∉ n := by
  induction rest generalizing name with
  | nil =>
    simp only [nameAndNumbers, Option.map_eq_some_iff, Prod.mk.injEq] at h
    obtain ⟨-, -, rfl, -⟩ := h
    exact hname
  | cons g rest ih =>
    unfold nameAndNumbers at h
    split at h
    · simp only [Option.some.injEq, Prod.mk.injEq] at h
      obtain ⟨rfl, -⟩ := h
      exact hname
    · split at h
      · simp at h
      · next hg =>
        refine ih h fun hmem => ?_
        rcases List.mem_append.mp hmem with hmem | hmem
        · exact hname hmem
        · rw [← List.mem_singleton.mp hmem] at hg
          exact hg (by decide)

theorem lf_not_mem_name {line : List Glyph} {e : SectionEntry}
    (h : read? line = some (.ok e)) : Lines.lf ∉ e.name := by
  simp only [read?, Option.bind_eq_bind, Option.bind_eq_some_iff] at h
  obtain ⟨r0, -, ⟨index, r1⟩, -, r2, h2, h⟩ := h
  split at h
  · simp at h
  · next g rest =>
    -- the name starts after the blanks, so not with a line feed
    have hg : g.isBlank = false := by
      have hdrop : r1.dropWhile Glyph.isBlank = g :: rest := by
        dsimp only at h2
        unfold Lexeme.blanks1 at h2
        split at h2
        · split at h2
          · exact Option.some.inj h2
          · simp at h2
        · simp at h2
      have hd := List.head?_dropWhile_not Glyph.isBlank r1
      rw [hdrop] at hd
      exact hd
    obtain ⟨⟨name, numbers⟩, hn, h⟩ := Option.bind_eq_some_iff.mp h
    have he := Option.some.inj h
    obtain ⟨ns, -, he⟩ := exists_of_bind_eq_ok he
    obtain ⟨i, -, he⟩ := exists_of_bind_eq_ok he
    cases he
    refine lf_not_mem_nameAndNumbers hn ?_
    rintro hmem
    rw [← List.mem_singleton.mp hmem, isBlank_lf] at hg
    exact Bool.noConfusion hg

end SectionEntry

theorem lf_not_mem_charsText {gs : List Glyph} (h : Lines.lf ∉ gs) :
    '\n' ∉ (charsText gs).toList := by
  rw [charsText, String.toList_ofList]
  intro hmem
  obtain ⟨g, hg, hc⟩ := List.mem_filterMap.mp hmem
  cases g with
  | char c =>
    simp only [Glyph.char?, Option.some.injEq] at hc
    subst hc
    exact h hg
  | byte b => simp [Glyph.char?] at hc

namespace Instruction

/-- The opcode of an instruction is a run of word characters. -/
theorem lf_not_mem_opcode {line : List Glyph} {i : Instruction}
    (h : read? line = some (.ok i)) : '\n' ∉ i.opcode.toList := by
  simp only [read?, Option.bind_eq_bind, Option.bind_eq_some_iff] at h
  obtain ⟨r0, h0, ⟨pc, r1⟩, h1, r2, h2, r3, h3, ⟨sl, r4⟩, h4, r5, h5, r6, h6, h⟩ := h
  split at h
  · simp at h
  · next g rest =>
    split at h
    · simp at h
    · next hg =>
      obtain ⟨⟨operands, comment⟩, -, h⟩ := Option.bind_eq_some_iff.mp h
      have hi := Option.some.inj h
      obtain ⟨p, -, hi⟩ := exists_of_bind_eq_ok hi
      -- the opcode is the run of word characters after the identifier start
      have hop : i.opcode = charsText (g :: rest.takeWhile Glyph.isWord) := by
        split at hi
        · obtain ⟨l, -, hi⟩ := exists_of_bind_eq_ok hi
          obtain ⟨os, -, hi⟩ := exists_of_bind_eq_ok hi
          cases hi
          rfl
        · obtain ⟨l, -, hi⟩ := exists_of_bind_eq_ok hi
          obtain ⟨os, -, hi⟩ := exists_of_bind_eq_ok hi
          cases hi
          rfl
      rw [hop]
      refine lf_not_mem_charsText fun hmem => ?_
      rcases List.mem_cons.mp hmem with hmem | hmem
      · rw [← hmem] at hg
        exact hg (by decide)
      · have := List.mem_takeWhile_imp hmem
        exact absurd this (by decide)

end Instruction

/-- An instruction token is read from its line. -/
theorem Token.read?_of_classify {line : List Glyph} {i : Instruction}
    (h : Token.classify line = .ok (some (.instruction i))) :
    Instruction.read? line = some (.ok i) := by
  unfold Token.classify at h
  split at h
  · cases hi : Instruction.read? line with
    | none =>
      rw [hi] at h
      cases he : SectionEntry.read? line with
      | none => simp [he, Token.firstOf] at h
      | some r => cases r <;> simp [he, Token.firstOf, Except.map] at h
    | some r =>
      cases r with
      | error e => simp [hi, Token.firstOf, Except.map] at h
      | ok i' => simp_all [Token.firstOf, Except.map]
  · cases hf : FunctionHeader.read? line with
    | none =>
      cases hs : SectionHeader.read? line with
      | none => simp [hf, hs, Token.firstOf] at h
      | some r => cases r <;> simp [hf, hs, Token.firstOf, Except.map] at h
    | some hd => simp [hf, Token.firstOf, Except.map] at h

/-! ### Annotation lines hold no line feed -/

theorem lf_not_mem_ofString {s : String} (h : '\n' ∉ s.toList) : Lines.lf ∉ Glyph.ofString s := by
  intro hmem
  obtain ⟨c, hc, hce⟩ := List.mem_map.mp hmem
  cases hce
  exact h hc

theorem lf_not_mem_toString_int (v : Int) : '\n' ∉ (toString v).toList := by
  rw [Int.toString_eq_repr]
  intro hmem
  cases v with
  | ofNat n => exact absurd (isDigit_of_mem_repr hmem) (by decide)
  | negSucc n =>
    simp only [Int.repr, String.toList_append, List.mem_append] at hmem
    rcases hmem with h | h
    · exact absurd h (by decide)
    · exact absurd (isDigit_of_mem_repr h) (by decide)

theorem isPrefix_trimEnd (l : List Char) : trimEnd l <+: l := by
  have h := (List.dropWhile_suffix isBlankChar (l := l.reverse)).reverse
  rwa [List.reverse_reverse] at h

namespace Layout

theorem lf_not_mem_padding (l : Layout) : '\n' ∉ l.padding.toList := by
  simp [padding, List.mem_replicate]

/-- A line of padding, a marker and a text holds no line feed when the marker and the text
hold none; operand lines and warnings are such lines. -/
theorem lf_not_mem_marked {l : Layout} {marker : String} (hm : '\n' ∉ marker.toList)
    {text : List Glyph} (htext : Lines.lf ∉ text) :
    Lines.lf ∉ Glyph.ofString (l.padding ++ marker) ++ text := by
  intro hmem
  rcases List.mem_append.mp hmem with h | h
  · refine lf_not_mem_ofString ?_ h
    simp only [String.toList_append, List.mem_append, not_or]
    exact ⟨l.lf_not_mem_padding, hm⟩
  · exact htext h

/-- The lines of a formula hold no line feed: the formula is cut at them. -/
theorem lf_not_mem_formulaLines (l : Layout) (hf : '\n' ∉ l.formulaMarker.toList) (doc : String) :
    ∀ x ∈ l.formulaLines doc, '\n' ∉ x.toList := by
  have hpieces : ∀ q ∈ (if doc.isEmpty then [""] else doc.splitOn "\n"), '\n' ∉ q.toList := by
    intro q hq
    split at hq
    · rw [List.mem_singleton.mp hq]
      simp
    · rw [splitOn_newline] at hq
      obtain ⟨q', hq', rfl⟩ := List.mem_map.mp hq
      rw [String.toList_ofList]
      exact not_mem_of_mem_splitOn hq'
  intro x hx
  unfold formulaLines at hx
  split at hx
  · next first rest hsplit =>
    rw [hsplit] at hpieces
    rcases List.mem_cons.mp hx with rfl | hx
    · -- the first line: the padding, the marker and the first piece, less trailing blanks
      rw [String.trimBlankEnd, String.toList_ofList]
      intro hmem
      have hmem' := (isPrefix_trimEnd _).subset hmem
      simp only [String.toList_append, List.mem_append] at hmem'
      rcases hmem' with (h | h) | h
      · exact lf_not_mem_padding l h
      · exact hf h
      · exact hpieces first List.mem_cons_self h
    · -- a continuation line: padding, spaces and the trimmed piece
      obtain ⟨line, hline, rfl⟩ := List.mem_map.mp hx
      intro hmem
      simp only [String.toList_append, String.toList_ofList, String.trimBlank,
        List.mem_append] at hmem
      rcases hmem with (h | h) | h
      · exact lf_not_mem_padding l h
      · simp [List.mem_replicate] at h
      · exact hpieces line (List.mem_cons_of_mem _ hline) ((isInfix_trim _).subset h)
  · simp at hx

end Layout

namespace Annotator

theorem lf_not_mem_mark {info : OpcodeInfo} {p : Nat} {v : Int} {pc : Nat} {t : SymbolTable}
    (ht : t.NamesPlain) {s : Symbol} (hs : symbolOf info p v pc t = some s) :
    Lines.lf ∉ s.mark := by
  unfold symbolOf at hs
  dsimp only at hs
  split at hs
  · split at hs
    · obtain ⟨l, hl, rfl⟩ := Option.map_eq_some_iff.mp hs
      have hmem : l ∈ t.orderedLocals := (List.mem_filter.mp (List.mem_of_getElem? hl)).1
      simp only [Symbol.mark, List.mem_append, not_or]
      exact ⟨⟨lf_not_mem_ofString (by split <;> decide),
        SymbolTable.lf_not_mem_of_mem_orderedLocals ht hmem⟩, lf_not_mem_ofString (by decide)⟩
    · simp at hs
  · split at hs
    · obtain ⟨name, hn, rfl⟩ := Option.map_eq_some_iff.mp hs
      simp only [Symbol.mark, List.mem_append, not_or]
      exact ⟨⟨lf_not_mem_ofString (by decide), SymbolTable.lf_not_mem_of_constant? ht hn⟩,
        lf_not_mem_ofString (by decide)⟩
    · split at hs
      · obtain ⟨name, hn, rfl⟩ := Option.map_eq_some_iff.mp hs
        simp only [Symbol.mark, List.mem_append, not_or]
        exact ⟨⟨lf_not_mem_ofString (by decide), SymbolTable.lf_not_mem_of_upvalue? ht hn⟩,
          lf_not_mem_ofString (by decide)⟩
      · simp at hs

/-- The operand text holds no line feed when no name of the table does. -/
theorem lf_not_mem_renderOperands (info : OpcodeInfo) (pc : Nat) {t : SymbolTable}
    (ht : t.NamesPlain) (vs : List Int) : Lines.lf ∉ (renderOperands info pc t vs).1 := by
  rw [renderOperands_eq]
  intro hmem
  rcases mem_of_mem_intercalate hmem with h | ⟨x, hx, h⟩
  · exact lf_not_mem_ofString (by decide) h
  · obtain ⟨p, hp, rfl⟩ := List.mem_mapIdx.mp hx
    simp only [shown, List.mem_append] at h
    rcases h with h | h
    · exact lf_not_mem_ofString (lf_not_mem_toString_int _) h
    · cases hs : symbolOf info p vs[p] pc t with
      | none => simp [hs] at h
      | some s =>
        simp only [hs, Option.map_some, Option.getD_some] at h
        exact lf_not_mem_mark ht hs h

/-- **No annotation line holds a line feed** when the layout's texts, the opcode and the names
of the current table hold none. -/
theorem lf_not_mem_of_mem_annotateInstruction (a : Annotator)
    (hcur : ∀ t ∈ a.current, t.NamesPlain) (hf : '\n' ∉ a.layout.formulaMarker.toList)
    (ho : '\n' ∉ a.layout.operandMarker.toList) (hw : '\n' ∉ a.layout.warningMarker.toList)
    (hr : '\n' ∉ a.layout.returnsNothing.toList) {i : Instruction}
    (hi : '\n' ∉ i.opcode.toList) : ∀ y ∈ (a.annotateInstruction i).2.lines, Lines.lf ∉ y := by
  intro y hy
  rcases mem_lines_annotateInstruction hy with rfl | ⟨info, -, ⟨x, hx, rfl⟩ | rfl | ⟨t, ht, rfl⟩⟩
  · refine Layout.lf_not_mem_marked hw (lf_not_mem_ofString ?_)
    simp only [String.toList_append, List.mem_append, not_or]
    exact ⟨by decide, hi⟩
  · exact lf_not_mem_ofString (a.layout.lf_not_mem_formulaLines hf info.doc x hx)
  · exact Layout.lf_not_mem_marked ho (lf_not_mem_ofString hr)
  · exact Layout.lf_not_mem_marked ho (lf_not_mem_renderOperands info i.pc (hcur t ht) i.operands)

end Annotator

/-! ### The first pass stores plain names -/

namespace Collector

theorem mem_update {ts : List SymbolTable} {a : List Glyph} {f : SymbolTable → SymbolTable}
    {t : SymbolTable} (h : t ∈ update ts a f) :
    t ∈ ts ∨ (∃ t' ∈ ts, t = f t') ∨ t = f { address := a } := by
  unfold update at h
  split at h
  · obtain ⟨t', ht', rfl⟩ := List.mem_map.mp h
    split
    · exact .inr (.inl ⟨t', ht', rfl⟩)
    · exact .inl ht'
  · rcases List.mem_append.mp h with h | h
    · exact .inl h
    · exact .inr (.inr (List.mem_singleton.mp h))

/-- One line keeps every stored name plain. -/
theorem namesPlain_feed {c c' : Collector} {line : List Glyph} {rs : List Record}
    (hc : ∀ t ∈ c.tables, t.NamesPlain) (h : c.feed line = .ok (c', rs)) :
    ∀ t ∈ c'.tables, t.NamesPlain := by
  unfold feed at h
  split at h
  · -- a line that starts with no blank: a section header, or the end of a section
    split at h
    · cases h
      exact hc
    · cases h
    · next hd _ =>
      cases h
      intro t ht
      dsimp only at ht
      rcases mem_update ht with ht | ⟨t', ht', rfl⟩ | rfl
      · exact hc t ht
      · exact hc t' ht'
      · exact SymbolTable.namesPlain_empty hd.address
  · split at h
    · cases h
      exact hc
    · next kind address _ =>
      split at h
      · cases h
        exact hc
      · cases h
      · next e he =>
        split at h
        · cases h
          exact hc
        · next t htab =>
          -- a row is stored in the table of its section
          cases h
          have hs := (hc t (List.mem_of_find?_eq_some htab)).store kind
            (SectionEntry.lf_not_mem_name he)
          intro t' ht'
          dsimp only at ht'
          rcases mem_update ht' with ht' | ⟨_, -, rfl⟩ | rfl
          · exact hc t' ht'
          · exact hs
          · exact hs

theorem namesPlain_run {c c' : Collector} {lines : List (List Glyph)} {rs : List Record}
    (hc : ∀ t ∈ c.tables, t.NamesPlain) (h : c.run lines = .ok (c', rs)) :
    ∀ t ∈ c'.tables, t.NamesPlain := by
  induction lines generalizing c rs with
  | nil =>
    cases h
    exact hc
  | cons line lines ih =>
    unfold run at h
    obtain ⟨⟨c1, r1⟩, h1, h⟩ := exists_of_bind_eq_ok h
    obtain ⟨⟨c2, r2⟩, h2, h⟩ := exists_of_bind_eq_ok h
    cases h
    exact ih (namesPlain_feed hc h1) h2

end Collector

/-- **The first pass stores no name with a line feed.** -/
theorem namesPlain_collectSymbols {lines : List (List Glyph)} {S : List SymbolTable}
    {rs : List Record} (h : collectSymbols lines = .ok (S, rs)) : ∀ t ∈ S, t.NamesPlain := by
  unfold collectSymbols at h
  obtain ⟨⟨c, r⟩, hrun, h⟩ := exists_of_bind_eq_ok h
  cases h
  exact Collector.namesPlain_run (fun _ h => absurd h List.not_mem_nil) hrun

end LuaListing
