import Mathlib
import LuaListing.Proofs.InertAnnotations

/-!
# Annotating an annotated listing

Every annotation line starts with a blank and reads neither as an instruction nor as a row of
a section, so neither pass takes notice of it.  The first pass collects the same symbol tables
from the annotated text; the second pass reaches each line of the listing in the state it was
in the first time, writes the same annotation lines after it, and echoes each annotation line
alone.  Annotating the annotated text again therefore writes every block of annotation lines
twice.

## Main definitions

* `Annotator.annotationsAt` — the annotation lines written after a line, given the lines
  read before it.
* `Annotator.blocksAfter` — the lines of a listing, each paired with its annotation lines.

## Main statements

* `Lines.split_join` — cutting joined lines gives them back when none holds a line feed.
* `Annotator.run_blocks` — a run that succeeds writes each line followed by its annotation
  lines.
* `Annotator.run_interleaved` — a run over what the first run wrote writes every block of
  annotation lines twice, ends in the same state and logs the same records.
* `collectSymbols_interleaved` — the first pass over what was written collects the tables it
  collected from the listing.
* `annotateListing_interleaved` — both passes over what was written, line by line.
* `annotateText_reannotated` — annotating an annotated text again.
-/

namespace LuaListing

/-! ### Lines without line feeds -/

namespace Lines

theorem lf_not_mem_of_mem_split {t l : List Glyph} (h : l ∈ split t) : lf ∉ l := by
  unfold split at h
  split at h
  · simp at h
  · split at h
    · rw [cut_eq_splitOn] at h
      exact not_mem_of_mem_splitOn h
    · rw [cut_eq_splitOn] at h
      exact not_mem_of_mem_splitOn h

theorem join_eq_intercalate {ls : List (List Glyph)} (h : ls ≠ []) :
    join ls = [lf].intercalate ls ++ [lf] := by
  induction ls with
  | nil => contradiction
  | cons l ls ih =>
    cases ls with
    | nil => simp
    | cons l' ls =>
      rw [join_cons, ih (List.cons_ne_nil _ _), List.intercalate_cons_cons]
      simp

/-- **Cutting joined lines gives them back** when none of them holds a line feed. -/
theorem split_join {ls : List (List Glyph)} (h : ∀ l ∈ ls, lf ∉ l) : split (join ls) = ls := by
  by_cases hne : ls = []
  · subst hne
    rfl
  · rw [split, join_eq_intercalate hne, if_neg (by simp), List.getLast?_concat, if_pos rfl,
      List.dropLast_concat, cut_eq_splitOn, List.splitOn_intercalate lf h hne]

end Lines

/-! ### What the annotator writes -/

namespace Annotator

/-- The annotation lines written after `line` when the lines `p` were read before it: those
of the token it reads as, under the table current after `p`; none when it cannot be read. -/
def annotationsAt (a : Annotator) (p : List (List Glyph)) (line : List Glyph) :
    List (List Glyph) :=
  match Token.classify line with
  | .ok tok => a.annotationsOf (a.tableAfter p) tok
  | .error _ => []

/-- The lines `q`, read after the lines `p`, each paired with the annotation lines written
after it. -/
def blocksAfter (a : Annotator) (p : List (List Glyph)) :
    List (List Glyph) → List (List Glyph × List (List Glyph))
  | [] => []
  | line :: q => (line, a.annotationsAt p line) :: a.blocksAfter (p ++ [line]) q

@[simp] theorem blocksAfter_nil (a : Annotator) (p : List (List Glyph)) :
    a.blocksAfter p [] = [] := rfl

@[simp] theorem blocksAfter_cons (a : Annotator) (p : List (List Glyph)) (line : List Glyph)
    (q : List (List Glyph)) :
    a.blocksAfter p (line :: q) = (line, a.annotationsAt p line) :: a.blocksAfter (p ++ [line]) q :=
  rfl

@[simp] theorem map_fst_blocksAfter (a : Annotator) (p q : List (List Glyph)) :
    (a.blocksAfter p q).map Prod.fst = q := by
  induction q generalizing p with
  | nil => rfl
  | cons line q ih => simp [ih]

theorem mem_blocksAfter {a : Annotator} {p q : List (List Glyph)}
    {x : List Glyph × List (List Glyph)} (h : x ∈ a.blocksAfter p q) :
    ∃ p', x.2 = a.annotationsAt p' x.1 := by
  induction q generalizing p with
  | nil => simp at h
  | cons line q ih =>
    rcases List.mem_cons.mp h with rfl | h
    · exact ⟨p, rfl⟩
    · exact ih h

/-- A block in the middle: its line comes after the lines of the blocks before it, and its
annotation lines are those written after that line. -/
theorem blocksAfter_eq_append_cons {a : Annotator} {p q : List (List Glyph)}
    {u v : List (List Glyph × List (List Glyph))} {l : List Glyph} {A : List (List Glyph)}
    (h : a.blocksAfter p q = u ++ (l, A) :: v) :
    q = u.map Prod.fst ++ l :: v.map Prod.fst ∧ A = a.annotationsAt (p ++ u.map Prod.fst) l := by
  have hq : q = u.map Prod.fst ++ l :: v.map Prod.fst := by
    rw [← map_fst_blocksAfter a p q, h]
    simp
  refine ⟨hq, ?_⟩
  induction u generalizing p q with
  | nil =>
    cases q with
    | nil => simp at h
    | cons line q =>
      simp only [blocksAfter_cons, List.nil_append, List.cons.injEq, Prod.mk.injEq] at h
      obtain ⟨⟨rfl, rfl⟩, -⟩ := h
      simp
  | cons x u ih =>
    cases q with
    | nil => simp at h
    | cons line q =>
      simp only [blocksAfter_cons, List.cons_append, List.cons.injEq] at h
      obtain ⟨rfl, h⟩ := h
      simp only [List.map_cons, List.cons_append, List.cons.injEq] at hq
      rw [ih h hq.2]
      simp

/-- One call that succeeds after the lines `p`: the annotator is then after `p` and the
line, and it wrote the line and its annotation lines. -/
theorem step_after_eq_ok {a b : Annotator} {p : List (List Glyph)} {line : List Glyph}
    {w : Written} (h : (a.after p).step line = .ok (b, w)) :
    (∃ tok, Token.classify line = .ok tok) ∧ b = a.after (p ++ [line]) ∧
      w.lines = line :: a.annotationsAt p line := by
  rw [step_after] at h
  cases hc : Token.classify line with
  | error e =>
    rw [hc] at h
    cases h
  | ok tok =>
    rw [hc] at h
    simp only [Except.map, Except.ok.injEq, Prod.mk.injEq] at h
    obtain ⟨rfl, rfl⟩ := h
    exact ⟨⟨tok, rfl⟩, rfl, by simp [annotationsAt, hc]⟩

/-- The lines a call writes after a line that can be read. -/
theorem step_after_lines {a : Annotator} {p : List (List Glyph)} {line : List Glyph}
    {tok : Option Token} (hc : Token.classify line = .ok tok) :
    ((a.after p).step line).map (·.2.lines) = .ok (line :: a.annotationsAt p line) := by
  rw [step_after, hc]
  simp [Except.map, annotationsAt, hc]

/-- A run over a line and more lines succeeds when the call on the line succeeds and then
the run over the rest; it writes what the two write, one after the other. -/
theorem run_cons_eq_ok {b b' : Annotator} {line : List Glyph} {q : List (List Glyph)}
    {w : Written} (h : b.run (line :: q) = .ok (b', w)) :
    ∃ b₁ first rest, b.step line = .ok (b₁, first) ∧ b₁.run q = .ok (b', rest) ∧
      w = ⟨first.lines ++ rest.lines, first.records ++ rest.records⟩ := by
  unfold run at h
  obtain ⟨⟨b₁, first⟩, hstep, h⟩ := exists_of_bind_eq_ok h
  obtain ⟨⟨b₂, rest⟩, hrun, h⟩ := exists_of_bind_eq_ok h
  cases h
  exact ⟨b₁, first, rest, hstep, hrun, rfl⟩

/-- **A run that succeeds** reads every line, ends after all of them, and writes each line
followed by its annotation lines. -/
theorem run_blocks {a a' : Annotator} {p q : List (List Glyph)} {w : Written}
    (h : (a.after p).run q = .ok (a', w)) :
    (∀ line ∈ q, ∃ tok, Token.classify line = .ok tok) ∧ a' = a.after (p ++ q) ∧
      w.lines = (a.blocksAfter p q).flatMap fun x => x.1 :: x.2 := by
  induction q generalizing p a' w with
  | nil =>
    cases h
    simp
  | cons line q ih =>
    obtain ⟨b, first, rest, hstep, hrun, rfl⟩ := run_cons_eq_ok h
    obtain ⟨hc, rfl, hfirst⟩ := step_after_eq_ok hstep
    obtain ⟨hq, rfl, hrest⟩ := ih hrun
    refine ⟨?_, by simp, by simp [hfirst, hrest]⟩
    intro l hl
    rcases List.mem_cons.mp hl with rfl | hl
    · exact hc
    · exact hq l hl

/-- An annotator runs over inert lines by echoing them. -/
theorem run_inert_append (b : Annotator) {A : List (List Glyph)} (hA : ∀ y ∈ A, Inert y)
    (rest : List (List Glyph)) :
    b.run (A ++ rest) = (b.run rest).map fun r => (r.1, ⟨A ++ r.2.lines, r.2.records⟩) := by
  induction A with
  | nil =>
    rw [List.nil_append]
    cases b.run rest with
    | error e => rfl
    | ok r => rfl
  | cons y A ih =>
    rw [List.cons_append, run, step_of_inert b (hA y List.mem_cons_self)]
    simp only [bind, Except.bind]
    rw [ih fun z hz => hA z (List.mem_cons_of_mem _ hz)]
    cases b.run rest with
    | error e => rfl
    | ok r => rfl

/-- **A second run over what a run wrote**, when every annotation line is inert: each line
is annotated as before, each block of annotation lines is echoed after the annotations it
brings, and the run ends in the same state with the same records. -/
theorem run_interleaved {a a' : Annotator} {p q : List (List Glyph)} {w : Written}
    (hA : ∀ x ∈ a.blocksAfter p q, ∀ y ∈ x.2, Inert y) (h : (a.after p).run q = .ok (a', w)) :
    (a.after p).run ((a.blocksAfter p q).flatMap fun x => x.1 :: x.2) =
      .ok (a', ⟨(a.blocksAfter p q).flatMap fun x => x.1 :: (x.2 ++ x.2), w.records⟩) := by
  induction q generalizing p a' w with
  | nil =>
    cases h
    rfl
  | cons line q ih =>
    obtain ⟨b, first, rest, hstep, hrun, rfl⟩ := run_cons_eq_ok h
    obtain ⟨-, rfl, hfirst⟩ := step_after_eq_ok hstep
    -- the line is annotated as before, then its annotation lines are echoed one by one
    have hline : ∀ y ∈ a.annotationsAt p line, Inert y := hA _ List.mem_cons_self
    have hmore := ih (fun x hx => hA x (List.mem_cons_of_mem _ hx)) hrun
    rw [blocksAfter_cons, List.flatMap_cons, List.cons_append, run, hstep]
    simp only [bind, Except.bind]
    rw [run_inert_append _ hline, hmore]
    simp [Except.map, pure, Except.pure, hfirst]

/-! ### Inert lines leave the state alone -/

theorem filterMap_headerAddress?_of_inert {A : List (List Glyph)} (hA : ∀ y ∈ A, Inert y) :
    A.filterMap headerAddress? = [] :=
  List.filterMap_eq_nil_iff.mpr fun y hy => headerAddress?_of_inert (hA y hy)

theorem countP_unknownAt_of_inert (opcodes : OpcodeTable) {A : List (List Glyph)}
    (hA : ∀ y ∈ A, Inert y) : A.countP (unknownAt opcodes) = 0 :=
  List.countP_eq_zero.mpr fun y hy => by simp [unknownAt_of_inert (hA y hy)]

section Interleaved

variable {u : List (List Glyph × List (List Glyph))}

theorem filterMap_headerAddress?_interleaved (hu : ∀ x ∈ u, ∀ y ∈ x.2, Inert y) :
    (u.flatMap fun x => x.1 :: x.2).filterMap headerAddress? =
      (u.map Prod.fst).filterMap headerAddress? := by
  induction u with
  | nil => rfl
  | cons x u ih =>
    have hx := filterMap_headerAddress?_of_inert (hu x List.mem_cons_self)
    simp only [List.flatMap_cons, List.cons_append, List.filterMap_cons, List.filterMap_append,
      hx, List.nil_append, List.map_cons, ih fun x hx => hu x (List.mem_cons_of_mem _ hx)]

theorem countP_unknownAt_interleaved (opcodes : OpcodeTable)
    (hu : ∀ x ∈ u, ∀ y ∈ x.2, Inert y) :
    (u.flatMap fun x => x.1 :: x.2).countP (unknownAt opcodes) =
      (u.map Prod.fst).countP (unknownAt opcodes) := by
  induction u with
  | nil => rfl
  | cons x u ih =>
    have hx := countP_unknownAt_of_inert opcodes (hu x List.mem_cons_self)
    simp only [List.flatMap_cons, List.cons_append, List.countP_cons, List.countP_append, hx,
      Nat.zero_add, List.map_cons]
    rw [ih fun x hx => hu x (List.mem_cons_of_mem _ hx)]

/-- The annotator after blocks of lines is the annotator after their first lines, when the
rest are inert. -/
theorem after_interleaved (a : Annotator) (p : List (List Glyph))
    (hu : ∀ x ∈ u, ∀ y ∈ x.2, Inert y) :
    a.after (p ++ u.flatMap fun x => x.1 :: x.2) = a.after (p ++ u.map Prod.fst) := by
  simp only [after, tableAfter, List.filterMap_append, List.countP_append,
    filterMap_headerAddress?_interleaved hu, countP_unknownAt_interleaved a.opcodes hu]

end Interleaved

/-! ### What the annotation lines are made of -/

/-- Annotation lines are written only after an instruction: they are those of annotating it
under the table current after the lines before. -/
theorem mem_annotationsAt {a : Annotator} {p : List (List Glyph)} {line y : List Glyph}
    (hy : y ∈ a.annotationsAt p line) :
    ∃ i, Token.classify line = .ok (some (.instruction i)) ∧
      y ∈ ({ a with current := a.tableAfter p }.annotateInstruction i).2.lines := by
  unfold annotationsAt at hy
  split at hy
  · next tok hct =>
    unfold annotationsOf at hy
    split at hy
    · exact ⟨_, hct, hy⟩
    · simp at hy
  · simp at hy

theorem namesPlain_tableAfter (a : Annotator) (hS : ∀ t ∈ a.symbols, t.NamesPlain)
    (hcur : ∀ t ∈ a.current, t.NamesPlain) (p : List (List Glyph)) :
    ∀ t ∈ a.tableAfter p, t.NamesPlain := by
  intro t ht
  unfold tableAfter at ht
  split at ht
  · exact hS t (List.mem_of_find?_eq_some ht)
  · exact hcur t ht

/-- Every annotation line written over a listing is passed over. -/
theorem inert_of_mem_blocksAfter (a : Annotator) (hO : a.opcodes.DocsPlain)
    (hc : 1 ≤ a.layout.column) (hf : a.layout.formulaMarker = "-- ")
    (ho : a.layout.operandMarker = "-> ") (hw : a.layout.warningMarker = "!! ")
    (p q : List (List Glyph)) : ∀ x ∈ a.blocksAfter p q, ∀ y ∈ x.2, Inert y := by
  intro x hx y hy
  obtain ⟨p', hp'⟩ := mem_blocksAfter hx
  rw [hp'] at hy
  obtain ⟨i, -, hy⟩ := mem_annotationsAt hy
  exact inert_of_mem_annotateInstruction { a with current := a.tableAfter p' } hO hc hf ho hw i y hy

/-- Nothing written over a listing without line feeds holds one, when no name of a table does
and the layout's texts hold none. -/
theorem lf_not_mem_of_mem_blocksAfter (a : Annotator) (hS : ∀ t ∈ a.symbols, t.NamesPlain)
    (hcur : ∀ t ∈ a.current, t.NamesPlain) (hf : '\n' ∉ a.layout.formulaMarker.toList)
    (ho : '\n' ∉ a.layout.operandMarker.toList) (hw : '\n' ∉ a.layout.warningMarker.toList)
    (hr : '\n' ∉ a.layout.returnsNothing.toList) {p q : List (List Glyph)}
    (hq : ∀ l ∈ q, Lines.lf ∉ l) :
    ∀ y ∈ (a.blocksAfter p q).flatMap (fun x => x.1 :: x.2), Lines.lf ∉ y := by
  intro y hy
  obtain ⟨x, hx, hy⟩ := List.mem_flatMap.mp hy
  rcases List.mem_cons.mp hy with rfl | hy
  · -- a line of the listing
    have hmem : x.1 ∈ (a.blocksAfter p q).map Prod.fst := List.mem_map_of_mem hx
    rw [map_fst_blocksAfter] at hmem
    exact hq _ hmem
  · -- an annotation line, written after an instruction
    obtain ⟨p', hp'⟩ := mem_blocksAfter hx
    rw [hp'] at hy
    obtain ⟨i, hi, hy⟩ := mem_annotationsAt hy
    exact lf_not_mem_of_mem_annotateInstruction { a with current := a.tableAfter p' }
      (namesPlain_tableAfter a hS hcur p') hf ho hw hr
      (Instruction.lf_not_mem_opcode (Token.read?_of_classify hi)) y hy

end Annotator

/-! ### The first pass over annotated lines -/

namespace Collector

theorem run_cons_fst (c : Collector) (line : List Glyph) (q : List (List Glyph)) :
    (c.run (line :: q)).map Prod.fst = (c.feed line).bind fun r => (r.1.run q).map Prod.fst := by
  rw [run]
  cases c.feed line with
  | error e => rfl
  | ok r =>
    simp only [bind, Except.bind]
    cases r.1.run q with
    | error e => rfl
    | ok r' => rfl

theorem run_inert_append_fst (c : Collector) {A : List (List Glyph)} (hA : ∀ y ∈ A, Inert y)
    (rest : List (List Glyph)) : (c.run (A ++ rest)).map Prod.fst = (c.run rest).map Prod.fst := by
  induction A with
  | nil => rfl
  | cons y A ih =>
    obtain ⟨rs, hy⟩ := feed_of_inert c (hA y List.mem_cons_self)
    rw [List.cons_append, run_cons_fst, hy]
    exact ih fun z hz => hA z (List.mem_cons_of_mem _ hz)

/-- **Inert lines between the lines of a listing** leave the first pass where it was. -/
theorem run_interleaved (c : Collector) {bs : List (List Glyph × List (List Glyph))}
    (hA : ∀ x ∈ bs, ∀ y ∈ x.2, Inert y) :
    (c.run (bs.flatMap fun x => x.1 :: x.2)).map Prod.fst =
      (c.run (bs.map Prod.fst)).map Prod.fst := by
  induction bs generalizing c with
  | nil => rfl
  | cons x bs ih =>
    rw [List.flatMap_cons, List.cons_append, List.map_cons, run_cons_fst, run_cons_fst]
    cases c.feed x.1 with
    | error e => rfl
    | ok r =>
      show (r.1.run (x.2 ++ _)).map Prod.fst = (r.1.run _).map Prod.fst
      rw [run_inert_append_fst _ (hA x List.mem_cons_self)]
      exact ih r.1 fun x hx => hA x (List.mem_cons_of_mem _ hx)

end Collector

theorem map_fst_collectSymbols (lines : List (List Glyph)) :
    (collectSymbols lines).map Prod.fst =
      ((Collector.run {} lines).map Prod.fst).map Collector.tables := by
  unfold collectSymbols
  cases Collector.run {} lines with
  | error e => rfl
  | ok r => rfl

/-- **The tables collected from a listing with inert lines between its lines** are those
collected from the listing. -/
theorem collectSymbols_interleaved {bs : List (List Glyph × List (List Glyph))}
    (hA : ∀ x ∈ bs, ∀ y ∈ x.2, Inert y) :
    (collectSymbols (bs.flatMap fun x => x.1 :: x.2)).map Prod.fst =
      (collectSymbols (bs.map Prod.fst)).map Prod.fst := by
  rw [map_fst_collectSymbols, Collector.run_interleaved _ hA, ← map_fst_collectSymbols]

/-! ### Annotating twice -/

/-- **Annotating what was written, line by line**: the first pass collects the same tables,
and the annotator writes every block of annotation lines twice, ends in the same state and
logs the same records after those of the first pass. -/
theorem annotateListing_interleaved {O : OpcodeTable} {L : Layout} {ls : List (List Glyph)}
    {S : List SymbolTable} {collected : List Record} {a a' : Annotator} {done : Written}
    (ha : a = { opcodes := O, symbols := S, layout := L })
    (hS : collectSymbols ls = .ok (S, collected)) (hrun : a.run ls = .ok (a', done))
    (hinert : ∀ x ∈ a.blocksAfter [] ls, ∀ y ∈ x.2, Inert y) :
    ∃ collected', annotateListing O L ((a.blocksAfter [] ls).flatMap fun x => x.1 :: x.2) =
      .ok (a', ⟨(a.blocksAfter [] ls).flatMap fun x => x.1 :: (x.2 ++ x.2),
        collected' ++ done.records⟩) := by
  have htables : (collectSymbols ((a.blocksAfter [] ls).flatMap fun x => x.1 :: x.2)).map
      Prod.fst = .ok S := by
    rw [collectSymbols_interleaved hinert, Annotator.map_fst_blocksAfter, hS]
    rfl
  obtain ⟨⟨S', collected'⟩, hS', hSS'⟩ := exists_of_map_eq_ok htables
  have hcollect : collectSymbols ((a.blocksAfter [] ls).flatMap fun x => x.1 :: x.2) =
      .ok (S, collected') := by
    rw [hS', ← hSS']
  have hrun' := Annotator.run_interleaved (p := []) hinert hrun
  rw [Annotator.after_nil] at hrun'
  subst ha
  refine ⟨collected', ?_⟩
  simp only [annotateListing, hcollect, bind, Except.bind]
  rw [hrun']
  rfl

/-- **Annotating an annotated text again.**  With a bundled opcode table and the default
markers at a column of at least one, every annotation line starts with a blank and reads
neither as an instruction nor as a row of a section.  So when a text is annotated, the first
pass collects the same tables from what was written; each line of the text is reached in the
state it was reached in before and gets the same annotation lines; and every block of
annotation lines reads as nothing and is echoed after them, so that it is written twice. -/
theorem annotateText_reannotated (version : Option String) {O : OpcodeTable}
    (hO : (selectTable version).2 = .ok O) {c : Int} (hc : 1 ≤ c) :
    (∀ a : Annotator, a.opcodes = O → a.layout = { column := c } → ∀ i : Instruction,
      ∀ y ∈ (a.annotateInstruction i).2.lines,
        startsWithBlank y = true ∧ Instruction.read? y = none ∧ SectionEntry.read? y = none) ∧
    ∀ t out, annotateText O { column := c } t = .ok out →
      ∃ (S : List SymbolTable) (blocks : List (List Glyph × List (List Glyph))),
        (collectSymbols (Lines.split t)).map Prod.fst = .ok S ∧
        (collectSymbols (Lines.split out)).map Prod.fst = .ok S ∧
        blocks.map Prod.fst = Lines.split t ∧
        out = Lines.join (blocks.flatMap fun x => x.1 :: x.2) ∧
        annotateText O { column := c } out =
          .ok (Lines.join (blocks.flatMap fun x => x.1 :: (x.2 ++ x.2))) ∧
        (∀ x ∈ blocks, ∀ y ∈ x.2, Token.classify y = .ok none) ∧
        ∀ u l A v, blocks = u ++ (l, A) :: v →
          let a : Annotator := { opcodes := O, symbols := S, layout := { column := c } }
          a.after (u.flatMap fun x => x.1 :: x.2) = a.after (u.map Prod.fst) ∧
          ((a.after (u.map Prod.fst)).step l).map (·.2.lines) = .ok (l :: A) := by
  have hdocs : O.DocsPlain := OpcodeTable.docsPlain_of_selectTable hO
  refine ⟨fun a ha hl i y hy => ?_, fun t out h => ?_⟩
  · -- every annotation line is inert
    subst ha
    have hy := a.inert_of_mem_annotateInstruction hdocs (by rw [hl]; exact hc) (by rw [hl])
      (by rw [hl]) (by rw [hl]) i y hy
    exact ⟨hy.blank, hy.notInstruction, hy.notEntry⟩
  -- the first annotation: collect the tables, then run over the lines
  obtain ⟨⟨a', w⟩, hlist, hout⟩ := exists_of_map_eq_ok h
  obtain ⟨⟨S, collected⟩, hS, hlist⟩ := exists_of_bind_eq_ok hlist
  obtain ⟨⟨a'', done⟩, hfirst, hlist⟩ := exists_of_bind_eq_ok hlist
  cases hlist
  subst hout
  let a : Annotator := { opcodes := O, symbols := S, layout := { column := c } }
  let blocks := a.blocksAfter [] (Lines.split t)
  have hrun : (a.after []).run (Lines.split t) = .ok (_, done) := hfirst
  obtain ⟨hread, -, hdone⟩ := Annotator.run_blocks hrun
  have hinert : ∀ x ∈ blocks, ∀ y ∈ x.2, Inert y :=
    a.inert_of_mem_blocksAfter hdocs hc rfl rfl rfl [] _
  -- what was written holds no line feed, so it is cut back into the lines written
  have hsplit : Lines.split (Lines.join done.lines) = blocks.flatMap fun x => x.1 :: x.2 := by
    rw [hdone]
    refine Lines.split_join (a.lf_not_mem_of_mem_blocksAfter (namesPlain_collectSymbols hS)
      (fun _ h => absurd h (Option.not_mem_none _)) (by decide : '\n' ∉ "-- ".toList)
      (by decide : '\n' ∉ "-> ".toList) (by decide : '\n' ∉ "!! ".toList)
      (by decide : '\n' ∉ "(returns nothing)".toList) fun l hl => ?_)
    exact Lines.lf_not_mem_of_mem_split hl
  obtain ⟨collected', hagain⟩ := annotateListing_interleaved (a := a) rfl hS hfirst hinert
  refine ⟨S, blocks, by rw [hS]; rfl, ?_, a.map_fst_blocksAfter [] _, by rw [hdone], ?_, ?_, ?_⟩
  · -- the second annotation collects the same tables
    rw [hsplit, collectSymbols_interleaved hinert, Annotator.map_fst_blocksAfter, hS]
    rfl
  · -- and writes every block twice
    rw [annotateText, hsplit, hagain]
    rfl
  · intro x hx y hy
    exact Annotator.classify_of_inert (hinert x hx y hy)
  · -- each line of the text is reached in the same state and annotated the same way
    intro u l A v hb
    obtain ⟨hq, rfl⟩ := Annotator.blocksAfter_eq_append_cons hb
    have hu : ∀ x ∈ u, ∀ y ∈ x.2, Inert y := fun x hx =>
      hinert x (hb ▸ List.mem_append_left _ hx)
    obtain ⟨tok, htok⟩ := hread l (hq ▸ List.mem_append_right _ List.mem_cons_self)
    have hafter := a.after_interleaved [] hu
    have hlines := Annotator.step_after_lines (a := a) (p := u.map Prod.fst) htok
    rw [List.nil_append, List.nil_append] at hafter
    rw [List.nil_append]
    exact ⟨hafter, hlines⟩

/-- A function header and a `MOVE`, with the merged table at the default column: the text
can be annotated, and annotating what was written again doubles the annotation. -/
theorem annotateText_reannotated_move :
    let O := OpcodeTable.merge (loadAll.1.map (·.2))
    let t := Glyph.ofString "main <x.lua:0,0> (1 instruction at 0x1)\n\t1\t[1]\tMOVE     \t1 0\n"
    (selectTable none).2 = .ok O ∧ (1 : Int) ≤ 24 ∧
    ∃ out, annotateText O { column := 24 } t = .ok out ∧
      ∃ (S : List SymbolTable) (blocks : List (List Glyph × List (List Glyph))),
        (collectSymbols (Lines.split t)).map Prod.fst = .ok S ∧
        (collectSymbols (Lines.split out)).map Prod.fst = .ok S ∧
        blocks.map Prod.fst = Lines.split t ∧
        out = Lines.join (blocks.flatMap fun x => x.1 :: x.2) ∧
        annotateText O { column := 24 } out =
          .ok (Lines.join (blocks.flatMap fun x => x.1 :: (x.2 ++ x.2))) ∧
        (∀ x ∈ blocks, ∀ y ∈ x.2, Token.classify y = .ok none) ∧
        ∀ u l A v, blocks = u ++ (l, A) :: v →
          let a : Annotator := { opcodes := O, symbols := S, layout := { column := 24 } }
          a.after (u.flatMap fun x => x.1 :: x.2) = a.after (u.map Prod.fst) ∧
          ((a.after (u.map Prod.fst)).step l).map (·.2.lines) = .ok (l :: A) := by
  intro O t
  -- reading the two lines never fails, whatever the table holds
  have hok : (annotateText O { column := 24 } t).isOk = true := by decide +kernel
  obtain ⟨out, hout⟩ : ∃ out, annotateText O { column := 24 } t = .ok out := by
    cases h : annotateText O { column := 24 } t with
    | error e => simp [h, Except.isOk, Except.toBool] at hok
    | ok out => exact ⟨out, rfl⟩
  exact ⟨rfl, by decide, out, hout, (annotateText_reannotated none rfl (by decide)).2 t out hout⟩

end LuaListing
