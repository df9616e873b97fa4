import Mathlib
import LuaListing.Listing.Symbols
import LuaListing.Proofs.HeaderLines

/-!
# Line kinds

A listing line that starts with a blank is read as an instruction or as a row of a symbol
section; any other line as a function header or as a section header.  The first pass over a
listing asks of a line only whether it starts with a blank and whether it is a section header,
while the second pass classifies it; the two agree on what each line is:

* a line that starts with a blank is no header, and a line that does not is neither an
  instruction nor a row, since both of these open with a run of blanks;
* no line is both a function header and a section header: after the first word and the blanks
  after it, a function header goes on with `<` and a section header with `(`.

So on a line that does not start with a blank the first pass does what the line's
classification says: a section header enters its section, anything else, a function header
included, leaves the section, and a numeral too long to read stops both passes alike.  An
indented line never changes the section being read.

## Main statements

* `FunctionHeader.read?_eq_none_of_startsWithBlank`,
  `SectionHeader.read?_eq_none_of_startsWithBlank` — no header starts with a blank.
* `Instruction.read?_eq_none_of_not_startsWithBlank`,
  `SectionEntry.read?_eq_none_of_not_startsWithBlank` — every instruction and row does.
* `SectionHeader.read?_eq_none_of_functionHeader` — no line is both kinds of header.
* `Collector.feed_of_not_startsWithBlank` — the first pass on a line that does not start with
  a blank.
* `Collector.current_feed_of_startsWithBlank` — an indented line keeps the section.
* `line_kinds_agree` — all of it together.
-/

namespace LuaListing

/-! ### The first glyph of a line -/

theorem startsWithBlank_append {a : List Glyph} (ha : a ≠ []) (b : List Glyph) :
    startsWithBlank (a ++ b) = startsWithBlank a := by
  obtain ⟨g, a, rfl⟩ := List.exists_cons_of_ne_nil ha
  rfl

namespace Lexeme

theorem blanks1_eq_none {gs : List Glyph} (h : startsWithBlank gs = false) : blanks1 gs = none := by
  cases gs with
  | nil => rfl
  | cons g rest =>
    simp only [startsWithBlank] at h
    simp [blanks1, h]

/-- A literal that does not open with a blank is not read from a line that does. -/
theorem literal_eq_none_of_startsWithBlank (s : String) (hne : Glyph.ofString s ≠ [])
    (hs : startsWithBlank (Glyph.ofString s) = false) {gs : List Glyph}
    (h : startsWithBlank gs = true) : literal s gs = none := by
  cases hl : literal s gs with
  | none => rfl
  | some r =>
    rw [eq_of_literal hl, startsWithBlank_append hne, hs] at h
    exact absurd h Bool.false_ne_true

/-- Word glyphs are skipped over a run of blanks up to a glyph that is no word glyph: what is
left is a part of the run, and that glyph. -/
theorem dropWhile_isWord_blanks {b : List Glyph} (hb : ∀ g ∈ b, g.isBlank = true) (x : Glyph)
    (hx : x.isWord = false) (r : List Glyph) :
    ∃ b', (∀ g ∈ b', g.isBlank = true) ∧ (b ++ x :: r).dropWhile Glyph.isWord = b' ++ x :: r := by
  induction b with
  | nil => exact ⟨[], by simp, by simp [hx]⟩
  | cons y b ih =>
    by_cases hy : y.isWord = true
    · obtain ⟨b', hb', he⟩ := ih fun g hg => hb g (List.mem_cons_of_mem y hg)
      exact ⟨b', hb', by rw [List.cons_append, List.dropWhile_cons_of_pos hy, he]⟩
    · exact ⟨y :: b, hb, by rw [List.cons_append, List.dropWhile_cons_of_neg hy]⟩

/-- A run of blanks before a glyph that is no blank: the run is read when there is one. -/
theorem blanks1_blanks_append {b : List Glyph} (hb : ∀ g ∈ b, g.isBlank = true) {x : Glyph}
    (hx : x.isBlank = false) (r : List Glyph) :
    blanks1 (b ++ x :: r) = if b = [] then none else some (x :: r) := by
  cases b with
  | nil => simp [blanks1, hx]
  | cons y b =>
    rw [if_neg (List.cons_ne_nil y b), List.cons_append, blanks1,
      if_pos (hb y List.mem_cons_self), ← List.cons_append,
      List.dropWhile_append_of_pos hb, List.dropWhile_cons_of_neg (by simp [hx])]

end Lexeme

/-! ### Headers and indented lines -/

namespace FunctionHeader

theorem read?_eq_none_of_startsWithBlank {line : List Glyph} (h : startsWithBlank line = true) :
    read? line = none := by
  have hm := Lexeme.literal_eq_none_of_startsWithBlank "main" (by decide) (by decide) h
  have hf := Lexeme.literal_eq_none_of_startsWithBlank "function" (by decide) (by decide) h
  simp [read?, hm, hf]

/-- A function header is its kind, a run of blanks and `<`. -/
theorem read?_shape {line : List Glyph} {f : FunctionHeader} (h : read? line = some f) :
    ∃ kind r0 r2, (kind = "main" ∨ kind = "function") ∧ line = Glyph.ofString kind ++ r0 ∧
      Lexeme.blanks1 r0 = some (.char '<' :: r2) := by
  unfold read? at h
  simp only [Option.bind_eq_bind, Option.bind_eq_some_iff] at h
  obtain ⟨⟨kind, r0⟩, hk, r1, h1, r2, h2, -⟩ := h
  have hr1 : r1 = .char '<' :: r2 := Lexeme.eq_of_literal h2
  obtain ⟨hkind, hline⟩ : (kind = "main" ∨ kind = "function") ∧
      line = Glyph.ofString kind ++ r0 := by
    cases hm : Lexeme.literal "main" line with
    | some r =>
      simp only [hm, Option.map_some] at hk
      obtain ⟨rfl, rfl⟩ := hk
      exact ⟨.inl rfl, Lexeme.eq_of_literal hm⟩
    | none =>
      cases hf : Lexeme.literal "function" line with
      | some r =>
        simp only [hm, hf, Option.map_none, Option.map_some] at hk
        obtain ⟨rfl, rfl⟩ := hk
        exact ⟨.inr rfl, Lexeme.eq_of_literal hf⟩
      | none => simp [hm, hf] at hk
  exact ⟨kind, r0, r2, hkind, hline, hr1 ▸ h1⟩

end FunctionHeader

namespace SectionHeader

theorem read?_eq_none_of_startsWithBlank {line : List Glyph} (h : startsWithBlank line = true) :
    read? line = none := by
  obtain ⟨g, rest, rfl⟩ : ∃ g rest, line = g :: rest := by
    cases line with
    | nil => simp [startsWithBlank] at h
    | cons g rest => exact ⟨g, rest, rfl⟩
  -- a blank is no letter, so no section kind starts there
  have hg : g.isIdentStart = false := by
    cases g with
    | char c =>
      cases hc : isIdentStart c
      · exact hc
      · have hb := Instruction.isBlank_of_isIdentStart hc
        simp only [startsWithBlank] at h
        rw [hb] at h
        exact absurd h Bool.false_ne_true
    | byte b => rfl
  simp [read?, hg]

/-- A line is no section header when, after its first word, no blanks and `(` follow. -/
theorem read?_cons_eq_none {g : Glyph} {rest : List Glyph}
    (h : (Lexeme.blanks1 (rest.dropWhile Glyph.isWord)).bind (Lexeme.literal "(") = none) :
    read? (g :: rest) = none := by
  cases hb : Lexeme.blanks1 (rest.dropWhile Glyph.isWord) with
  | none => simp [read?, hb]
  | some r1 =>
    rw [hb, Option.bind_some] at h
    simp [read?, hb, h]

/-- **No line is both kinds of header**: after the kind and its blanks, a function header goes
on with `<`, where a section header needs `(`. -/
theorem read?_eq_none_of_functionHeader {line : List Glyph} {f : FunctionHeader}
    (h : FunctionHeader.read? line = some f) : read? line = none := by
  obtain ⟨kind, r0, r2, hkind, rfl, hr0⟩ := FunctionHeader.read?_shape h
  obtain ⟨b, rfl, hne, hb⟩ := Lexeme.eq_of_blanks1 hr0
  -- the kind is one word: its first glyph and the word glyphs after it
  obtain ⟨g, w, hgw, hw⟩ : ∃ g w, Glyph.ofString kind = g :: w ∧ ∀ x ∈ w, x.isWord = true := by
    rcases hkind with rfl | rfl
    · exact ⟨.char 'm', [.char 'a', .char 'i', .char 'n'], by decide,
        by simp [Glyph.isWord, isWordChar]⟩
    · exact ⟨.char 'f', [.char 'u', .char 'n', .char 'c', .char 't', .char 'i', .char 'o',
        .char 'n'], by decide, by simp [Glyph.isWord, isWordChar]⟩
  obtain ⟨b', hb', hd⟩ := Lexeme.dropWhile_isWord_blanks hb (.char '<') (by decide) r2
  rw [hgw, List.cons_append]
  apply read?_cons_eq_none
  rw [List.dropWhile_append_of_pos hw, hd, Lexeme.blanks1_blanks_append hb' (by decide)]
  split
  · rfl
  · rw [Option.bind_some]
    rfl

end SectionHeader

theorem Instruction.read?_eq_none_of_not_startsWithBlank {line : List Glyph}
    (h : startsWithBlank line = false) : Instruction.read? line = none := by
  simp [Instruction.read?, Lexeme.blanks1_eq_none h]

theorem SectionEntry.read?_eq_none_of_not_startsWithBlank {line : List Glyph}
    (h : startsWithBlank line = false) : SectionEntry.read? line = none := by
  simp [SectionEntry.read?, Lexeme.blanks1_eq_none h]

namespace Token

/-- An indented line reads as an instruction or a row, if as anything. -/
theorem classify_of_startsWithBlank {line : List Glyph} (hl : startsWithBlank line = true)
    {t : Token} (h : classify line = .ok (some t)) :
    (∃ i, t = .instruction i) ∨ ∃ e, t = .sectionEntry e := by
  rw [classify, if_pos hl] at h
  cases hi : Instruction.read? line with
  | some r =>
    cases r with
    | error e => simp [hi, firstOf, Except.map] at h
    | ok i =>
      simp only [hi, Option.map_some, firstOf, Except.map, Except.ok.injEq, Option.some.injEq] at h
      exact .inl ⟨i, h.symm⟩
  | none =>
    cases he : SectionEntry.read? line with
    | none => simp [hi, he, firstOf] at h
    | some r =>
      cases r with
      | error e => simp [hi, he, firstOf, Except.map] at h
      | ok e =>
        simp only [hi, he, Option.map_none, Option.map_some, firstOf, Except.map, Except.ok.injEq,
          Option.some.injEq] at h
        exact .inr ⟨e, h.symm⟩

end Token

namespace Collector

/-- The first pass after a line that does not start with a blank, from what the line reads
as: a section header enters its section, and anything else leaves the section. -/
def headLine (c : Collector) : Option Token → Collector
  | some (.sectionHeader h) =>
    { tables := update c.tables h.address (·.addSection h.kind), current := some (h.kind, h.address) }
  | _ => { c with current := none }

/-- **The first pass follows the classification** on a line that does not start with a blank;
a numeral too long to read stops both. -/
theorem feed_of_not_startsWithBlank {line : List Glyph} (hl : startsWithBlank line = false)
    (c : Collector) : c.feed line = (Token.classify line).map fun t => (c.headLine t, []) := by
  rw [feed, if_pos (by simp [hl]), Token.classify, if_neg (by simp [hl])]
  cases hf : FunctionHeader.read? line with
  | some f =>
    -- a function header is no section header, so the section is left
    rw [SectionHeader.read?_eq_none_of_functionHeader hf]
    rfl
  | none =>
    cases hs : SectionHeader.read? line with
    | none => rfl
    | some r => cases r <;> rfl

/-- An indented line keeps the section being read. -/
theorem current_feed_of_startsWithBlank {line : List Glyph} (hl : startsWithBlank line = true)
    {c c' : Collector} {rs : List Record} (h : c.feed line = .ok (c', rs)) :
    c'.current = c.current := by
  rw [feed, if_neg (by simp [hl])] at h
  split at h
  · cases h
    rfl
  · split at h
    · cases h
      rfl
    · cases h
    · split at h
      · cases h
        rfl
      · cases h
        rfl

end Collector

/-- **The two passes agree on line kinds.**  No header starts with a blank and every
instruction and row does; no line is both a function header and a section header.  Hence on a
line that does not start with a blank the first pass does what the classification says: a
section header enters its section, a function header or any other line leaves the section,
and a numeral too long to read stops both passes.  An indented line reads as an instruction or
a row, if as anything, and keeps the section being read. -/
theorem line_kinds_agree (line : List Glyph) :
    (startsWithBlank line = true →
      FunctionHeader.read? line = none ∧ SectionHeader.read? line = none) ∧
    (startsWithBlank line = false →
      Instruction.read? line = none ∧ SectionEntry.read? line = none) ∧
    (FunctionHeader.read? line = none ∨ SectionHeader.read? line = none) ∧
    (startsWithBlank line = false →
      ∀ c : Collector, c.feed line = (Token.classify line).map fun t => (c.headLine t, [])) ∧
    (startsWithBlank line = true →
      (∀ t, Token.classify line = .ok (some t) →
        (∃ i, t = .instruction i) ∨ ∃ e, t = .sectionEntry e) ∧
      ∀ (c c' : Collector) (rs : List Record), c.feed line = .ok (c', rs) →
        c'.current = c.current) := by
  refine ⟨fun hl => ⟨FunctionHeader.read?_eq_none_of_startsWithBlank hl,
      SectionHeader.read?_eq_none_of_startsWithBlank hl⟩,
    fun hl => ⟨Instruction.read?_eq_none_of_not_startsWithBlank hl,
      SectionEntry.read?_eq_none_of_not_startsWithBlank hl⟩, ?_,
    fun hl => Collector.feed_of_not_startsWithBlank hl,
    fun hl => ⟨fun _ => Token.classify_of_startsWithBlank hl,
      fun _ _ _ => Collector.current_feed_of_startsWithBlank hl⟩⟩
  cases hf : FunctionHeader.read? line with
  | none => exact .inl rfl
  | some f => exact .inr (SectionHeader.read?_eq_none_of_functionHeader hf)

/-- A section header and an indented row. -/
theorem line_kinds_agree_header_and_row :
    (startsWithBlank (Glyph.ofString "constants (1) for 0x1:") = false ∧
      (Instruction.read? (Glyph.ofString "constants (1) for 0x1:") = none ∧
        SectionEntry.read? (Glyph.ofString "constants (1) for 0x1:") = none) ∧
      ({} : Collector).feed (Glyph.ofString "constants (1) for 0x1:") =
        (Token.classify (Glyph.ofString "constants (1) for 0x1:")).map
          fun t => (({} : Collector).headLine t, [])) ∧
    (startsWithBlank (Glyph.ofString "\t1\tx") = true ∧
      (FunctionHeader.read? (Glyph.ofString "\t1\tx") = none ∧
        SectionHeader.read? (Glyph.ofString "\t1\tx") = none)) := by
  have hh : startsWithBlank (Glyph.ofString "constants (1) for 0x1:") = false := by decide
  have hr : startsWithBlank (Glyph.ofString "\t1\tx") = true := by decide
  exact ⟨⟨hh, (line_kinds_agree _).2.1 hh, (line_kinds_agree _).2.2.2.1 hh {}⟩,
    ⟨hr, (line_kinds_agree _).1 hr⟩⟩

end LuaListing
