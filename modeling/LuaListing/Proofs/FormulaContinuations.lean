import Mathlib
import LuaListing.Opcode.Version
import LuaListing.Text.Digit
import LuaListing.Proofs.FormulaEnds
import LuaListing.Proofs.AnnotatedOutput

/-!
# Formulas continue on lines that open with no numeral

A line that an annotator writes is passed over when the listing is read again only if it
cannot be taken for an instruction or a section row, both of which open, after their leading
blanks, with a numeral.  The first line of a formula follows the formula marker, but its
further lines are written trimmed, under the first one, so what they open with is the text of
the formula itself.

This module shows that the formulas of the bundled instruction sets never continue on a line
that opens with a numeral.  The property is checked once on each definitions text: no line
after the first opens with a numeral once its blanks are dropped (`NumeralFreeLines`).  A
piece of such a text has it too; a comment body is a piece of the text, its formula a piece
of the body, and the canonical form only trims lines, collapses runs of spaces and tabs into
one space and drops empty lines, none of which can make a line open with a numeral.

## Main definitions

* `opensNumeral` — whether a text opens with a decimal digit, or a minus sign and one.
* `NumeralFreeLines` — no line after the first opens with a numeral once its blanks are
  dropped; decidable, by one pass over the text.
* `PlainContinuations` — no continuation line of a formula opens with a numeral once trimmed.
* `OpcodeTable.DocsPlain` — every formula of a table has plain continuation lines.

## Main results

* `plainContinuations_normalize` — the canonical form of a formula taken from such a text
  has plain continuation lines.
* `OpcodeTable.docsPlain_of_selectTable` — so has every formula of a bundled table and of
  their merge.
-/

namespace LuaListing

/-! ### Texts that open with a numeral -/

/-- Whether a text opens with an integer numeral: a decimal digit, or a minus sign followed
by one. -/
def opensNumeral : List Char → Bool
  | c :: rest => (digitValue? c).isSome || (c == '-' && rest.head?.any fun d => (digitValue? d).isSome)
  | [] => false

@[simp] theorem opensNumeral_nil : opensNumeral [] = false := rfl

/-- A text that opens with a numeral still does with more text after it. -/
theorem opensNumeral_of_isPrefix {x y : List Char} (h : opensNumeral x = true) (hxy : x <+: y) :
    opensNumeral y = true := by
  obtain ⟨z, rfl⟩ := hxy
  rcases x with _ | ⟨c, _ | ⟨d, rest⟩⟩
  · simp at h
  · simp only [opensNumeral, List.head?_nil, Option.any_none, Bool.and_false,
      Bool.or_false] at h
    simp [opensNumeral, h]
  · simpa [opensNumeral] using h

/-- Dropping the leading blanks of a longer text reaches the same numeral. -/
theorem opensNumeral_dropWhile_append {x : List Char}
    (h : opensNumeral (x.dropWhile isBlankChar) = true) (y : List Char) :
    opensNumeral ((x ++ y).dropWhile isBlankChar) = true := by
  rw [List.dropWhile_append]
  split
  · next hx => simp [List.isEmpty_iff.mp hx] at h
  · exact opensNumeral_of_isPrefix h (List.prefix_append _ _)

theorem opensNumeral_dropWhile_of_isPrefix {x y : List Char}
    (h : opensNumeral (x.dropWhile isBlankChar) = true) (hxy : x <+: y) :
    opensNumeral (y.dropWhile isBlankChar) = true := by
  obtain ⟨z, rfl⟩ := hxy
  exact opensNumeral_dropWhile_append h z

/-! ### Texts whose lines open with no numeral -/

/-- No line of a text after the first opens with a numeral once its blanks are dropped.  A
line of blanks is passed over with its line feed, so what counts is the next line with
something on it. -/
def NumeralFreeLines (cs : List Char) : Prop :=
  ∀ a b, cs = a ++ '\n' :: b → opensNumeral (b.dropWhile isBlankChar) = false

theorem numeralFreeLines_nil : NumeralFreeLines [] := by
  intro a b h
  simp at h

theorem numeralFreeLines_cons (c : Char) (rest : List Char) :
    NumeralFreeLines (c :: rest) ↔
      (c = '\n' → opensNumeral (rest.dropWhile isBlankChar) = false) ∧ NumeralFreeLines rest := by
  constructor
  · intro h
    exact ⟨fun hc => h [] rest (by rw [hc]; rfl), fun a b hab => h (c :: a) b (by rw [hab]; rfl)⟩
  · rintro ⟨hc, hrest⟩ a b hab
    rcases a with _ | ⟨x, a⟩
    · simp only [List.nil_append, List.cons.injEq] at hab
      obtain ⟨rfl, rfl⟩ := hab
      exact hc rfl
    · simp only [List.cons_append, List.cons.injEq] at hab
      exact hrest a b hab.2

/-- The check behind the decision, one character at a time. -/
def numeralFreeLines : List Char → Bool
  | [] => true
  | c :: rest =>
    (c != '\n' || !opensNumeral (rest.dropWhile isBlankChar)) && numeralFreeLines rest

theorem numeralFreeLines_iff (cs : List Char) :
    numeralFreeLines cs = true ↔ NumeralFreeLines cs := by
  induction cs with
  | nil => simp [numeralFreeLines, numeralFreeLines_nil]
  | cons c rest ih =>
    rw [numeralFreeLines_cons, ← ih]
    by_cases hc : c = '\n' <;> simp [numeralFreeLines, hc]

instance : DecidablePred NumeralFreeLines := fun cs =>
  decidable_of_iff _ (numeralFreeLines_iff cs)

/-- A piece of a text has the property of the text: a line feed of the piece is one of the
text, and what follows it in the piece opens what follows it in the text. -/
theorem NumeralFreeLines.of_isInfix {s t : List Char} (h : NumeralFreeLines s) (ht : t <:+: s) :
    NumeralFreeLines t := by
  obtain ⟨u, v, rfl⟩ := ht
  intro a b hab
  subst hab
  have hs := h (u ++ a) (b ++ v) (by simp)
  refine Bool.eq_false_iff.mpr fun hb => ?_
  rw [opensNumeral_dropWhile_append hb v] at hs
  exact Bool.false_ne_true hs.symm

/-! ### The lines of a text -/

section SplitOn

variable {α : Type} [BEq α] [LawfulBEq α]

theorem isPrefix_of_splitOn_eq_cons {l q : List α} {c : α} {qs : List (List α)}
    (h : l.splitOn c = q :: qs) : q <+: l := by
  have hl : [c].intercalate (l.splitOn c) = l := List.intercalate_splitOn c
  rw [h] at hl
  cases qs with
  | nil => exact ⟨[], by simpa using hl⟩
  | cons q' qs =>
    rw [List.intercalate_cons_cons, List.append_assoc] at hl
    exact ⟨_, hl⟩

/-- A line after the first follows a separator. -/
theorem exists_of_mem_tail_splitOn {l q : List α} {c : α} (h : q ∈ (l.splitOn c).tail) :
    ∃ a r, l = a ++ c :: (q ++ r) := by
  induction l with
  | nil => simp at h
  | cons x xs ih =>
    rw [List.splitOn_cons_eq_if_modifyHead] at h
    split at h
    · next hx =>
      -- at a separator every line of the rest follows it
      obtain ⟨q0, qs, hs⟩ := List.exists_cons_of_ne_nil (List.splitOn_ne_nil c xs)
      rw [List.tail_cons, hs, List.mem_cons] at h
      rcases h with rfl | hq
      · obtain ⟨r, hr⟩ := isPrefix_of_splitOn_eq_cons hs
        exact ⟨[], r, by rw [eq_of_beq hx, ← hr]; rfl⟩
      · obtain ⟨a, r, hr⟩ := ih (by rw [hs]; exact hq)
        exact ⟨x :: a, r, by rw [hr]; rfl⟩
    · -- another element goes to the first line and leaves the others alone
      rw [List.tail_modifyHead] at h
      obtain ⟨a, r, hr⟩ := ih h
      exact ⟨x :: a, r, by rw [hr]; rfl⟩

/-- No line holds the separator. -/
theorem not_mem_of_mem_splitOn {l q : List α} {c : α} (h : q ∈ l.splitOn c) : c ∉ q := by
  induction l generalizing q with
  | nil =>
    rw [List.splitOn_nil, List.mem_singleton] at h
    simp [h]
  | cons x xs ih =>
    rw [List.splitOn_cons_eq_if_modifyHead] at h
    split at h
    · rcases List.mem_cons.mp h with rfl | hq
      · simp
      · exact ih hq
    · next hx =>
      obtain ⟨q0, qs, hs⟩ := List.exists_cons_of_ne_nil (List.splitOn_ne_nil c xs)
      rw [hs, List.modifyHead_cons, List.mem_cons] at h
      rcases h with rfl | hq
      · have hq0 := ih (hs ▸ List.mem_cons_self)
        have hxc : x ≠ c := fun e => hx (e ▸ beq_self_eq_true x)
        simp [Ne.symm hxc, hq0]
      · exact ih (by rw [hs]; exact List.mem_cons_of_mem _ hq)

end SplitOn

theorem mem_tail_of_mem_tail_filter {α : Type} {p : α → Bool} {l : List α} {x : α}
    (h : x ∈ (l.filter p).tail) : x ∈ l.tail := by
  cases l with
  | nil => simp at h
  | cons a l =>
    rw [List.filter_cons] at h
    split at h
    · exact (List.mem_filter.mp h).1
    · exact (List.mem_filter.mp (List.mem_of_mem_tail h)).1

/-- An element of lists joined by a separator is in the separator or in one of the lists. -/
theorem mem_of_mem_intercalate {α : Type} {sep : List α} {ls : List (List α)} {x : α}
    (h : x ∈ sep.intercalate ls) : x ∈ sep ∨ ∃ l ∈ ls, x ∈ l := by
  induction ls with
  | nil => simp at h
  | cons l ls ih =>
    cases ls with
    | nil => exact .inr ⟨l, List.mem_singleton_self l, by simpa using h⟩
    | cons l' ls =>
      rw [List.intercalate_cons_cons] at h
      rcases List.mem_append.mp h with h | h
      · rcases List.mem_append.mp h with h | h
        · exact .inr ⟨l, List.mem_cons_self, h⟩
        · exact .inl h
      · rcases ih h with h | ⟨m, hm, hx⟩
        · exact .inl h
        · exact .inr ⟨m, List.mem_cons_of_mem _ hm, hx⟩

section Newline

/-- Cutting a string at line feeds, from the position after `l ++ m` where the current piece
holds `m`, gives the pieces of the characters after it. -/
theorem splitOnAux_newline (l m r : List Char) (acc : List String) :
    String.splitOnAux (String.ofList (l ++ m ++ r)) "\n" ⟨String.utf8Len l⟩
        ⟨String.utf8Len l + String.utf8Len m⟩ 0 acc =
      acc.reverse ++ (List.splitOnPPrepend (· == '\n') r m.reverse).map String.ofList := by
  induction r generalizing l m acc with
  | nil =>
    have hend : String.Pos.Raw.atEnd (String.ofList (l ++ m ++ []))
        ⟨String.utf8Len l + String.utf8Len m⟩ = true := by
      simp only [String.atEnd_iff, String.rawEndPos_ofList, String.utf8Len_append,
        String.utf8Len_nil, String.Pos.Raw.mk_le_mk]
      omega
    rw [String.splitOnAux, if_pos hend]
    simpa using String.extract_of_valid l m []
  | cons c r ih =>
    have hpos := Char.utf8Size_pos c
    have hend : ¬ String.Pos.Raw.atEnd (String.ofList (l ++ m ++ c :: r))
        ⟨String.utf8Len l + String.utf8Len m⟩ = true := by
      simp only [String.atEnd_iff, String.rawEndPos_ofList, String.utf8Len_append,
        String.utf8Len_cons, String.Pos.Raw.mk_le_mk]
      omega
    have hget : String.Pos.Raw.get (String.ofList (l ++ m ++ c :: r))
        ⟨String.utf8Len l + String.utf8Len m⟩ = c := by
      simpa using String.get_of_valid (l ++ m) (c :: r)
    have hnext : String.Pos.Raw.next (String.ofList (l ++ m ++ c :: r))
        ⟨String.utf8Len l + String.utf8Len m⟩ = ⟨String.utf8Len l + String.utf8Len m + c.utf8Size⟩ := by
      simpa using String.next_of_valid (l ++ m) c r
    have hsep : String.Pos.Raw.get "\n" 0 = '\n' := by decide
    rw [String.splitOnAux, if_neg hend, hget, hsep]
    by_cases hc : c = '\n'
    · -- a line feed closes the piece and opens the next one
      subst hc
      have hj : String.Pos.Raw.next "\n" 0 = ⟨1⟩ := by decide
      have hjend : String.Pos.Raw.atEnd "\n" ⟨1⟩ = true := by decide
      have hun : String.Pos.Raw.unoffsetBy ⟨String.utf8Len l + String.utf8Len m + '\n'.utf8Size⟩
          ⟨1⟩ = ⟨String.utf8Len l + String.utf8Len m⟩ := by
        simp [String.Pos.Raw.unoffsetBy, Char.utf8Size]
      have hrec := ih (l ++ m ++ ['\n']) [] (String.ofList m :: acc)
      simp only [List.append_nil, List.append_assoc, List.singleton_append, String.utf8Len_append,
        String.utf8Len_cons, String.utf8Len_nil, Nat.zero_add, Nat.add_zero,
        List.reverse_nil] at hrec
      simp only [beq_self_eq_true, if_true, hnext, hj, hjend, hun,
        String.extract_of_valid l m ('\n' :: r)]
      rw [← Nat.add_assoc] at hrec
      rw [List.append_assoc, hrec, List.splitOnPPrepend_cons_pos (by decide)]
      simp
    · -- any other character extends the piece
      have hrec := ih l (m ++ [c]) acc
      simp only [List.append_assoc, List.singleton_append, String.utf8Len_append,
        String.utf8Len_cons, String.utf8Len_nil, Nat.zero_add, List.reverse_append,
        List.reverse_singleton] at hrec
      have hun : String.Pos.Raw.unoffsetBy ⟨String.utf8Len l + String.utf8Len m⟩ 0 =
          ⟨String.utf8Len l + String.utf8Len m⟩ := by
        simp [String.Pos.Raw.unoffsetBy]
      simp only [beq_iff_eq, hc, if_false, hun, hnext]
      rw [← Nat.add_assoc] at hrec
      rw [List.append_assoc, hrec, List.splitOnPPrepend_cons_neg (by simpa using hc)]

/-- Cutting a string at line feeds cuts its characters there. -/
theorem splitOn_newline (s : String) :
    s.splitOn "\n" = (s.toList.splitOn '\n').map String.ofList := by
  have h := splitOnAux_newline [] [] s.toList []
  simp only [List.nil_append, String.ofList_toList, String.utf8Len_nil, Nat.add_zero,
    List.reverse_nil, List.splitOnPPrepend_nil_right] at h
  rw [String.splitOn, if_neg (by decide)]
  exact h

end Newline

/-! ### The canonical form keeps lines that open with no numeral -/

namespace Formula

theorem collapseSpaces_cons_of_pos {c : Char} (hc : isSpaceOrTab c = true) (l : List Char) :
    collapseSpaces (c :: l) = ' ' :: collapseSpaces (l.dropWhile isSpaceOrTab) := by
  rw [collapseSpaces, if_pos hc]

theorem dropWhile_blank_dropWhile_spaceOrTab (l : List Char) :
    (l.dropWhile isSpaceOrTab).dropWhile isBlankChar = l.dropWhile isBlankChar := by
  induction l with
  | nil => rfl
  | cons c l ih =>
    by_cases hc : isSpaceOrTab c = true
    · rw [List.dropWhile_cons_of_pos hc, ih, List.dropWhile_cons_of_pos (isBlankChar_of_isSpaceOrTab hc)]
    · rw [List.dropWhile_cons_of_neg hc]

/-- Collapsing runs of spaces and tabs commutes with dropping the leading blanks. -/
theorem dropWhile_collapseSpaces (l : List Char) :
    (collapseSpaces l).dropWhile isBlankChar = collapseSpaces (l.dropWhile isBlankChar) := by
  fun_induction collapseSpaces l with
  | case1 => rw [List.dropWhile_nil, collapseSpaces]
  | case2 c rest hc ih =>
    have hb : isBlankChar ' ' = true := by decide
    rw [List.dropWhile_cons_of_pos hb, ih, dropWhile_blank_dropWhile_spaceOrTab,
      List.dropWhile_cons_of_pos (isBlankChar_of_isSpaceOrTab hc)]
  | case3 c rest hc ih =>
    by_cases hb : isBlankChar c = true
    · rw [List.dropWhile_cons_of_pos hb, ih, List.dropWhile_cons_of_pos hb]
    · rw [List.dropWhile_cons_of_neg hb, List.dropWhile_cons_of_neg hb,
        collapseSpaces_cons_of_neg (by simpa using hc)]

theorem not_digit_of_spaceOrTab {c : Char} (hc : isSpaceOrTab c = true) :
    (digitValue? c).isSome = false ∧ c ≠ '-' := by
  simp only [isSpaceOrTab, Bool.or_eq_true, beq_iff_eq] at hc
  rcases hc with rfl | rfl <;> decide

theorem head?_any_digit_collapseSpaces (l : List Char) :
    ((collapseSpaces l).head?.any fun d => (digitValue? d).isSome) =
      (l.head?.any fun d => (digitValue? d).isSome) := by
  rcases l with _ | ⟨c, rest⟩
  · rw [collapseSpaces]
  · by_cases hc : isSpaceOrTab c = true
    · rw [collapseSpaces_cons_of_pos hc]
      simp [(not_digit_of_spaceOrTab hc).1, (not_digit_of_spaceOrTab (c := ' ') (by decide)).1]
    · rw [collapseSpaces_cons_of_neg (by simpa using hc)]
      rfl

/-- A run of spaces and tabs becomes one space, and neither opens a numeral. -/
theorem opensNumeral_collapseSpaces (l : List Char) :
    opensNumeral (collapseSpaces l) = opensNumeral l := by
  rcases l with _ | ⟨c, rest⟩
  · rw [collapseSpaces]
  · by_cases hc : isSpaceOrTab c = true
    · rw [collapseSpaces_cons_of_pos hc]
      have h1 := not_digit_of_spaceOrTab hc
      have h2 := not_digit_of_spaceOrTab (c := ' ') (by decide)
      simp [opensNumeral, h1.1, h1.2, h2.1]
    · rw [collapseSpaces_cons_of_neg (by simpa using hc)]
      simp only [opensNumeral, head?_any_digit_collapseSpaces]

theorem mem_collapseSpaces {l : List Char} {x : Char} (h : x ∈ collapseSpaces l) :
    x ∈ l ∨ x = ' ' := by
  fun_induction collapseSpaces l with
  | case1 => simp at h
  | case2 c rest hc ih =>
    rcases List.mem_cons.mp h with rfl | h
    · exact .inr rfl
    · rcases ih h with h | h
      · exact .inl (List.mem_cons_of_mem _ ((List.dropWhile_suffix _).subset h))
      · exact .inr h
  | case3 c rest hc ih =>
    rcases List.mem_cons.mp h with rfl | h
    · exact .inl List.mem_cons_self
    · rcases ih h with h | h
      · exact .inl (List.mem_cons_of_mem _ h)
      · exact .inr h

theorem isPrefix_stripSpaces (l : List Char) : stripSpaces l <+: l.dropWhile isSpaceOrTab := by
  have h := (List.dropWhile_suffix isSpaceOrTab (l := (l.dropWhile isSpaceOrTab).reverse)).reverse
  rwa [List.reverse_reverse] at h

theorem mem_tidyLine {l : List Char} {x : Char} (h : x ∈ tidyLine l) : x ∈ l ∨ x = ' ' := by
  rcases mem_collapseSpaces h with h | h
  · exact .inl ((List.dropWhile_suffix _).subset ((isPrefix_stripSpaces l).subset h))
  · exact .inr h

/-- A tidied line opens, once trimmed, with what the line opens with after its blanks. -/
theorem opensNumeral_of_trim_tidyLine {l : List Char} (h : opensNumeral (trim (tidyLine l)) = true) :
    opensNumeral (l.dropWhile isBlankChar) = true := by
  -- trimming keeps a prefix of the text after the leading blanks
  have htrim : trim (tidyLine l) <+: (tidyLine l).dropWhile isBlankChar := by
    have h' := (List.dropWhile_suffix isBlankChar
      (l := ((tidyLine l).dropWhile isBlankChar).reverse)).reverse
    rwa [List.reverse_reverse] at h'
  have h1 := opensNumeral_of_isPrefix h htrim
  rw [tidyLine, dropWhile_collapseSpaces, opensNumeral_collapseSpaces] at h1
  have h2 := opensNumeral_dropWhile_of_isPrefix h1 (isPrefix_stripSpaces l)
  rwa [dropWhile_blank_dropWhile_spaceOrTab] at h2

end Formula

/-! ### Plain continuation lines -/

/-- No continuation line of a formula, trimmed as the layout writes it, opens with a
numeral. -/
def PlainContinuations (doc : String) : Prop :=
  ∀ line ∈ (doc.splitOn "\n").tail, opensNumeral (trim line.toList) = false

theorem plainContinuations_empty : PlainContinuations "" := by
  intro line h
  rw [splitOn_newline] at h
  simp at h

theorem isInfix_trim (l : List Char) : trim l <:+: l := by
  have h := (List.dropWhile_suffix isBlankChar (l := (l.dropWhile isBlankChar).reverse)).reverse
  rw [List.reverse_reverse] at h
  exact h.isInfix.trans (List.dropWhile_suffix _).isInfix

/-- **The canonical form of a formula taken from a text whose lines open with no numeral has
plain continuation lines.**  Its lines are the tidied lines of the trimmed text, so each
continuation line is a tidied line that follows a line feed of the text. -/
theorem plainContinuations_normalize {doc : String} (h : NumeralFreeLines doc.toList) :
    PlainContinuations (Formula.normalize doc) := by
  unfold Formula.normalize
  dsimp only
  split
  · exact plainContinuations_empty
  · intro line hline
    have hfree : NumeralFreeLines (trim doc.toList) := h.of_isInfix (isInfix_trim _)
    generalize trim doc.toList = text at hfree hline
    set lines := ((text.splitOn '\n').map Formula.tidyLine).filter (· ≠ []) with hlines
    -- the tidied lines hold no line feed, so cutting their join gives them back
    have hlf : ∀ l ∈ lines, '\n' ∉ l := by
      intro l hl hmem
      obtain ⟨q, hq, rfl⟩ := List.mem_map.mp (List.mem_filter.mp hl).1
      rcases Formula.mem_tidyLine hmem with hmem | hmem
      · exact not_mem_of_mem_splitOn hq hmem
      · exact absurd hmem (by decide)
    have hsplit : ((String.intercalate ("\n" ++ "") (lines.map String.ofList)).splitOn "\n").tail =
        lines.tail.map String.ofList := by
      rw [splitOn_newline, Formula.toList_intercalate]
      by_cases hnil : lines = []
      · rw [hnil]
        rfl
      · rw [String.append_empty, show ("\n" : String).toList = ['\n'] from rfl,
          List.splitOn_intercalate '\n' hlf hnil, List.map_tail]
    rw [hsplit] at hline
    obtain ⟨l, hl, rfl⟩ := List.mem_map.mp hline
    -- a continuation line is a tidied line after the first
    obtain ⟨q, hq, rfl⟩ := List.mem_map.mp (List.map_tail ▸ mem_tail_of_mem_tail_filter hl)
    obtain ⟨a, r, har⟩ := exists_of_mem_tail_splitOn hq
    refine Bool.eq_false_iff.mpr fun ho => ?_
    rw [String.toList_ofList] at ho
    have hq' := opensNumeral_dropWhile_append (Formula.opensNumeral_of_trim_tidyLine ho) r
    rw [hfree a (q ++ r) har] at hq'
    exact Bool.false_ne_true hq'

/-! ### Formulas of a definitions text -/

namespace Definitions

theorem isPrefix_of_commentBody {s b r : List Char} (h : commentBody s = some (b, r)) : b <+: s := by
  induction s generalizing b r with
  | nil => simp [commentBody] at h
  | cons c rest ih =>
    unfold commentBody at h
    split at h
    · simp at h
    · simp only [Option.some.injEq, Prod.mk.injEq] at h
      obtain ⟨rfl, -⟩ := h
      exact List.nil_prefix
    · rename_i heq
      simp only [List.cons.injEq] at heq
      obtain ⟨rfl, rfl⟩ := heq
      simp only [Option.map_eq_some_iff, Prod.mk.injEq] at h
      obtain ⟨p, hp, rfl, -⟩ := h
      exact List.prefix_cons_inj _ |>.mpr (ih hp)

/-- The body of an entry is a piece of the text it was read from. -/
theorem isInfix_body_of_entryAt {s r body : List Char} {e : Entry} (h : entryAt s = some (e, r))
    (hb : e.body = some body) : body <:+: s := by
  unfold entryAt at h
  dsimp only at h
  have h3 : afterSeparator (((s.dropWhile isSpaceOrTab).drop 3).dropWhile isWordChar) <:+ s :=
    (afterSeparator_suffix _).trans ((List.dropWhile_suffix _).trans
      ((List.drop_suffix _ _).trans (List.dropWhile_suffix _)))
  split at h
  · split at h
    · simp at h
    · split at h
      · split at h
        · rename_i hc
          simp only [Option.some.injEq, Prod.mk.injEq] at h
          obtain ⟨rfl, -⟩ := h
          cases hb
          exact (isPrefix_of_commentBody hc).isInfix.trans ((List.drop_suffix _ _).trans h3).isInfix
        · simp only [Option.some.injEq, Prod.mk.injEq] at h
          obtain ⟨rfl, -⟩ := h
          simp at hb
      · simp only [Option.some.injEq, Prod.mk.injEq] at h
        obtain ⟨rfl, -⟩ := h
        simp at hb
  · simp at h

theorem body_infix_of_mem_entries {s body : List Char} {e : Entry} (he : e ∈ entries s)
    (hb : e.body = some body) : body <:+: s := by
  fun_induction entries s with
  | case1 => simp at he
  | case2 c cs e' rest h _ ih =>
    rcases List.mem_cons.mp he with rfl | he
    · exact isInfix_body_of_entryAt h hb
    · exact (ih he).trans ((nextLine_suffix rest).trans (entryAt_suffix h)).isInfix
  | case3 c cs h _ ih => exact (ih he).trans (nextLine_suffix _).isInfix

theorem signatureOperand?_suffix {s r : List Char} {op : Operand}
    (h : signatureOperand? s = some (op, r)) : r <:+ s := by
  obtain ⟨rfl, -⟩ := signatureOperand?_eq_some h
  exact List.suffix_append _ _

/-- The formula after a signature is the end of the comment. -/
theorem splitSignature_snd_suffix (s : List Char) : (splitSignature s).2 <:+ s := by
  fun_induction splitSignature s with
  | case1 s op r h _ _ _ ih =>
    exact ih.trans ((List.dropWhile_suffix _).trans (signatureOperand?_suffix h))
  | case2 s h => exact List.suffix_refl s

/-- Each formula a text describes has plain continuation lines when the text's lines open
with no numeral. -/
theorem plainContinuations_describe {text : List Char} (h : NumeralFreeLines text) {e : Entry}
    (he : e ∈ entries text) : PlainContinuations (describe "" e).doc := by
  unfold describe
  split
  · exact plainContinuations_empty
  · next body hb =>
    apply plainContinuations_normalize
    rw [String.toList_ofList]
    exact h.of_isInfix ((splitSignature_snd_suffix _).isInfix.trans
      ((isInfix_trim body).trans (body_infix_of_mem_entries he hb)))

end Definitions

/-! ### Tables whose formulas have plain continuation lines -/

namespace OpcodeTable

/-- Every formula of the table has plain continuation lines. -/
def DocsPlain (t : OpcodeTable) : Prop := ∀ info ∈ t.entries, PlainContinuations info.doc

theorem mem_entries_insert {t : OpcodeTable} {i j : OpcodeInfo} (h : j ∈ (t.insert i).entries) :
    j ∈ t.entries ∨ j = i := by
  unfold insert at h
  split at h
  · obtain ⟨k, hk, rfl⟩ := List.mem_map.mp h
    split
    · exact .inr rfl
    · exact .inl hk
  · rcases List.mem_append.mp h with h | h
    · exact .inl h
    · exact .inr (List.mem_singleton.mp h)

theorem DocsPlain.foldl_insert {t : OpcodeTable} (ht : t.DocsPlain) {is : List OpcodeInfo}
    (his : ∀ i ∈ is, PlainContinuations i.doc) : (is.foldl insert t).DocsPlain := by
  induction is generalizing t with
  | nil => exact ht
  | cons i is ih =>
    refine ih ?_ fun j hj => his j (List.mem_cons_of_mem _ hj)
    intro j hj
    rcases mem_entries_insert hj with hj | rfl
    · exact ht j hj
    · exact his j List.mem_cons_self

theorem docsPlain_empty : empty.DocsPlain := by
  intro info h
  simp [empty] at h

theorem DocsPlain.union {t u : OpcodeTable} (ht : t.DocsPlain) (hu : u.DocsPlain) :
    (t.union u).DocsPlain :=
  ht.foldl_insert hu

theorem docsPlain_merge {ts : List OpcodeTable} (h : ∀ t ∈ ts, t.DocsPlain) :
    (merge ts).DocsPlain := by
  unfold merge
  generalize hacc : empty = acc
  have hacc' : acc.DocsPlain := hacc ▸ docsPlain_empty
  clear hacc
  induction ts generalizing acc with
  | nil => exact hacc'
  | cons t ts ih =>
    exact ih (fun u hu => h u (List.mem_cons_of_mem _ hu)) _
      (hacc'.union (h t List.mem_cons_self))

theorem docsPlain_ofText {text : String} (h : NumeralFreeLines text.toList) :
    (ofText text).DocsPlain := by
  unfold ofText
  rw [← List.foldl_map]
  refine docsPlain_empty.foldl_insert fun i hi => ?_
  obtain ⟨e, he, rfl⟩ := List.mem_map.mp hi
  exact Definitions.plainContinuations_describe h he

end OpcodeTable

/-! ### The bundled tables -/

/-- **The bundled definitions texts continue no line with a numeral.**  Each text is checked
on its characters, its lines put together first.  Every line is rewritten to the characters
it is written with (`String.toList_ofList`, matched against the literal), so that the kernel
reads characters and never decodes the text's bytes. -/
theorem numeralFreeLines_definitions (v : LuaVersion) :
    NumeralFreeLines v.definitions.toList := by
  cases v <;>
  · simp only [LuaVersion.definitions, Bundled.lua50, Bundled.lua51, Bundled.lua52,
      Bundled.lua53, String.toList_intercalate, List.map_cons, List.map_nil]
    repeat rw [String.toList_ofList]
    decide +kernel

namespace OpcodeTable

theorem docsPlain_load (v : LuaVersion) : v.load.1.DocsPlain := by
  have hload : v.load.1 = ofText v.definitions := rfl
  rw [hload]
  exact docsPlain_ofText (numeralFreeLines_definitions v)

/-- **Every formula of a bundled table, or of their merge, has plain continuation lines.** -/
theorem docsPlain_of_selectTable {version : Option String} {O : OpcodeTable}
    (h : (selectTable version).2 = .ok O) : O.DocsPlain := by
  have hloaded : loadAll.1 = LuaVersion.all.map fun v => (v, v.load.1) := by
    rw [loadAll, foldl_load_fst, List.nil_append]
  unfold selectTable at h
  rcases version with _ | name
  · -- the merge of every bundled table
    simp only [hloaded, Except.ok.injEq] at h
    subst h
    refine docsPlain_merge fun t ht => ?_
    simp only [List.map_map, List.mem_map] at ht
    obtain ⟨v, -, rfl⟩ := ht
    exact docsPlain_load v
  · -- one version, looked up among the loaded tables
    simp only at h
    split at h
    · next v _ =>
      have hv : v ∈ LuaVersion.all := by cases v <;> simp [LuaVersion.all]
      rw [hloaded, lookup_map_pair hv] at h
      simp only [Except.ok.injEq] at h
      subst h
      exact docsPlain_load v
    · simp at h

end OpcodeTable

end LuaListing
