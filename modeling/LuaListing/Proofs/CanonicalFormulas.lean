import Mathlib
import LuaListing.Proofs.FormulaContinuations

/-!
# The canonical form of a formula

The canonical form of a formula is made of lines: the lines of the trimmed text, each tidied
(its spaces and tabs at either end dropped, each run of them inside made one space), the empty
ones dropped; they are joined by a line feed followed by the indent.  This module describes a
canonical line on its own, shows that tidying gives one and keeps one, and reads the canonical
form as its kept lines joined.  The rest follows from that reading.  The indent only follows
each line feed.  Without an indent the text is canonical: no blank at either end, no tab, no two
spaces in a row, no space beside a line feed and no empty line.  An indent of spaces and tabs is
lost when a line is tidied, so taking the canonical form again gives back the same lines, and
formula lines, which trim every continuation line, do not show it.

## Main definitions

* `Formula.CanonicalLine` — a line in canonical form.
* `Formula.keptLines` — the lines a canonical formula is made of.
* `Formula.Canonical` — a formula text in canonical form.

## Main results

* `Formula.toList_normalize` — the canonical form is its kept lines joined.
* `Formula.toList_normalize_indent` — the indent only follows each line feed.
* `Formula.canonical_normalize` — the canonical form is canonical.
* `Formula.normalize_normalize` — taking it again undoes an indent of spaces and tabs.
* `Layout.formulaLines_normalize` — formula lines do not show such an indent.
-/

namespace LuaListing

namespace Formula

/-! ### Canonical lines -/

/-- A line in canonical form: no line feed and no tab, no space at either end, and no space
right after another. -/
structure CanonicalLine (l : List Char) : Prop where
  no_lf : '\n' ∉ l
  no_tab : '\t' ∉ l
  head : l.head? ≠ some ' '
  last : l.getLast? ≠ some ' '
  spaced : l.IsChain fun a b => a = ' ' → b ≠ ' '

theorem isSpaceOrTab_eq_false_iff {c : Char} :
    isSpaceOrTab c = false ↔ c ≠ ' ' ∧ c ≠ '\t' := by
  simp [isSpaceOrTab]

theorem tab_not_mem_collapseSpaces (l : List Char) : '\t' ∉ collapseSpaces l := by
  fun_induction collapseSpaces l with
  | case1 => simp
  | case2 c rest hc ih => simpa using ih
  | case3 c rest hc ih =>
    rw [List.mem_cons, not_or]
    exact ⟨(isSpaceOrTab_eq_false_iff.mp (by simpa using hc)).2.symm, ih⟩

/-- After a run of spaces and tabs is dropped, what is collapsed does not open with a space. -/
theorem head?_collapseSpaces_dropWhile (l : List Char) :
    (collapseSpaces (l.dropWhile isSpaceOrTab)).head? ≠ some ' ' := by
  have hd := List.head?_dropWhile_not isSpaceOrTab l
  cases hl : l.dropWhile isSpaceOrTab with
  | nil => simp [collapseSpaces]
  | cons c r =>
    rw [hl] at hd
    have hc : isSpaceOrTab c = false := by simpa using hd
    rw [collapseSpaces_cons_of_neg hc, List.head?_cons]
    exact fun h => (isSpaceOrTab_eq_false_iff.mp hc).1 (Option.some.inj h)

theorem isChain_collapseSpaces (l : List Char) :
    (collapseSpaces l).IsChain fun a b => a = ' ' → b ≠ ' ' := by
  fun_induction collapseSpaces l with
  | case1 => exact List.IsChain.nil
  | case2 c rest hc ih =>
    refine List.isChain_cons.mpr ⟨fun y hy _ => ?_, ih⟩
    rintro rfl
    exact head?_collapseSpaces_dropWhile rest hy
  | case3 c rest hc ih =>
    refine List.isChain_cons.mpr ⟨fun y _ hc' => ?_, ih⟩
    exact absurd hc' (isSpaceOrTab_eq_false_iff.mp (by simpa using hc)).1

/-- **Tidying gives a canonical line.** -/
theorem tidyLine_tidy {l : List Char} (hl : '\n' ∉ l) : CanonicalLine (tidyLine l) where
  no_lf h := by
    rcases mem_tidyLine h with h | h
    · exact hl h
    · exact absurd h (by decide)
  no_tab := tab_not_mem_collapseSpaces _
  head := by
    rw [tidyLine]
    cases hs : stripSpaces l with
    | nil => simp [collapseSpaces]
    | cons c r =>
      have hc : isSpaceOrTab c = false :=
        head?_strip isSpaceOrTab l (by rw [← stripSpaces, hs]; rfl)
      rw [collapseSpaces_cons_of_neg hc, List.head?_cons]
      exact fun h => (isSpaceOrTab_eq_false_iff.mp hc).1 (Option.some.inj h)
  last := by
    rw [tidyLine]
    rcases List.eq_nil_or_concat (stripSpaces l) with hs | ⟨m, d, hs⟩
    · simp [hs, collapseSpaces]
    · rw [List.concat_eq_append] at hs
      have hd : isSpaceOrTab d = false :=
        getLast?_strip isSpaceOrTab l (by rw [← stripSpaces, hs]; simp)
      obtain ⟨r, hr⟩ := collapseSpaces_concat hd m
      rw [hs, hr, List.getLast?_concat]
      exact fun h => (isSpaceOrTab_eq_false_iff.mp hd).1 (Option.some.inj h)
  spaced := isChain_collapseSpaces _

theorem collapseSpaces_eq_self {l : List Char} (htab : '\t' ∉ l)
    (hsp : l.IsChain fun a b => a = ' ' → b ≠ ' ') : collapseSpaces l = l := by
  fun_induction collapseSpaces l with
  | case1 => rfl
  | case2 c rest hc ih =>
    -- a space is followed by neither a space nor a tab, so nothing is dropped after it
    have hc' : c = ' ' := by
      simp only [isSpaceOrTab, Bool.or_eq_true, beq_iff_eq] at hc
      exact hc.resolve_right fun h => htab (h ▸ List.mem_cons_self)
    have hdrop : rest.dropWhile isSpaceOrTab = rest := by
      cases rest with
      | nil => rfl
      | cons d r =>
        have hd : d ≠ ' ' := (List.isChain_cons_cons.mp hsp).1 hc'
        have hdt : d ≠ '\t' := fun h => htab (h ▸ List.mem_cons_of_mem _ List.mem_cons_self)
        exact List.dropWhile_cons_of_neg (by simp [isSpaceOrTab_eq_false_iff.mpr ⟨hd, hdt⟩])
    rw [hdrop] at ih ⊢
    rw [ih (fun h => htab (List.mem_cons_of_mem _ h)) hsp.tail, hc']
  | case3 c rest hc ih =>
    rw [ih (fun h => htab (List.mem_cons_of_mem _ h)) hsp.tail]

/-- **Tidying keeps a canonical line.** -/
theorem CanonicalLine.tidyLine_eq {l : List Char} (h : CanonicalLine l) : tidyLine l = l := by
  have hsp : ∀ c ∈ l, c ≠ ' ' → isSpaceOrTab c = false := fun c hc hs =>
    isSpaceOrTab_eq_false_iff.mpr ⟨hs, fun ht => h.no_tab (ht ▸ hc)⟩
  have hstrip : stripSpaces l = l :=
    strip_eq_self isSpaceOrTab
      (fun c hc => hsp c (List.mem_of_head? hc) fun hs => h.head (hs ▸ hc))
      (fun c hc => hsp c (List.mem_of_getLast? hc) fun hs => h.last (hs ▸ hc))
  rw [tidyLine, hstrip, collapseSpaces_eq_self h.no_tab h.spaced]

/-- Spaces and tabs in front of a line are lost when it is tidied. -/
theorem tidyLine_append_of_spaceOrTab {ind : List Char}
    (hind : ∀ c ∈ ind, isSpaceOrTab c = true) (l : List Char) :
    tidyLine (ind ++ l) = tidyLine l := by
  rw [tidyLine, tidyLine, stripSpaces, stripSpaces, List.dropWhile_append_of_pos hind]

/-! ### The lines a formula keeps -/

/-- The lines of a canonical formula: the lines of the trimmed text, tidied, without the empty
ones. -/
def keptLines (doc : String) : List (List Char) :=
  (((trim doc.toList).splitOn '\n').map tidyLine).filter (· ≠ [])

theorem tidyLine_nil : tidyLine [] = [] := by
  rw [tidyLine, stripSpaces, List.dropWhile_nil, List.reverse_nil, List.dropWhile_nil,
    List.reverse_nil, collapseSpaces]

/-- The canonical form is its kept lines joined by a line feed and the indent. -/
theorem toList_normalize (doc indent : String) :
    (normalize doc indent).toList = ('\n' :: indent.toList).intercalate (keptLines doc) := by
  simp only [normalize, keptLines]
  split
  · next h => simp [h, tidyLine_nil]
  · rw [toList_intercalate, String.toList_append]
    rfl

theorem mem_keptLines {doc : String} {l : List Char} (h : l ∈ keptLines doc) :
    CanonicalLine l ∧ l ≠ [] := by
  rw [keptLines, List.mem_filter, List.mem_map] at h
  obtain ⟨⟨seg, hseg, rfl⟩, hne⟩ := h
  exact ⟨tidyLine_tidy (not_mem_of_mem_splitOn hseg), by simpa using hne⟩

/-- Joining lines by a line feed, then following every line feed by an indent, is joining
them by the line feed and the indent. -/
theorem flatMap_intercalate (ind : List Char) {ls : List (List Char)}
    (h : ∀ l ∈ ls, '\n' ∉ l) :
    (['\n'].intercalate ls).flatMap (fun c => if c = '\n' then '\n' :: ind else [c]) =
      ('\n' :: ind).intercalate ls := by
  induction ls with
  | nil => rfl
  | cons l ls ih =>
    have hl : l.flatMap (fun c => if c = '\n' then '\n' :: ind else [c]) = l := by
      rw [List.flatMap_congr (g := fun c => [c]) fun c hc => if_neg fun h' : c = '\n' =>
        h l List.mem_cons_self (h' ▸ hc), List.flatMap_singleton']
    cases ls with
    | nil => simpa using hl
    | cons l' ls =>
      rw [List.intercalate_cons_cons, List.intercalate_cons_cons, List.flatMap_append,
        List.flatMap_append, hl, ih fun m hm => h m (List.mem_cons_of_mem _ hm)]
      simp

/-- Joining by a separator and an indent is joining by the separator lines that, but for the
first, open with the indent. -/
theorem intercalate_cons_sep {α : Type} (c : α) (ind l : List α) (ls : List (List α)) :
    (c :: ind).intercalate (l :: ls) = [c].intercalate (l :: ls.map (ind ++ ·)) := by
  induction ls generalizing l with
  | nil => simp
  | cons l' ls ih =>
    have hfront : ∀ m : List (List α), [c].intercalate ((ind ++ l') :: m) =
        ind ++ [c].intercalate (l' :: m) := by
      intro m
      cases m <;> simp
    rw [List.intercalate_cons_cons, ih, List.map_cons, List.intercalate_cons_cons, hfront]
    simp

/-- In canonical lines joined by line feeds, a space or a line feed is followed by neither. -/
theorem isChain_intercalate {ls : List (List Char)}
    (h : ∀ l ∈ ls, CanonicalLine l ∧ l ≠ []) :
    (['\n'].intercalate ls).IsChain fun a b =>
      a = ' ' ∨ a = '\n' → b ≠ ' ' ∧ b ≠ '\n' := by
  induction ls with
  | nil => exact .nil
  | cons l ls ih =>
    have hl := (h l List.mem_cons_self).1
    -- inside a line only a space can stand before a gap, and no line feed does
    have hline : l.IsChain fun a b => a = ' ' ∨ a = '\n' → b ≠ ' ' ∧ b ≠ '\n' :=
      hl.spaced.imp_of_mem_imp fun a b ha hb hab => by
        rintro (rfl | rfl)
        · exact ⟨hab rfl, fun h' => hl.no_lf (h' ▸ hb)⟩
        · exact absurd ha hl.no_lf
    cases ls with
    | nil => simpa using hline
    | cons l' ls =>
      obtain ⟨hl', hne'⟩ := h l' (List.mem_cons_of_mem _ List.mem_cons_self)
      obtain ⟨c, r, rfl⟩ := List.exists_cons_of_ne_nil hne'
      have hc : c ≠ ' ' ∧ c ≠ '\n' :=
        ⟨fun h' => hl'.head (by rw [h']; rfl), fun h' => hl'.no_lf (h' ▸ List.mem_cons_self)⟩
      rw [List.intercalate_cons_cons, List.append_assoc, List.singleton_append,
        List.intercalate_cons_cons_left]
      refine List.isChain_append.mpr ⟨hline, List.isChain_cons.mpr ⟨?_, ?_⟩, ?_⟩
      · -- the line feed is followed by the first character of the next line
        intro y hy _
        rw [List.head?_cons, Option.mem_some_iff] at hy
        exact hy ▸ hc
      · have hrest := ih fun m hm => h m (List.mem_cons_of_mem _ hm)
        rwa [List.intercalate_cons_cons_left] at hrest
      · -- the last character of a line is neither a space nor a line feed
        intro x hx y hy
        rw [List.head?_cons, Option.mem_some_iff] at hy
        subst hy
        rintro (rfl | rfl)
        · exact absurd hx hl.last
        · exact absurd (List.mem_of_getLast? hx) hl.no_lf

/-! ### The canonical form -/

/-- A formula text in canonical form: no blank at either end, no tab, no two spaces in a row,
no space beside a line feed, and no empty line (the empty text has no line at all). -/
structure Canonical (cs : List Char) : Prop where
  head : ∀ c ∈ cs.head?, isBlankChar c = false
  last : ∀ c ∈ cs.getLast?, isBlankChar c = false
  no_tab : '\t' ∉ cs
  no_double_space : ¬ [' ', ' '] <:+: cs
  no_space_before_lf : ¬ [' ', '\n'] <:+: cs
  no_space_after_lf : ¬ ['\n', ' '] <:+: cs
  no_empty_line : cs ≠ [] → [] ∉ cs.splitOn '\n'

/-- **The canonical form is canonical.** -/
theorem canonical_normalize (doc : String) : Canonical (normalize doc "").toList := by
  have htext : (normalize doc "").toList = ['\n'].intercalate (keptLines doc) := by
    rw [toList_normalize]
    rfl
  have hlines : ∀ l ∈ keptLines doc, CanonicalLine l ∧ l ≠ [] := fun _ => mem_keptLines
  -- every pair of neighbours is read off one chain
  have hpair : ∀ a b, [a, b] <:+: (normalize doc "").toList →
      a = ' ' ∨ a = '\n' → b ≠ ' ' ∧ b ≠ '\n' := fun a b hab =>
    List.isChain_pair.mp <| List.IsChain.infix (isChain_intercalate hlines) (htext ▸ hab)
  refine ⟨fun _ => head?_normalize doc "", fun _ => getLast?_normalize doc "", ?_,
    fun h => (hpair _ _ h (.inl rfl)).1 rfl, fun h => (hpair _ _ h (.inl rfl)).2 rfl,
    fun h => (hpair _ _ h (.inr rfl)).1 rfl, ?_⟩
  · rw [htext]
    intro h
    rcases mem_of_mem_intercalate h with h | ⟨l, hl, h⟩
    · exact absurd h (by decide)
    · exact (hlines l hl).1.no_tab h
  · intro hne
    have hk : keptLines doc ≠ [] := by
      rintro hk
      rw [htext, hk] at hne
      exact hne rfl
    rw [htext, List.splitOn_intercalate _ (fun l hl => (hlines l hl).1.no_lf) hk]
    exact fun h => (hlines [] h).2 rfl

/-- The lines of the canonical form under an indent without a line feed: the first kept line,
then the others after the indent. -/
theorem splitOn_normalize {indent : String} (hind : '\n' ∉ indent.toList) {doc : String}
    {l : List Char} {ls : List (List Char)} (hk : keptLines doc = l :: ls) :
    (normalize doc indent).toList.splitOn '\n' = l :: ls.map (indent.toList ++ ·) := by
  have hlines : ∀ m ∈ l :: ls, '\n' ∉ m := fun m hm => (mem_keptLines (hk ▸ hm)).1.no_lf
  have hlf : ∀ m ∈ l :: ls.map (indent.toList ++ ·), '\n' ∉ m := by
    intro m hm
    rcases List.mem_cons.mp hm with rfl | hm
    · exact hlines m List.mem_cons_self
    · obtain ⟨m', hm', rfl⟩ := List.mem_map.mp hm
      rw [List.mem_append, not_or]
      exact ⟨hind, hlines m' (List.mem_cons_of_mem _ hm')⟩
  rw [toList_normalize, hk, intercalate_cons_sep,
    List.splitOn_intercalate _ hlf (List.cons_ne_nil _ _)]

/-- An indent of spaces and tabs is lost when the canonical form is taken again: the same
lines are kept. -/
theorem keptLines_normalize {indent : String}
    (hind : ∀ c ∈ indent.toList, isSpaceOrTab c = true) (doc : String) :
    keptLines (normalize doc indent) = keptLines doc := by
  have htrim : trim (normalize doc indent).toList = (normalize doc indent).toList :=
    trim_eq_self (fun _ => head?_normalize doc indent) (fun _ => getLast?_normalize doc indent)
  rw [keptLines, htrim]
  cases hk : keptLines doc with
  | nil =>
    rw [toList_normalize, hk]
    simp [tidyLine_nil]
  | cons l ls =>
    rw [splitOn_normalize (fun h => absurd (hind _ h) (by decide)) hk]
    -- every line comes back: the first as it is, the others once their indent is lost
    have hlines : ∀ m ∈ l :: ls, CanonicalLine m ∧ m ≠ [] := fun m hm =>
      mem_keptLines (hk ▸ hm)
    have htidy : ∀ m ∈ l :: ls, tidyLine m = m := fun m hm => (hlines m hm).1.tidyLine_eq
    have hrest : ls.map (tidyLine ∘ (indent.toList ++ ·)) = ls := by
      rw [List.map_congr_left fun m hm => by
        rw [Function.comp_apply, tidyLine_append_of_spaceOrTab hind,
          htidy m (List.mem_cons_of_mem _ hm)]]
      exact List.map_id ls
    rw [List.map_cons, List.map_map, htidy l List.mem_cons_self, hrest,
      List.filter_eq_self.mpr fun m hm => by simpa using (hlines m hm).2]

/-- **The indent only follows each line feed**: the canonical form with an indent is the one
without, every line feed followed by the indent. -/
theorem toList_normalize_indent (doc indent : String) :
    (normalize doc indent).toList = (normalize doc "").toList.flatMap
      fun c => if c = '\n' then '\n' :: indent.toList else [c] := by
  rw [toList_normalize, toList_normalize, String.toList_empty]
  exact (flatMap_intercalate indent.toList fun l hl => (mem_keptLines hl).1.no_lf).symm

example : normalize " R(A) :=\tRK(B)\n  \n  + RK(C)  " "\t " = "R(A) := RK(B)\n\t + RK(C)" := by
  decide +kernel

/-- Taking the canonical form again undoes an indent of spaces and tabs. -/
theorem normalize_normalize {indent : String}
    (hind : ∀ c ∈ indent.toList, isSpaceOrTab c = true) (doc : String) :
    normalize (normalize doc indent) "" = normalize doc "" := by
  apply String.toList_injective
  rw [toList_normalize, toList_normalize, keptLines_normalize hind]

theorem trimBlank_append_of_spaceOrTab {ind : List Char}
    (hind : ∀ c ∈ ind, isSpaceOrTab c = true) (l : List Char) :
    String.trimBlank (String.ofList (ind ++ l)) = String.trimBlank (String.ofList l) := by
  rw [String.trimBlank, String.trimBlank, String.toList_ofList, String.toList_ofList, trim, trim,
    List.dropWhile_append_of_pos fun c hc => isBlankChar_of_isSpaceOrTab (hind c hc)]

end Formula

/-- The formula lines of a text that is not empty, from its lines. -/
theorem Layout.formulaLines_of_splitOn (lay : Layout) {s first : String} {rest : List String}
    (he : s.isEmpty = false) (hs : s.splitOn "\n" = first :: rest) :
    lay.formulaLines s = String.trimBlankEnd (lay.padding ++ lay.formulaMarker ++ first) ::
      rest.map fun line =>
        lay.padding ++ String.ofList (List.replicate lay.formulaMarker.length ' ') ++
          String.trimBlank line := by
  unfold formulaLines
  simp only [he, hs, Bool.false_eq_true, if_false]

/-- **Formula lines do not show the indent of the canonical form**, when it is made of spaces
and tabs: a continuation line is trimmed before it is written. -/
theorem Layout.formulaLines_normalize (lay : Layout) {indent : String}
    (hind : ∀ c ∈ indent.toList, isSpaceOrTab c = true) (doc : String) :
    lay.formulaLines (Formula.normalize doc indent) =
      lay.formulaLines (Formula.normalize doc "") := by
  have htext := fun ind => Formula.toList_normalize doc ind
  cases hk : Formula.keptLines doc with
  | nil =>
    have hempty : ∀ ind, Formula.normalize doc ind = "" := fun ind =>
      String.toList_injective (by rw [htext, hk]; rfl)
    rw [hempty, hempty]
  | cons l ls =>
    have hl : l ≠ [] := (Formula.mem_keptLines (hk ▸ List.mem_cons_self)).2
    -- the lines of the text: the first line, then the others after the indent
    have hsplit : ∀ ind : String, '\n' ∉ ind.toList →
        (Formula.normalize doc ind).splitOn "\n" =
          String.ofList l :: ls.map fun m => String.ofList (ind.toList ++ m) := by
      intro ind hi
      rw [splitOn_newline, Formula.splitOn_normalize hi hk, List.map_cons, List.map_map]
      rfl
    have hne : ∀ ind, (Formula.normalize doc ind).isEmpty = false := by
      intro ind
      refine Bool.eq_false_iff.mpr fun h => hl ?_
      have h0 := congrArg String.toList (String.isEmpty_iff.mp h)
      rw [htext, hk] at h0
      obtain ⟨c, r, rfl⟩ := List.exists_cons_of_ne_nil hl
      simp at h0
    have hlf : '\n' ∉ indent.toList := fun h => absurd (hind _ h) (by decide)
    rw [lay.formulaLines_of_splitOn (hne indent) (hsplit indent hlf),
      lay.formulaLines_of_splitOn (hne "") (hsplit "" (by simp))]
    simp only [List.map_map, Function.comp_def, String.toList_empty, List.nil_append,
      Formula.trimBlank_append_of_spaceOrTab hind]

namespace Formula

/-- **The canonical form of a formula.**  The indent only follows each line feed; without an
indent the text is canonical and taking its canonical form changes nothing; an indent of
spaces and tabs is undone by taking the canonical form again, and formula lines do not show
it. -/
theorem normalize_canonical (doc indent : String) :
    (normalize doc indent).toList = (normalize doc "").toList.flatMap
        (fun c => if c = '\n' then '\n' :: indent.toList else [c]) ∧
      Canonical (normalize doc "").toList ∧
      normalize (normalize doc "") "" = normalize doc "" ∧
      ((∀ c ∈ indent.toList, isSpaceOrTab c = true) →
        normalize (normalize doc indent) "" = normalize doc "" ∧
        ∀ lay : Layout,
          lay.formulaLines (normalize doc indent) = lay.formulaLines (normalize doc "")) :=
  ⟨toList_normalize_indent doc indent, canonical_normalize doc,
    normalize_normalize (fun _ h => absurd h List.not_mem_nil) doc,
    fun hind =>
      ⟨normalize_normalize hind doc, fun lay => lay.formulaLines_normalize hind doc⟩⟩

/-- A formula over three lines, one of them holding only a space and a no-break space, under a
tab-and-space indent. -/
theorem normalize_canonical_tab_indent :
    (∀ c ∈ "\t ".toList, isSpaceOrTab c = true) ∧
      normalize (normalize " R(A) :=\tRK(B)\n \u00a0\n  + RK(C)  " "\t ") "" =
        normalize " R(A) :=\tRK(B)\n \u00a0\n  + RK(C)  " "" ∧
      ∀ lay : Layout, lay.formulaLines (normalize " R(A) :=\tRK(B)\n \u00a0\n  + RK(C)  " "\t ") =
        lay.formulaLines (normalize " R(A) :=\tRK(B)\n \u00a0\n  + RK(C)  " "") :=
  have hind : ∀ c ∈ "\t ".toList, isSpaceOrTab c = true := by simp [isSpaceOrTab]
  ⟨hind, (normalize_canonical _ _).2.2.2 hind⟩

end Formula

end LuaListing
