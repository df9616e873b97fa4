import Mathlib
import LuaListing.Proofs.Reannotation

/-!
# Framing a text into lines

A listing is cut into lines and written back as lines, each followed by a line feed.  The
two are inverse: only the empty text has no lines; the lines of a text, joined by line feeds
and ended with one, give the text back, with a line feed added when it had no final one; and
lines without line feeds, joined so, are cut back into themselves.

Line ends are normalised by two replacements in turn: first each `CR LF`, read left to right,
becomes `LF`, and then each `CR` that is left does.  That is the one-pass scan
`Lines.normalize`.  Since the second replacement leaves no `CR`, normalising again changes
nothing.

## Main definitions

* `Lines.collapseCrLf` — each `CR LF` becomes `LF`.
* `Lines.replaceLineEnds` — the two replacements in turn.

## Main statements

* `Lines.split_eq_nil_iff` — only the empty text has no lines.
* `Lines.intercalate_split` — joining the lines gives the text back, ended by a line feed.
* `Lines.split_intercalate` — cutting joined lines gives them back.
* `Lines.normalize_eq_replaceLineEnds` — the scan is the two replacements.
* `Lines.split_join_round_trip` — all of it together.
-/

namespace LuaListing

namespace Lines

/-! ### Cutting and joining -/

theorem cut_ne_nil (gs : List Glyph) : cut gs ≠ [] := by
  rw [cut_eq_splitOn]
  exact List.splitOn_ne_nil _ _

/-- Only the empty text has no lines. -/
theorem split_eq_nil_iff {t : List Glyph} : split t = [] ↔ t = [] := by
  constructor
  · intro h
    by_contra ht
    unfold split at h
    rw [if_neg ht] at h
    split at h
    · exact cut_ne_nil _ h
    · exact cut_ne_nil _ h
  · rintro rfl
    rfl

/-- The lines of a text, joined by line feeds and ended with one, give the text back; a text
without a final line feed gains one. -/
theorem intercalate_split {t : List Glyph} (ht : t ≠ []) :
    [lf].intercalate (split t) ++ [lf] = if t.getLast? = some lf then t else t ++ [lf] := by
  unfold split
  rw [if_neg ht]
  by_cases hlast : t.getLast? = some lf
  · rw [if_pos hlast, if_pos hlast]
    -- the final line feed was taken off before cutting, and the join puts it back
    obtain ⟨t', rfl⟩ := List.getLast?_eq_some_iff.mp hlast
    rw [List.dropLast_concat, cut_eq_splitOn, List.intercalate_splitOn]
  · rw [if_neg hlast, if_neg hlast, cut_eq_splitOn, List.intercalate_splitOn]

/-- Lines without line feeds, joined by line feeds and ended with one, are cut back into
themselves. -/
theorem split_intercalate {xs : List (List Glyph)} (hne : xs ≠ []) (h : ∀ x ∈ xs, lf ∉ x) :
    split ([lf].intercalate xs ++ [lf]) = xs := by
  rw [← join_eq_intercalate hne, split_join h]

/-! ### Normalising line ends -/

/-- Each `CR LF`, read left to right, becomes `LF`. -/
def collapseCrLf : List Glyph → List Glyph
  | g :: h :: rest =>
    if g = cr ∧ h = lf then lf :: collapseCrLf rest else g :: collapseCrLf (h :: rest)
  | gs => gs

/-- The two replacements in turn: each `CR LF` becomes `LF`, and then each remaining `CR`
does. -/
def replaceLineEnds (gs : List Glyph) : List Glyph :=
  (collapseCrLf gs).map fun g => if g = cr then lf else g

theorem lf_ne_cr : lf ≠ cr := by decide

theorem collapseCrLf_cr_lf (rest : List Glyph) :
    collapseCrLf (cr :: lf :: rest) = lf :: collapseCrLf rest := by
  simp [collapseCrLf]

theorem collapseCrLf_cr_of_ne {h : Glyph} (hh : h ≠ lf) (rest : List Glyph) :
    collapseCrLf (cr :: h :: rest) = cr :: collapseCrLf (h :: rest) := by
  simp [collapseCrLf, hh]

theorem collapseCrLf_cons_of_ne {g : Glyph} (hg : g ≠ cr) (rest : List Glyph) :
    collapseCrLf (g :: rest) = g :: collapseCrLf rest := by
  cases rest <;> simp [collapseCrLf, hg]

/-- **The scan is the two replacements.**  The induction follows the scan: a `CR` is looked at
together with the glyph after it, which the first replacement does too. -/
theorem normalize_eq_replaceLineEnds (gs : List Glyph) : normalize gs = replaceLineEnds gs := by
  fun_induction normalize gs with
  | case1 => rfl
  | case2 rest' ih =>
    simp [replaceLineEnds, collapseCrLf_cr_lf, ih, lf_ne_cr]
  | case3 h rest' hh ih =>
    simp [replaceLineEnds, collapseCrLf_cr_of_ne hh, ih]
  | case4 =>
    simp [replaceLineEnds, collapseCrLf]
  | case5 g rest hg ih =>
    simp [replaceLineEnds, collapseCrLf_cons_of_ne hg, ih, hg]

/-- No `CR` is left: the second replacement turns each one into `LF`. -/
theorem cr_not_mem_normalize (gs : List Glyph) : cr ∉ normalize gs := by
  rw [normalize_eq_replaceLineEnds, replaceLineEnds]
  simp only [List.mem_map, not_exists, not_and]
  intro g _
  by_cases hg : g = cr <;> simp [hg, lf_ne_cr]

theorem normalize_normalize (gs : List Glyph) : normalize (normalize gs) = normalize gs :=
  normalize_of_cr_not_mem (cr_not_mem_normalize gs)

/-- **Lines and line ends.**  Only the empty text has no lines; joining a text's lines by line
feeds and ending with one gives the text back, with a line feed added when it had none at the
end; lines without line feeds are cut back from their join; and normalising line ends is the
two replacements of `CR LF` and then of `CR` by `LF`, leaves no `CR` and is idempotent. -/
theorem split_join_round_trip :
    (∀ t : List Glyph, split t = [] ↔ t = []) ∧
    (∀ t : List Glyph, t ≠ [] →
      [lf].intercalate (split t) ++ [lf] = if t.getLast? = some lf then t else t ++ [lf]) ∧
    (∀ xs : List (List Glyph), xs ≠ [] → (∀ x ∈ xs, lf ∉ x) →
      split ([lf].intercalate xs ++ [lf]) = xs) ∧
    (∀ t : List Glyph, cr ∉ normalize t ∧ normalize (normalize t) = normalize t ∧
      normalize t = replaceLineEnds t) :=
  ⟨fun _ => split_eq_nil_iff, fun _ => intercalate_split, fun _ => split_intercalate,
    fun t => ⟨cr_not_mem_normalize t, normalize_normalize t, normalize_eq_replaceLineEnds t⟩⟩

/-- A text without a final line feed, and two lines of which one is empty. -/
theorem split_join_round_trip_two_lines :
    ([Glyph.char 'a', lf, Glyph.char 'b'] ≠ [] ∧
      [lf].intercalate (split [Glyph.char 'a', lf, Glyph.char 'b']) ++ [lf] =
        if [Glyph.char 'a', lf, Glyph.char 'b'].getLast? = some lf then
          [Glyph.char 'a', lf, Glyph.char 'b']
        else [Glyph.char 'a', lf, Glyph.char 'b'] ++ [lf]) ∧
    ([[Glyph.char 'a'], []] ≠ [] ∧ (∀ x ∈ [[Glyph.char 'a'], []], lf ∉ x) ∧
      split ([lf].intercalate [[Glyph.char 'a'], []] ++ [lf]) = [[Glyph.char 'a'], []]) :=
  ⟨⟨by decide, split_join_round_trip.2.1 _ (by decide)⟩,
    ⟨by decide, by decide, split_join_round_trip.2.2.1 _ (by decide) (by decide)⟩⟩

end Lines

end LuaListing
