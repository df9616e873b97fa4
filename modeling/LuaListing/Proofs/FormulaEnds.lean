import LuaListing.Opcode.Formula

/-!
# Canonical formulas have no blank at either end

The canonical form of a formula neither starts nor ends with a blank character.  Trimming
leaves a non-blank first and last character; the first line of the trimmed text then starts
with that character and the last line ends with the other, and tidying a line keeps a first
or last character that is neither a space nor a tab.  Those two lines are the first and the
last kept, so they open and close the text the lines are joined into.

## Main results

* `Formula.head?_normalize`, `Formula.getLast?_normalize` — the first and last character of
  a canonical formula are not blank.
* `Formula.normalize_of_no_blank` — a formula without blanks is canonical.
-/

namespace LuaListing

/-! ### Dropping from both ends -/

section Strip

variable {α : Type} (p : α → Bool)

theorem dropWhile_concat_of_neg {d : α} (hd : p d = false) (l : List α) :
    ∃ m, (l ++ [d]).dropWhile p = m ++ [d] := by
  rw [List.dropWhile_append]
  split
  · exact ⟨[], by simp [hd]⟩
  · exact ⟨_, rfl⟩

/-- Dropping from the end of a list that starts with a kept element keeps that element. -/
theorem reverse_dropWhile_reverse_cons {c : α} (hc : p c = false) (l : List α) :
    ∃ r, ((c :: l).reverse.dropWhile p).reverse = c :: r := by
  obtain ⟨m, hm⟩ := dropWhile_concat_of_neg p hc l.reverse
  exact ⟨m.reverse, by simp [hm]⟩

theorem strip_cons {c : α} (hc : p c = false) (l : List α) :
    ∃ r, (((c :: l).dropWhile p).reverse.dropWhile p).reverse = c :: r := by
  rw [List.dropWhile_cons_of_neg (by simp [hc])]
  exact reverse_dropWhile_reverse_cons p hc l

theorem strip_concat {d : α} (hd : p d = false) (l : List α) :
    ∃ r, (((l ++ [d]).dropWhile p).reverse.dropWhile p).reverse = r ++ [d] := by
  obtain ⟨m, hm⟩ := dropWhile_concat_of_neg p hd l
  exact ⟨m, by simp [hm, hd]⟩

/-- Nothing is dropped from a list whose two ends are kept. -/
theorem strip_eq_self {l : List α} (hh : ∀ c ∈ l.head?, p c = false)
    (hl : ∀ c ∈ l.getLast?, p c = false) : ((l.dropWhile p).reverse.dropWhile p).reverse = l := by
  rcases List.eq_nil_or_concat l with rfl | ⟨m, d, rfl⟩
  · rfl
  · rw [List.concat_eq_append] at hh hl ⊢
    have hd : p d = false := hl d (by simp)
    have hfront : (m ++ [d]).dropWhile p = m ++ [d] := by
      rcases m with _ | ⟨c, m⟩
      · exact List.dropWhile_cons_of_neg (by simp [hd])
      · exact List.dropWhile_cons_of_neg (by simp [hh c rfl])
    rw [hfront, List.reverse_append, List.reverse_singleton, List.singleton_append,
      List.dropWhile_cons_of_neg (by simp [hd])]
    simp

theorem head?_strip (l : List α) {c : α}
    (h : (((l.dropWhile p).reverse.dropWhile p).reverse).head? = some c) : p c = false := by
  have hd := List.head?_dropWhile_not p l
  cases hl : l.dropWhile p with
  | nil => simp [hl] at h
  | cons c0 t =>
    rw [hl] at hd h
    obtain ⟨r, hr⟩ := reverse_dropWhile_reverse_cons p hd t
    rw [hr] at h
    simp only [List.head?_cons, Option.some.injEq] at h
    exact h ▸ hd

theorem getLast?_strip (l : List α) {c : α}
    (h : (((l.dropWhile p).reverse.dropWhile p).reverse).getLast? = some c) : p c = false := by
  have hd := List.head?_dropWhile_not p (l.dropWhile p).reverse
  rw [List.getLast?_reverse] at h
  rw [h] at hd
  exact hd

end Strip

theorem head?_trim (l : List Char) {c : Char} (h : (trim l).head? = some c) :
    isBlankChar c = false :=
  head?_strip isBlankChar l h

theorem getLast?_trim (l : List Char) {c : Char} (h : (trim l).getLast? = some c) :
    isBlankChar c = false :=
  getLast?_strip isBlankChar l h

theorem trim_tab_cons (l : List Char) : trim ('\t' :: l) = trim l := by
  rw [trim, trim, List.dropWhile_cons_of_pos (by decide)]

theorem trim_concat_tab (l : List Char) : trim (l ++ ['\t']) = trim l := by
  rw [trim, trim, List.dropWhile_append]
  split
  · rename_i h
    rw [List.isEmpty_iff.mp h]
    rfl
  · rw [trimEnd, trimEnd, List.reverse_append, List.reverse_singleton, List.singleton_append,
      List.dropWhile_cons_of_pos (by decide)]

theorem trim_eq_self {l : List Char} (hh : ∀ c ∈ l.head?, isBlankChar c = false)
    (hl : ∀ c ∈ l.getLast?, isBlankChar c = false) : trim l = l :=
  strip_eq_self isBlankChar hh hl

theorem isSpaceOrTab_of_not_blank {c : Char} (h : isBlankChar c = false) :
    isSpaceOrTab c = false := by
  cases hc : isSpaceOrTab c
  · rfl
  · rw [isBlankChar_of_isSpaceOrTab hc] at h
    exact absurd h Bool.noConfusion

theorem ne_lf_of_not_blank {c : Char} (h : isBlankChar c = false) : c ≠ '\n' := by
  rintro rfl
  exact absurd h (by decide)

/-! ### The lines of a formula -/

namespace Formula

theorem collapseSpaces_cons_of_neg {c : Char} (hc : isSpaceOrTab c = false) (l : List Char) :
    collapseSpaces (c :: l) = c :: collapseSpaces l := by
  rw [collapseSpaces]
  simp [hc]

theorem collapseSpaces_concat {d : Char} (hd : isSpaceOrTab d = false) (l : List Char) :
    ∃ r, collapseSpaces (l ++ [d]) = r ++ [d] := by
  -- by strong induction on the length: a run of spaces is collapsed before recursing
  induction hn : l.length using Nat.strongRecOn generalizing l with
  | ind n ih =>
  rcases l with _ | ⟨c, l⟩
  · refine ⟨[], ?_⟩
    rw [List.nil_append, collapseSpaces_cons_of_neg hd, collapseSpaces]
  · simp only [List.length_cons] at hn
    rw [List.cons_append, collapseSpaces]
    by_cases hc : isSpaceOrTab c = true
    · obtain ⟨m, hm⟩ := dropWhile_concat_of_neg isSpaceOrTab hd l
      have hlen : m.length ≤ l.length := by
        have := (List.dropWhile_suffix isSpaceOrTab (l := l ++ [d])).length_le
        simp only [hm, List.length_append, List.length_singleton] at this
        omega
      obtain ⟨r, hr⟩ := ih m.length (by omega) m rfl
      exact ⟨' ' :: r, by simp [hc, hm, hr]⟩
    · obtain ⟨r, hr⟩ := ih l.length (by omega) l rfl
      exact ⟨c :: r, by simp [hc, hr]⟩

theorem tidyLine_cons {c : Char} (hc : isSpaceOrTab c = false) (l : List Char) :
    ∃ r, tidyLine (c :: l) = c :: r := by
  obtain ⟨r, hr⟩ := strip_cons isSpaceOrTab hc l
  exact ⟨collapseSpaces r, by rw [tidyLine, stripSpaces, hr, collapseSpaces_cons_of_neg hc]⟩

theorem tidyLine_concat {d : Char} (hd : isSpaceOrTab d = false) (l : List Char) :
    ∃ r, tidyLine (l ++ [d]) = r ++ [d] := by
  obtain ⟨m, hm⟩ := strip_concat isSpaceOrTab hd l
  rw [tidyLine, stripSpaces, hm]
  exact collapseSpaces_concat hd m

theorem splitOn_cons_of_ne {c sep : Char} (hc : c ≠ sep) (l : List Char) :
    ∃ seg segs, (c :: l).splitOn sep = (c :: seg) :: segs := by
  obtain ⟨seg, segs, hs⟩ := List.exists_cons_of_ne_nil (List.splitOn_ne_nil sep l)
  exact ⟨seg, segs, by simp [List.splitOn_cons_eq_if_modifyHead, hc, hs]⟩

theorem splitOn_concat_of_ne {d sep : Char} (hd : d ≠ sep) (l : List Char) :
    ∃ segs seg, (l ++ [d]).splitOn sep = segs ++ [seg ++ [d]] := by
  induction l with
  | nil => exact ⟨[], [], List.splitOn_eq_singleton (by simpa using Ne.symm hd)⟩
  | cons x l ih =>
    obtain ⟨segs, seg, hs⟩ := ih
    rw [List.cons_append, List.splitOn_cons_eq_if_modifyHead, hs]
    by_cases hx : x = sep
    · exact ⟨[] :: segs, seg, by simp [hx]⟩
    · rcases segs with _ | ⟨s, segs⟩
      · exact ⟨[], x :: seg, by simp [hx]⟩
      · exact ⟨(x :: s) :: segs, seg, by simp [hx]⟩

/-! ### Joining the lines -/

theorem toList_intercalate (s : String) (ls : List (List Char)) :
    (String.intercalate s (ls.map String.ofList)).toList = s.toList.intercalate ls := by
  match ls with
  | [] => simp [String.intercalate_nil]
  | [l] => simp [String.intercalate_singleton]
  | l :: l' :: ls =>
    rw [List.map_cons, List.map_cons, String.intercalate_cons_cons, ← List.map_cons,
      String.toList_append, String.toList_append, toList_intercalate s (l' :: ls),
      List.intercalate_cons_cons, String.toList_ofList]

theorem intercalate_concat (sep : List Char) (ls : List (List Char)) (l : List Char) :
    ∃ m, sep.intercalate (ls ++ [l]) = m ++ l := by
  induction ls with
  | nil => exact ⟨[], by simp⟩
  | cons x ls ih =>
    obtain ⟨m, hm⟩ := ih
    refine ⟨x ++ sep ++ m, ?_⟩
    rw [List.cons_append, List.intercalate_cons_of_ne_nil (by simp), hm]
    simp only [List.append_assoc]

/-! ### The ends of the canonical form -/

/-- **A canonical formula does not start with a blank.** -/
theorem head?_normalize (doc indent : String) {c : Char}
    (h : (normalize doc indent).toList.head? = some c) : isBlankChar c = false := by
  have hends : ∀ c, (trim doc.toList).head? = some c → isBlankChar c = false :=
    fun _ => head?_trim doc.toList
  simp only [normalize] at h
  generalize trim doc.toList = text at h hends
  rcases text with _ | ⟨c0, t⟩
  · simp at h
  · have hc0 : isBlankChar c0 = false := hends c0 rfl
    -- the first line starts with the first character, and tidying keeps it
    obtain ⟨seg, segs, hs⟩ := splitOn_cons_of_ne (ne_lf_of_not_blank hc0) t
    obtain ⟨r, hr⟩ := tidyLine_cons (isSpaceOrTab_of_not_blank hc0) seg
    rw [if_neg (List.cons_ne_nil c0 t), hs, List.map_cons, hr,
      List.filter_cons_of_pos (by simp), toList_intercalate, List.intercalate_cons_cons_left] at h
    simp only [List.head?_cons, Option.some.injEq] at h
    exact h ▸ hc0

/-- **A canonical formula does not end with a blank.** -/
theorem getLast?_normalize (doc indent : String) {c : Char}
    (h : (normalize doc indent).toList.getLast? = some c) : isBlankChar c = false := by
  have hends : ∀ c, (trim doc.toList).getLast? = some c → isBlankChar c = false :=
    fun _ => getLast?_trim doc.toList
  simp only [normalize] at h
  generalize trim doc.toList = text at h hends
  rcases List.eq_nil_or_concat text with rfl | ⟨t, d, rfl⟩
  · simp at h
  · rw [List.concat_eq_append] at h hends
    have hd : isBlankChar d = false := hends d (by simp)
    -- the last line ends with the last character, and tidying keeps it
    obtain ⟨segs, seg, hs⟩ := splitOn_concat_of_ne (ne_lf_of_not_blank hd) t
    obtain ⟨r, hr⟩ := tidyLine_concat (isSpaceOrTab_of_not_blank hd) seg
    obtain ⟨m, hm⟩ := intercalate_concat ("\n" ++ indent).toList
      ((segs.map tidyLine).filter (· ≠ [])) (r ++ [d])
    rw [if_neg (by simp), hs, List.map_append, List.map_singleton, hr, List.filter_append,
      List.filter_cons_of_pos (by simp), List.filter_nil, toList_intercalate, hm] at h
    simp only [List.getLast?_append, List.getLast?_singleton, Option.some_or,
      Option.some.injEq] at h
    exact h ▸ hd

/-- **A formula without blanks is canonical.** -/
theorem normalize_of_no_blank {doc : List Char} (hne : doc ≠ [])
    (h : ∀ c ∈ doc, isBlankChar c = false) (indent : String) :
    normalize (String.ofList doc) indent = String.ofList doc := by
  have hsp : ∀ c ∈ doc, isSpaceOrTab c = false := fun c hc => isSpaceOrTab_of_not_blank (h c hc)
  have htrim : trim doc = doc :=
    trim_eq_self (fun c hc => h c (List.mem_of_head? hc)) (fun c hc => h c (List.mem_of_getLast? hc))
  have hsplit : doc.splitOn '\n' = [doc] :=
    List.splitOn_eq_singleton fun hc => absurd (h _ hc) (by decide)
  have hdrop : ∀ l : List Char, (∀ c ∈ l, isSpaceOrTab c = false) → l.dropWhile isSpaceOrTab = l := by
    intro l hl
    rcases l with _ | ⟨c, l⟩
    · rfl
    · exact List.dropWhile_cons_of_neg (by simp [hl c List.mem_cons_self])
  have hcollapse : ∀ l : List Char, (∀ c ∈ l, isSpaceOrTab c = false) → collapseSpaces l = l := by
    intro l hl
    induction l with
    | nil => rw [collapseSpaces]
    | cons c l ih =>
      rw [collapseSpaces_cons_of_neg (hl c List.mem_cons_self),
        ih (fun d hd => hl d (List.mem_cons_of_mem c hd))]
  have htidy : tidyLine doc = doc := by
    rw [tidyLine, stripSpaces, hdrop doc hsp, hdrop doc.reverse (by simpa using hsp),
      List.reverse_reverse, hcollapse doc hsp]
  rw [normalize, String.toList_ofList, htrim, if_neg hne, hsplit, List.map_singleton, htidy,
    List.filter_cons_of_pos (by simpa using hne), List.filter_nil]
  exact String.intercalate_singleton

end Formula

end LuaListing
