import Mathlib
import LuaListing.Proofs.InstructionLines

/-!
# Reading back a printed symbol row

`luac -l -l` prints a row of a symbol section as blanks, the index, blanks, the symbol's name
and then the integers of the row, each after its own blanks:

    	1	"hello world"
    	0	x	1	4

A name may hold blanks, quotes, dots and signs, and may itself look like a number: the reader
takes the shortest name after which the rest of the line reads as blank-led integers.  This
module shows that the name it takes is exactly the printed one, for every name that opens and
ends with a glyph that is not blank, holds no line feed, and does not itself end with blanks
and an integer.  Such a name never stops early: an end of it that read as integers would be
an end of the name made of blanks and an integer.  As for instructions, every numeral must
have at most `maxDigits` digits; when one has more, the row is refused with the error for the
first of them, the trailing integers being converted before the index.

## Main definitions

* `SectionEntry.IsIntegerText`, `SectionEntry.EndsWithNumber` — an integer as text, and a
  text that ends with blanks and one.
* `SectionEntry.IsRowName` — the names a row can be printed with.
* `SectionEntry.trailText`, `SectionEntry.print` — the printed row.

## Main results

* `SectionEntry.endsWithNumber_of_numberTail` — a text that ends with a glyph that is not
  blank and reads as trailing integers ends with blanks and an integer.
* `SectionEntry.nameAndNumbers_row` — the name is read whole and the integers after it.
* `SectionEntry.read?_print_row` — a printed row is read back, or refused for a long
  numeral.
-/

namespace LuaListing

namespace SectionEntry

/-! ### Integers as text -/

/-- A text that reads as an integer: an optional minus sign, then one or more decimal digits. -/
def IsIntegerText (d : List Glyph) : Prop :=
  ∃ ds, (d = ds ∨ d = .char '-' :: ds) ∧ ds ≠ [] ∧ ∀ g ∈ ds, g.isDigit = true

/-- A text that ends with one or more blanks and an integer. -/
def EndsWithNumber (w : List Glyph) : Prop :=
  ∃ a b d, w = a ++ b ++ d ∧ b ≠ [] ∧ (∀ g ∈ b, g.isBlank = true) ∧ IsIntegerText d

theorem exists_of_natural {gs r : List Glyph} {n : Numeral} (h : Lexeme.natural gs = some (n, r)) :
    ∃ ds, gs = ds ++ r ∧ ds ≠ [] ∧ ∀ g ∈ ds, g.isDigit = true := by
  unfold Lexeme.natural at h
  dsimp only at h
  split at h
  · simp at h
  · next hne =>
    obtain ⟨-, rfl⟩ := Prod.mk.inj (Option.some.inj h)
    refine ⟨gs.takeWhile Glyph.isDigit, List.takeWhile_append_dropWhile.symm, ?_, ?_⟩
    · simpa using hne
    · exact fun g hg => List.mem_takeWhile_imp hg

/-- What an integer is read from is the text of an integer, followed by the rest. -/
theorem exists_of_integer {gs r : List Glyph} {n : Numeral} (h : Lexeme.integer gs = some (n, r)) :
    ∃ d, gs = d ++ r ∧ IsIntegerText d := by
  unfold Lexeme.integer at h
  split at h
  · next rest =>
    obtain ⟨p, hp, hpr⟩ := Option.map_eq_some_iff.mp h
    obtain ⟨-, rfl⟩ := Prod.mk.inj hpr
    obtain ⟨ds, rfl, hne, hds⟩ := exists_of_natural (n := p.1) hp
    exact ⟨.char '-' :: ds, rfl, ds, .inr rfl, hne, hds⟩
  · obtain ⟨ds, rfl, hne, hds⟩ := exists_of_natural h
    exact ⟨ds, rfl, ds, .inl rfl, hne, hds⟩

theorem IsIntegerText.mem {d : List Glyph} (h : IsIntegerText d) {g : Glyph} (hg : g ∈ d) :
    g.isDigit = true ∨ g = .char '-' := by
  obtain ⟨ds, hd | hd, -, hds⟩ := h
  · exact .inl (hds g (hd ▸ hg))
  · rw [hd, List.mem_cons] at hg
    rcases hg with rfl | hg
    · exact .inr rfl
    · exact .inl (hds g hg)

theorem EndsWithNumber.append_left {v : List Glyph} (h : EndsWithNumber v) (pre : List Glyph) :
    EndsWithNumber (pre ++ v) := by
  obtain ⟨a, b, d, rfl, hb, hbl, hd⟩ := h
  exact ⟨pre ++ a, b, d, by simp, hb, hbl, hd⟩

/-- A printed integer opens with a glyph that is not blank: a digit or a minus sign. -/
theorem ofString_toString_int (v : Int) :
    ∃ c rest, Glyph.ofString (toString v) = .char c :: rest ∧
      (Glyph.char c).isBlank = false := by
  rw [Int.toString_eq_repr, Int.repr_eq_if]
  split
  · obtain ⟨d, ds, hd, hdig⟩ := Instruction.ofString_toString_nat v.toNat
    exact ⟨d, ds, hd, Lexeme.isBlank_of_isDigit hdig⟩
  · exact ⟨'-', Glyph.ofString (-v).toNat.repr, by rw [Glyph.ofString_append]; rfl, by decide⟩

/-! ### The integers after a name -/

theorem numberTail_nil : numberTail [] = some [] := by
  rw [numberTail]
  rfl

/-- Blanks and an integer: the integer, then the integers of what follows it. -/
theorem numberTail_of_integer {b gs rest : List Glyph} {n : Numeral} (hb : b ≠ [])
    (hbl : ∀ g ∈ b, g.isBlank = true) (hgs : ∀ g ∈ gs.head?, g.isBlank = false)
    (hn : Lexeme.integer gs = some (n, rest)) :
    numberTail (b ++ gs) = (numberTail rest).map (n :: ·) := by
  have hdrop : (b ++ gs).dropWhile Glyph.isBlank = gs := by
    rw [List.dropWhile_append_of_pos hbl]
    cases gs with
    | nil => rfl
    | cons g gs => simp [hgs g rfl]
  have htake : (b ++ gs).takeWhile Glyph.isBlank ≠ [] := by
    obtain ⟨c, cs, rfl⟩ := List.exists_cons_of_ne_nil hb
    simp [hbl c List.mem_cons_self]
  have hne : gs ≠ [] := by
    rintro rfl
    simp [Lexeme.integer, Lexeme.natural] at hn
  rw [numberTail, if_neg (by rw [hdrop, List.isEmpty_iff]; exact hne),
    if_neg (by rw [List.isEmpty_iff]; exact htake)]
  split
  · next n' r' h' =>
    rw [hdrop, hn] at h'
    obtain ⟨rfl, rfl⟩ := Prod.mk.inj (Option.some.inj h')
    rfl
  · next h' =>
    rw [hdrop, hn] at h'
    exact absurd h' (Option.some_ne_none _)

/-- What reading trailing integers can find: only blanks, or blanks, an integer and more
trailing integers. -/
theorem numberTail_eq_some {r : List Glyph} {ns : List Numeral} (h : numberTail r = some ns) :
    (r.dropWhile Glyph.isBlank = [] ∧ ns = []) ∨
    ∃ n rest ns', r.takeWhile Glyph.isBlank ≠ [] ∧
      Lexeme.integer (r.dropWhile Glyph.isBlank) = some (n, rest) ∧
      numberTail rest = some ns' ∧ ns = n :: ns' := by
  rw [numberTail] at h
  split at h
  · next hd => exact .inl ⟨List.isEmpty_iff.mp hd, (Option.some.inj h).symm⟩
  · split at h
    · simp at h
    · next ht =>
      split at h
      · next n rest hn =>
        obtain ⟨ns', hns', rfl⟩ := Option.map_eq_some_iff.mp h
        exact .inr ⟨n, rest, ns', fun e => ht (List.isEmpty_iff.mpr e), hn, hns', rfl⟩
      · simp at h

/-- **Only a text that ends with a number reads as trailing integers.**  If `u` ends with a
glyph that is not blank, and what follows it opens with neither a digit nor a minus sign,
then `u ++ t` reads as blank-led integers only when `u` ends with blanks and an integer. -/
theorem endsWithNumber_of_numberTail {u t : List Glyph} {ns : List Numeral} (hu : u ≠ [])
    (hlast : ∀ g ∈ u.getLast?, g.isBlank = false)
    (ht : ∀ g ∈ t.head?, g.isDigit = false ∧ g ≠ .char '-')
    (h : numberTail (u ++ t) = some ns) : EndsWithNumber u := by
  -- by strong induction on `u`: each integer read from it leaves a shorter end of it
  induction hn : u.length using Nat.strongRecOn generalizing u ns with
  | ind k ih =>
  have hsome : ¬ ∀ g ∈ u, g.isBlank = true := by
    intro hall
    obtain ⟨x, hx⟩ := Option.ne_none_iff_exists'.mp (List.getLast?_eq_none_iff.not.mpr hu)
    exact absurd (hall x (List.mem_of_getLast? hx)) (by simp [hlast x hx])
  have hne : u.dropWhile Glyph.isBlank ≠ [] := by simpa [List.dropWhile_eq_nil_iff] using hsome
  -- so its leading blanks are all the text's leading blanks
  have hdrop : (u ++ t).dropWhile Glyph.isBlank = u.dropWhile Glyph.isBlank ++ t := by
    rw [List.dropWhile_append, if_neg (by simpa using hne)]
  have htake : (u ++ t).takeWhile Glyph.isBlank = u.takeWhile Glyph.isBlank := by
    rw [List.takeWhile_append, if_neg]
    intro hlen
    exact hsome (List.takeWhile_eq_self_iff.mp (List.takeWhile_prefix _ |>.eq_of_length hlen))
  have hsplit := (List.takeWhile_append_dropWhile (p := Glyph.isBlank) (l := u)).symm
  rcases numberTail_eq_some h with ⟨hnil, -⟩ | ⟨n, rest, ns', hb, hint, hrest, -⟩
  · rw [hdrop, List.append_eq_nil_iff] at hnil
    exact absurd hnil.1 hne
  rw [htake] at hb
  rw [hdrop] at hint
  have hbl : ∀ g ∈ u.takeWhile Glyph.isBlank, g.isBlank = true :=
    fun g hg => List.mem_takeWhile_imp hg
  generalize u.takeWhile Glyph.isBlank = b at hb hbl hsplit
  generalize u.dropWhile Glyph.isBlank = u' at hint hsplit
  obtain ⟨d, hdr, hd⟩ := exists_of_integer hint
  rcases List.append_eq_append_iff.mp hdr with ⟨a', rfl, rfl⟩ | ⟨c', rfl, rfl⟩
  · cases a' with
    | nil => exact ⟨[], b, u', by simpa using hsplit, hb, hbl, by simpa using hd⟩
    | cons g a' =>
      -- the integer cannot run on into what follows `u`
      have hg := hd.mem (List.mem_append_right u' List.mem_cons_self)
      obtain ⟨hdig, hminus⟩ := ht g (by simp)
      rcases hg with hg | hg
      · exact Bool.noConfusion (hdig ▸ hg)
      · exact absurd hg hminus
  · cases c' with
    | nil => exact ⟨[], b, d, by simpa using hsplit, hb, hbl, hd⟩
    | cons g c' =>
      -- the integer stops inside `u`, and the end of `u` after it reads as integers itself
      have hlen : (g :: c').length < k := by
        rw [← hn, hsplit]
        simp only [List.length_append, List.length_cons]
        have := List.length_pos_of_ne_nil hb
        omega
      have hlast' : ∀ x ∈ (g :: c').getLast?, x.isBlank = false := by
        intro x hx
        apply hlast x
        rw [hsplit, List.getLast?_append, List.getLast?_append, hx]
        rfl
      have hends := ih _ hlen (List.cons_ne_nil g c') hlast' hrest rfl
      rw [hsplit, ← List.append_assoc]
      exact hends.append_left _

/-! ### The name -/

/-- The name runs on while what follows cannot be read as integers: where no nonempty end of
`u` followed by `t` reads as integers, the name takes all of `u` and the integers are those
of `t`. -/
theorem nameAndNumbers_append {name u t : List Glyph} {ns : List Numeral}
    (hfail : ∀ v, v <:+ u → v ≠ [] → numberTail (v ++ t) = none)
    (hlf : Glyph.char '\n' ∉ u) (ht : numberTail t = some ns) :
    nameAndNumbers name (u ++ t) = some (name ++ u, ns) := by
  induction u generalizing name with
  | nil =>
    cases t with
    | nil => simp [nameAndNumbers, ht]
    | cons g t => simp [nameAndNumbers, ht]
  | cons g u ih =>
    have hg : numberTail (g :: (u ++ t)) = none :=
      hfail (g :: u) (List.suffix_refl _) (List.cons_ne_nil g u)
    have hne : (g == .char '\n') = false := by
      rw [beq_eq_false_iff_ne]
      rintro rfl
      exact hlf List.mem_cons_self
    rw [List.cons_append, nameAndNumbers, hg]
    simp only [hne, Bool.false_eq_true, if_false]
    rw [ih (fun v hv hv0 => hfail v (hv.trans (List.suffix_cons g u)) hv0)
      (fun h => hlf (List.mem_cons_of_mem g h))]
    simp

/-- A name a row can be printed with: it opens and ends with a glyph that is not blank, holds
no line feed, and does not end with blanks and an integer. -/
structure IsRowName (w : List Glyph) : Prop where
  /-- The name is not empty. -/
  ne_nil : w ≠ []
  /-- It opens with a glyph that is not blank. -/
  head : ∀ g ∈ w.head?, g.isBlank = false
  /-- It ends with a glyph that is not blank. -/
  last : ∀ g ∈ w.getLast?, g.isBlank = false
  /-- It stays on one line. -/
  lf_not_mem : Glyph.char '\n' ∉ w
  /-- It does not end with blanks and an integer, which would be read as a trailing integer. -/
  not_endsWithNumber : ¬ EndsWithNumber w

/-- A name without blanks, on one line, is a row name. -/
theorem isRowName_of_no_blank {w : List Glyph} (hne : w ≠ []) (h : ∀ g ∈ w, g.isBlank = false)
    (hlf : Glyph.char '\n' ∉ w) : IsRowName w where
  ne_nil := hne
  head g hg := h g (List.mem_of_head? hg)
  last g hg := h g (List.mem_of_getLast? hg)
  lf_not_mem := hlf
  not_endsWithNumber := by
    rintro ⟨a, b, d, rfl, hb, hbl, -⟩
    obtain ⟨x, hx⟩ := List.exists_mem_of_ne_nil b hb
    have := h x (by simp [hx])
    rw [hbl x hx] at this
    exact Bool.noConfusion this

/-- The integers after a name as printed: each after its own run of spaces and tabs. -/
def trailText (trail : List (List Char × Int)) : List Glyph :=
  trail.flatMap fun p => p.1.map Glyph.char ++ Glyph.ofString (toString p.2)

theorem head?_trailText {trail : List (List Char × Int)}
    (htrail : ∀ p ∈ trail, Instruction.IsSeparator p.1) :
    ∀ g ∈ (trailText trail).head?, g.isDigit = false ∧ g ≠ .char '-' := by
  cases trail with
  | nil => simp [trailText]
  | cons p trail =>
    obtain ⟨c, cs, hcs⟩ := List.exists_cons_of_ne_nil (htrail p List.mem_cons_self).1
    have hc := (htrail p List.mem_cons_self).2 c (hcs ▸ List.mem_cons_self)
    intro g hg
    simp only [trailText, List.flatMap_cons, hcs, List.map_cons, List.cons_append,
      List.head?_cons, Option.mem_def, Option.some.injEq] at hg
    subst hg
    refine ⟨(Instruction.spaceOrTab_facts hc).1, ?_⟩
    simp only [isSpaceOrTab, Bool.or_eq_true, beq_iff_eq] at hc
    rcases hc with rfl | rfl <;> decide

/-- **The printed integers are read back**, in order. -/
theorem numberTail_trailText {trail : List (List Char × Int)}
    (htrail : ∀ p ∈ trail, Instruction.IsSeparator p.1) :
    numberTail (trailText trail) = some ((trail.map Prod.snd).map Numeral.ofInt) := by
  induction trail with
  | nil => exact numberTail_nil
  | cons p trail ih =>
    have hsep := htrail p List.mem_cons_self
    have hrest : ∀ q ∈ trail, Instruction.IsSeparator q.1 :=
      fun q hq => htrail q (List.mem_cons_of_mem p hq)
    obtain ⟨c, cs, hcs, hc⟩ := ofString_toString_int p.2
    have hno : Lexeme.NoDigitAt (trailText trail) := fun g hg => (head?_trailText hrest g hg).1
    have hstep := numberTail_of_integer (b := p.1.map Glyph.char) (by simpa using hsep.1)
      (fun g hg => by
        obtain ⟨x, hx, rfl⟩ := List.mem_map.mp hg
        exact isBlankChar_of_isSpaceOrTab (hsep.2 x hx))
      (by rw [hcs]; simpa using hc) (Lexeme.integer_repr p.2 hno)
    rw [trailText, List.flatMap_cons, List.append_assoc, ← trailText, hstep, ih hrest]
    rfl

/-- **The name is read whole**, and the integers after it. -/
theorem nameAndNumbers_row {g : Glyph} {rest : List Glyph} (hname : IsRowName (g :: rest))
    {trail : List (List Char × Int)} (htrail : ∀ p ∈ trail, Instruction.IsSeparator p.1) :
    nameAndNumbers [g] (rest ++ trailText trail) =
      some (g :: rest, (trail.map Prod.snd).map Numeral.ofInt) := by
  refine nameAndNumbers_append (fun v hv hv0 => ?_)
    (fun h => hname.lf_not_mem (List.mem_cons_of_mem g h)) (numberTail_trailText htrail)
  -- an end of the name that read as integers would make the name end with a number
  obtain ⟨pre, hpre⟩ := hv.trans (List.suffix_cons g rest)
  cases hnum : numberTail (v ++ trailText trail) with
  | none => rfl
  | some ns =>
    have hlast : ∀ x ∈ v.getLast?, x.isBlank = false := by
      intro x hx
      apply hname.last x
      rw [← hpre, List.getLast?_append, hx]
      rfl
    have hends := endsWithNumber_of_numberTail hv0 hlast (head?_trailText htrail) hnum
    exact absurd (hpre ▸ hends.append_left pre) hname.not_endsWithNumber

/-! ### The whole row -/

/-- A row as the listing prints it: the index after `lead`, the name after `afterIndex`, then
each integer of `trail` after its own run of blanks. -/
def print (lead afterIndex : List Char) (index : Int) (name : List Glyph)
    (trail : List (List Char × Int)) : List Glyph :=
  lead.map .char ++ (Glyph.ofString (toString index) ++ (afterIndex.map .char ++
    (name ++ trailText trail)))

/-- Reading a printed row finds every field where it was printed and converts the trailing
integers, then the index. -/
theorem read?_print_eq {lead afterIndex : List Char} (hlead : Instruction.IsSeparator lead)
    (hafter : Instruction.IsSeparator afterIndex) (index : Int) {name : List Glyph}
    (hname : IsRowName name) {trail : List (List Char × Int)}
    (htrail : ∀ p ∈ trail, Instruction.IsSeparator p.1) :
    read? (print lead afterIndex index name trail) =
      some (guardDigits ((trail.map Prod.snd).map Int.natAbs ++ [index.natAbs])
        ⟨index, name, trail.map Prod.snd⟩) := by
  obtain ⟨g, rest, rfl⟩ := List.exists_cons_of_ne_nil hname.ne_nil
  obtain ⟨c, cs, hcs, hc⟩ := ofString_toString_int index
  unfold read? print
  rw [Lexeme.blanks1_run hlead.1 hlead.2 (by rw [hcs]; simpa using hc)]
  simp only [Option.bind_eq_bind, Option.bind_some]
  rw [Lexeme.integer_repr index (hafter.head _).1]
  simp only [Option.bind_some]
  rw [Lexeme.blanks1_run hafter.1 hafter.2 (by simpa using hname.head)]
  simp only [Option.bind_some, List.cons_append]
  rw [nameAndNumbers_row hname htrail]
  simp only [Option.bind_some, Instruction.mapM_toInt_ofInt, Numeral.toInt_ofInt,
    guardDigits_bind_pure]
  exact congrArg some (guardDigits_bind _ _ _ fun ns => (⟨index, g :: rest, ns⟩ : SectionEntry))

/-- **A printed row reads back.**  For every spacing by runs of spaces and tabs, every index,
every row name and every list of integers, reading the row converts its numerals back to the
index, the name and the integers, failing at the first numeral with more than `maxDigits`
digits (the trailing integers before the index); when every numeral fits, the row is read as
exactly the entry it was printed from. -/
theorem read?_print_row (lead afterIndex : List Char) (hlead : Instruction.IsSeparator lead)
    (hafter : Instruction.IsSeparator afterIndex) (index : Int) (name : List Glyph)
    (hname : IsRowName name) (trail : List (List Char × Int))
    (htrail : ∀ p ∈ trail, Instruction.IsSeparator p.1) :
    read? (print lead afterIndex index name trail) =
        some (guardDigits ((trail.map Prod.snd).map Int.natAbs ++ [index.natAbs])
          ⟨index, name, trail.map Prod.snd⟩) ∧
      (((trail.map Prod.snd).map Int.natAbs ++ [index.natAbs]).all fitsDigits = true →
        read? (print lead afterIndex index name trail) =
          some (.ok ⟨index, name, trail.map Prod.snd⟩)) := by
  refine ⟨read?_print_eq hlead hafter index hname htrail, fun hfit => ?_⟩
  rw [read?_print_eq hlead hafter index hname htrail, guardDigits_of_all hfit]

/-- A name with a leading sign, a dot and a final digit, between integers of both signs. -/
theorem read?_print_row_signed_name :
    Instruction.IsSeparator ['\t'] ∧ Instruction.IsSeparator [' ', '\t'] ∧
      IsRowName (Glyph.ofString "-1.5") ∧
      (∀ p ∈ [(['\t'], (10 : Int)), ([' ', '\t'], -7)], Instruction.IsSeparator p.1) ∧
      read? (print ['\t'] [' ', '\t'] (-2) (Glyph.ofString "-1.5")
          [(['\t'], 10), ([' ', '\t'], -7)]) =
        some (.ok ⟨-2, Glyph.ofString "-1.5", [10, -7]⟩) := by
  have ht : Instruction.IsSeparator ['\t'] := by simp [Instruction.IsSeparator, isSpaceOrTab]
  have hst : Instruction.IsSeparator [' ', '\t'] := by
    simp [Instruction.IsSeparator, isSpaceOrTab]
  have hname : IsRowName (Glyph.ofString "-1.5") :=
    isRowName_of_no_blank (by decide) (by decide) (by decide)
  have htrail : ∀ p ∈ [(['\t'], (10 : Int)), ([' ', '\t'], -7)],
      Instruction.IsSeparator p.1 := by
    simp [ht, hst]
  exact ⟨ht, hst, hname, htrail,
    (read?_print_row ['\t'] [' ', '\t'] ht hst (-2) _ hname _ htrail).2 (by decide)⟩

/-- An index of `maxDigits + 1` digits: the row is refused. -/
theorem read?_print_row_long_index :
    read? (print ['\t'] ['\t'] (10 ^ maxDigits) (Glyph.ofString "x") []) =
      some (.error ⟨maxDigits + 1⟩) := by
  have ht : Instruction.IsSeparator ['\t'] := by simp [Instruction.IsSeparator, isSpaceOrTab]
  rw [read?_print_eq ht ht _ (isRowName_of_no_blank (by decide) (by decide) (by decide))
    (by simp)]
  simp [guardDigits, Int.natAbs_pow, fitsDigits_ten_pow, length_toDigits_ten_pow]

end SectionEntry

end LuaListing
