import Mathlib
import LuaListing.Listing.Token

/-!
# Reading back a printed instruction line

`luac -l -l` prints an instruction as blanks, the pc, blanks, the source line in brackets
(`[-]` when there is none), blanks, the opcode, blanks, the operands separated by single
spaces, and, when there is one, blanks, `;` and the comment:

    	1	[1]	LOADK    	0 -1	; "hello"

This module shows that reading such a line gives back exactly the instruction it was
printed from, for every pc and source line, every opcode name (an ASCII letter or `_`, then
word characters), every list of integers of any sign and magnitude and every comment on one
line, however the blank runs are made of spaces and tabs.  A comment keeps every `;` after
the first.  The one condition is on the size of the numerals: each must have at most
`maxDigits` digits, and when one has more the line is refused with an error.

## Main definitions

* `Numeral.ofNat`, `Numeral.ofInt`, `fitsDigits` — the numeral a number is printed as.
* `guardDigits` — a value, or the error for the first of some numbers that is too long.
* `Instruction.Spacing`, `Instruction.print` — the line of an instruction.
* `Instruction.numerals` — the numbers of the line, in the order they are converted.

## Main results

* `Lexeme.natural_repr`, `Lexeme.integer_repr` — a printed number is read back.
* `Lexeme.integers_operandText` — the printed operands are read back in order.
* `fitsDigits_iff` — a number fits when it is below `10 ^ maxDigits`.
* `Instruction.read?_print_eq` — every field is found where it was printed.
* `Instruction.read?_print` — a printed line is read back, or refused for a long numeral.
-/

namespace LuaListing

/-! ### Decimal numerals -/

/-- The numeral a natural number is printed as, read digit by digit. -/
def Numeral.ofNat (n : Nat) : Numeral := { digits := (Nat.toDigits 10 n).map (·.toNat - 48) }

/-- The numeral an integer is printed as: a minus sign when it is negative, then the digits
of its absolute value. -/
def Numeral.ofInt (v : Int) : Numeral := { Numeral.ofNat v.natAbs with negative := decide (v < 0) }

/-- Whether a number is printed with at most `maxDigits` digits. -/
def fitsDigits (n : Nat) : Bool := (Nat.toDigits 10 n).length ≤ maxDigits

theorem isDigit_of_mem_repr {n : Nat} {c : Char} (h : c ∈ n.repr.toList) : c.isDigit = true := by
  rw [Nat.toList_repr] at h
  exact Nat.isDigit_of_mem_toDigits (by decide) (by decide) h

/-- An ASCII digit is a decimal digit whose value is its distance from `0`. -/
theorem digit?_of_isDigit {c : Char} (h : c.isDigit = true) :
    (Glyph.char c).digit? = some (c.toNat - 48) := by
  have hlt : c.toNat < 0x80 := by
    simp only [Char.isDigit, Bool.and_eq_true, decide_eq_true_eq, UInt32.le_iff_toNat_le] at h
    have h9 : ('9' : Char).val.toNat = 57 := rfl
    simp only [Char.toNat]
    omega
  simp [Glyph.digit?, digitValue?, hlt, h]

theorem isDigit_glyph_of_isDigit {c : Char} (h : c.isDigit = true) :
    (Glyph.char c).isDigit = true := by
  simp [Glyph.isDigit, digit?_of_isDigit h]

@[simp] theorem Numeral.magnitude_ofNat (n : Nat) : (Numeral.ofNat n).magnitude = n := by
  have h := Nat.ofDigitChars_ten_toDigits (n := n)
  have h0 : ('0' : Char).toNat = 48 := rfl
  simp only [Nat.ofDigitChars, h0] at h
  simpa only [Numeral.magnitude, Numeral.ofNat, digitsValue, List.foldl_map] using h

/-- A number fits exactly when it is below `10 ^ maxDigits`. -/
theorem fitsDigits_iff (n : Nat) : fitsDigits n = true ↔ n < 10 ^ maxDigits := by
  rw [fitsDigits, decide_eq_true_iff]
  exact Nat.length_toDigits_le_iff (by decide) (by decide)

/-- The least number with more than `maxDigits` digits does not fit. -/
theorem fitsDigits_ten_pow : fitsDigits (10 ^ maxDigits) = false := by
  rw [Bool.eq_false_iff, ne_eq, fitsDigits_iff]
  exact Nat.lt_irrefl _

/-- `10 ^ k` is printed with `k + 1` digits. -/
theorem length_toDigits_ten_pow (k : Nat) : (Nat.toDigits 10 (10 ^ k)).length = k + 1 := by
  have hle : (Nat.toDigits 10 (10 ^ k)).length ≤ k + 1 :=
    (Nat.length_toDigits_le_iff (by decide) (by omega)).mpr (Nat.pow_lt_pow_right (by decide) (by omega))
  have hgt : k < (Nat.toDigits 10 (10 ^ k)).length := by
    rcases Nat.eq_zero_or_pos k with rfl | hk
    · exact Nat.length_toDigits_pos
    · rw [← Nat.not_le, Nat.length_toDigits_le_iff (by decide) hk]
      exact Nat.lt_irrefl _
  omega

/-- `x`, unless one of the numbers `ns` is printed with more than `maxDigits` digits: then the
error for the first such number. -/
def guardDigits {α : Type} (ns : List Nat) (x : α) : Except DigitLimitError α :=
  match ns.find? fun n => !fitsDigits n with
  | none => .ok x
  | some n => .error ⟨(Nat.toDigits 10 n).length⟩

section GuardDigits

variable {α β : Type}

theorem guardDigits_singleton (n : Nat) (x : α) :
    guardDigits [n] x = if fitsDigits n then .ok x else .error ⟨(Nat.toDigits 10 n).length⟩ := by
  by_cases h : fitsDigits n <;> simp [guardDigits, h]

theorem guardDigits_of_all {ns : List Nat} (h : ns.all fitsDigits = true) (x : α) :
    guardDigits ns x = .ok x := by
  have hn : (ns.find? fun n => !fitsDigits n) = none := by
    rw [List.find?_eq_none]
    intro n hn
    simpa using List.all_eq_true.mp h n hn
  rw [guardDigits, hn]

/-- Two checks in a row are one check of both lists, the first failure winning. -/
theorem guardDigits_bind (ns ms : List Nat) (x : α) (g : α → β) :
    (guardDigits ns x >>= fun y => guardDigits ms (g y)) = guardDigits (ns ++ ms) (g x) := by
  unfold guardDigits
  rw [List.find?_append]
  cases ns.find? fun n => !fitsDigits n with
  | none => rfl
  | some n => rfl

theorem guardDigits_bind_pure (ns : List Nat) (x : α) (g : α → β) :
    (guardDigits ns x >>= fun y => pure (g y)) = guardDigits ns (g x) := by
  have h := guardDigits_bind ns [] x g
  rwa [List.append_nil] at h

theorem guardDigits_map (ns : List Nat) (x : α) (g : α → β) :
    (guardDigits ns x).map g = guardDigits ns (g x) := by
  unfold guardDigits
  cases ns.find? fun n => !fitsDigits n with
  | none => rfl
  | some n => rfl

end GuardDigits

/-- A printed natural number is converted back, unless it is too long. -/
theorem Numeral.toNat_ofNat (n : Nat) : (Numeral.ofNat n).toNat = guardDigits [n] n := by
  unfold Numeral.toNat
  rw [Numeral.magnitude_ofNat, guardDigits_singleton]
  simp [Numeral.withinLimit, fitsDigits, Numeral.ofNat]

/-- A printed integer is converted back, unless it is too long. -/
theorem Numeral.toInt_ofInt (v : Int) : (Numeral.ofInt v).toInt = guardDigits [v.natAbs] v := by
  have hm : (Numeral.ofInt v).magnitude = v.natAbs := Numeral.magnitude_ofNat v.natAbs
  have hw : (Numeral.ofInt v).withinLimit = fitsDigits v.natAbs := by
    simp [Numeral.withinLimit, fitsDigits, Numeral.ofInt, Numeral.ofNat]
  unfold Numeral.toInt
  rw [hw, hm, guardDigits_singleton]
  by_cases hf : fitsDigits v.natAbs
  · -- the sign and the absolute value give the integer back
    have hv : (if (Numeral.ofInt v).negative then -(v.natAbs : Int) else v.natAbs) = v := by
      simp only [Numeral.ofInt, decide_eq_true_eq]
      split <;> omega
    rw [if_pos hf, if_pos hf, hv]
  · rw [if_neg hf, if_neg hf]
    simp [Numeral.ofInt, Numeral.ofNat]

/-! ### Reading the pieces of a line -/

namespace Lexeme

/-- Text that does not go on with a decimal digit. -/
def NoDigitAt (rest : List Glyph) : Prop := ∀ g ∈ rest.head?, g.isDigit = false

/-- **A printed natural number is read back**, when no digit follows it. -/
theorem natural_repr (n : Nat) {rest : List Glyph} (hr : NoDigitAt rest) :
    natural (Glyph.ofString n.repr ++ rest) = some (Numeral.ofNat n, rest) := by
  have hds : ∀ g ∈ Glyph.ofString n.repr, g.isDigit = true := by
    simp only [Glyph.ofString, List.mem_map]
    rintro _ ⟨c, hc, rfl⟩
    exact isDigit_glyph_of_isDigit (isDigit_of_mem_repr hc)
  have hne : Glyph.ofString n.repr ≠ [] := by
    simp [Glyph.ofString, Nat.toList_repr, Nat.toDigits_ne_nil]
  -- the run of digits stops where the printed number does
  have hrun : rest.takeWhile Glyph.isDigit = [] ∧ rest.dropWhile Glyph.isDigit = rest := by
    cases rest with
    | nil => exact ⟨rfl, rfl⟩
    | cons g r => simp [hr g rfl]
  have hvals : (Glyph.ofString n.repr).filterMap Glyph.digit? =
      (Nat.toDigits 10 n).map (·.toNat - 48) := by
    simp only [Glyph.ofString, Nat.toList_repr, List.filterMap_map]
    rw [List.filterMap_congr (f := Glyph.digit? ∘ Glyph.char) (g := fun c => some (c.toNat - 48))
      (l := Nat.toDigits 10 n) fun c hc =>
        digit?_of_isDigit (Nat.isDigit_of_mem_toDigits (by decide) (by decide) hc)]
    exact congrFun List.filterMap_eq_map' _
  simp only [natural, List.takeWhile_append_of_pos hds, List.dropWhile_append_of_pos hds,
    hrun.1, hrun.2, List.append_nil, List.isEmpty_iff, hne, if_false, hvals]
  rfl

/-- **A printed integer is read back**, when no digit follows it. -/
theorem integer_repr (v : Int) {rest : List Glyph} (hr : NoDigitAt rest) :
    integer (Glyph.ofString (toString v) ++ rest) = some (Numeral.ofInt v, rest) := by
  rw [Int.toString_eq_repr, Int.repr_eq_if]
  split
  · next hv =>
    -- a number that is not negative starts with its first digit, not with `-`
    obtain ⟨c, cs, hcs⟩ := List.exists_cons_of_ne_nil
      (by simp [Nat.toList_repr, Nat.toDigits_ne_nil] : v.toNat.repr.toList ≠ [])
    have hc : c ≠ '-' := by
      rintro rfl
      exact absurd (isDigit_of_mem_repr (c := '-') (n := v.toNat) (by simp [hcs])) (by decide)
    have habs : v.natAbs = v.toNat := by omega
    have hofInt : Numeral.ofInt v = Numeral.ofNat v.toNat := by
      simp [Numeral.ofInt, Numeral.ofNat, Int.not_lt.mpr hv, habs]
    rw [hofInt, ← natural_repr v.toNat hr]
    simp only [Glyph.ofString, hcs, List.map_cons, List.cons_append, integer]
    split
    · next h =>
      simp only [List.cons.injEq, Glyph.char.injEq] at h
      exact absurd h.1 hc
    · rfl
  · next hv =>
    have habs : (-v).toNat = v.natAbs := by omega
    have hneg : Glyph.ofString ("-" ++ (-v).toNat.repr) ++ rest =
        .char '-' :: (Glyph.ofString (-v).toNat.repr ++ rest) := by
      simp [Glyph.ofString]
    rw [hneg, integer, natural_repr _ hr]
    simp [Numeral.ofInt, Numeral.ofNat, habs, Int.not_le.mp hv]

/-- A space or a tab starts no integer, so the scan passes over it. -/
theorem integers_spaceOrTab_cons {c : Char} (hc : isSpaceOrTab c = true) (rest : List Glyph) :
    integers (.char c :: rest) = integers rest := by
  apply integers_cons_of_integer
  simp only [isSpaceOrTab, Bool.or_eq_true, beq_iff_eq] at hc
  rcases hc with rfl | rfl <;> rfl

/-- The scan passes over a run of spaces and tabs. -/
theorem integers_run_append {run : List Char} (hr : ∀ c ∈ run, isSpaceOrTab c = true)
    (rest : List Glyph) : integers (run.map .char ++ rest) = integers rest := by
  induction run with
  | nil => rfl
  | cons c run ih =>
    rw [List.map_cons, List.cons_append, integers_spaceOrTab_cons (hr c List.mem_cons_self),
      ih fun d hd => hr d (List.mem_cons_of_mem c hd)]

/-- One or more blanks are taken whole, up to the first glyph that is not blank. -/
theorem blanks1_run {run : List Char} (hne : run ≠ []) (hr : ∀ c ∈ run, isSpaceOrTab c = true)
    {rest : List Glyph} (hrest : ∀ g ∈ rest.head?, g.isBlank = false) :
    blanks1 (run.map .char ++ rest) = some rest := by
  obtain ⟨c, cs, rfl⟩ := List.exists_cons_of_ne_nil hne
  have hb : ∀ g ∈ (c :: cs).map Glyph.char, g.isBlank = true := by
    simp only [List.mem_map]
    rintro _ ⟨d, hd, rfl⟩
    exact isBlankChar_of_isSpaceOrTab (hr d hd)
  have hdrop : rest.dropWhile Glyph.isBlank = rest := by
    cases rest with
    | nil => rfl
    | cons g r => simp [hrest g rfl]
  rw [List.map_cons, List.cons_append, blanks1,
    if_pos (hb _ List.mem_cons_self), ← List.cons_append, ← List.map_cons,
    List.dropWhile_append_of_pos hb, hdrop]

/-- A fixed text is read where it stands. -/
theorem literal_ofString (s : String) (rest : List Glyph) :
    literal s (Glyph.ofString s ++ rest) = some rest := by
  have hpre : (Glyph.ofString s).isPrefixOf (Glyph.ofString s ++ rest) = true :=
    List.isPrefixOf_iff_prefix.mpr (List.prefix_append _ _)
  have hlen : (Glyph.ofString s).length = s.length := by simp [Glyph.ofString, String.length_toList]
  rw [literal, if_pos hpre, ← hlen, List.drop_left]

/-- Glyphs that end a run of blanks: anything but a blank. -/
theorem isBlank_of_isDigit {c : Char} (h : c.isDigit = true) : (Glyph.char c).isBlank = false := by
  simp only [Char.isDigit, Bool.and_eq_true, decide_eq_true_eq, UInt32.le_iff_toNat_le] at h
  have h0 : ('0' : Char).val.toNat = 48 := rfl
  have h9 : ('9' : Char).val.toNat = 57 := rfl
  simp only [Glyph.isBlank, isBlankChar, Char.toNat]
  simp only [Bool.or_eq_false_iff, Bool.and_eq_false_iff, decide_eq_false_iff_not, beq_eq_false_iff_ne,
    ne_eq]
  omega

end Lexeme

/-! ### The printed line -/

namespace Instruction

/-- A run of spaces and tabs, at least one: what separates the fields of a line. -/
def IsSeparator (run : List Char) : Prop := run ≠ [] ∧ ∀ c ∈ run, isSpaceOrTab c = true

/-- The runs of spaces and tabs a line is printed with. -/
structure Spacing where
  /-- Before the pc. -/
  beforePc : List Char
  /-- Between the pc and the source line. -/
  afterPc : List Char
  /-- Between the source line and the opcode. -/
  afterLine : List Char
  /-- Between the opcode and the operands. -/
  afterOpcode : List Char
  /-- Between the operands and the comment. -/
  beforeComment : List Char

/-- Every run of the spacing separates. -/
def Spacing.Valid (sp : Spacing) : Prop :=
  IsSeparator sp.beforePc ∧ IsSeparator sp.afterPc ∧ IsSeparator sp.afterLine ∧
    IsSeparator sp.afterOpcode ∧ IsSeparator sp.beforeComment

/-- An opcode name: an ASCII letter or `_`, then word characters. -/
def IsOpcodeName (op : String) : Prop :=
  ∃ c cs, op.toList = c :: cs ∧ isIdentStart c = true ∧ ∀ x ∈ cs, isWordChar x = true

/-- The source line as printed between the brackets, `-` when there is none. -/
def sourceText : Option Nat → String
  | some s => toString s
  | none => "-"

/-- The operands as printed: each integer in decimal, separated by single spaces. -/
def operandText (operands : List Int) : List Glyph :=
  List.intercalate [.char ' '] (operands.map fun v => Glyph.ofString (toString v))

/-- The comment as printed after the operands: a run of blanks, `;` and the comment; nothing
when there is none. -/
def commentText (before : List Char) : Option (List Glyph) → List Glyph
  | some c => before.map .char ++ .char ';' :: c
  | none => []

/-- An instruction line as the listing prints it. -/
def print (sp : Spacing) (i : Instruction) : List Glyph :=
  sp.beforePc.map .char ++ (Glyph.ofString (toString i.pc) ++ (sp.afterPc.map .char ++
    (Glyph.ofString "[" ++ (Glyph.ofString (sourceText i.sourceLine) ++ (Glyph.ofString "]" ++
    (sp.afterLine.map .char ++ (Glyph.ofString i.opcode ++ (sp.afterOpcode.map .char ++
    (operandText i.operands ++ commentText sp.beforeComment i.comment)))))))))

/-- The numbers of an instruction in the order the reader converts them: the pc, the source
line and the absolute values of the operands. -/
def numerals (i : Instruction) : List Nat :=
  i.pc :: (i.sourceLine.toList ++ i.operands.map Int.natAbs)

/-! ### Reading the fields back -/

section Reading

open Lexeme

theorem noDigitAt_cons {g : Glyph} (hg : g.isDigit = false) (rest : List Glyph) :
    NoDigitAt (g :: rest) := by
  intro g' hg'
  obtain rfl := Option.some.inj hg'
  exact hg

/-- A space or a tab is no digit, no word character and no `;`. -/
theorem spaceOrTab_facts {c : Char} (hc : isSpaceOrTab c = true) :
    (Glyph.char c).isDigit = false ∧ (Glyph.char c).isWord = false ∧ Glyph.char c ≠ .char ';' := by
  simp only [isSpaceOrTab, Bool.or_eq_true, beq_iff_eq] at hc
  rcases hc with rfl | rfl <;> exact ⟨rfl, rfl, by decide⟩

/-- No digit and no word character opens the text after a separator. -/
theorem IsSeparator.head {run : List Char} (h : IsSeparator run) (rest : List Glyph) :
    NoDigitAt (run.map Glyph.char ++ rest) ∧
      ∀ g ∈ (run.map Glyph.char ++ rest).head?, g.isWord = false := by
  obtain ⟨c, cs, rfl⟩ := List.exists_cons_of_ne_nil h.1
  have hc := spaceOrTab_facts (h.2 c List.mem_cons_self)
  refine ⟨noDigitAt_cons hc.1 _, ?_⟩
  intro g hg
  obtain rfl := Option.some.inj hg
  exact hc.2.1

theorem isBlank_of_isIdentStart {c : Char} (h : isIdentStart c = true) :
    (Glyph.char c).isBlank = false := by
  simp only [isIdentStart, Char.isAlpha, Char.isUpper, Char.isLower, Bool.or_eq_true,
    Bool.and_eq_true, decide_eq_true_eq, beq_iff_eq, ge_iff_le, UInt32.le_iff_toNat_le] at h
  have hA : ('A' : Char).val.toNat = 65 := rfl
  have hZ : ('Z' : Char).val.toNat = 90 := rfl
  have ha : ('a' : Char).val.toNat = 97 := rfl
  have hz : ('z' : Char).val.toNat = 122 := rfl
  -- a letter lies in `A`–`Z` or `a`–`z`, far from every blank code point
  have hblank : ('A' : Char).val.toNat ≤ c.val.toNat ∧ c.val.toNat ≤ ('Z' : Char).val.toNat ∨
      ('a' : Char).val.toNat ≤ c.val.toNat ∧ c.val.toNat ≤ ('z' : Char).val.toNat →
      (Glyph.char c).isBlank = false := by
    intro hl
    simp only [Glyph.isBlank, isBlankChar, Char.toNat, Bool.or_eq_false_iff,
      Bool.and_eq_false_iff, decide_eq_false_iff_not, beq_eq_false_iff_ne, ne_eq]
    omega
  rcases h with (hu | hl) | rfl
  · exact hblank (.inl hu)
  · exact hblank (.inr hl)
  · rfl

/-- A printed natural number opens with a decimal digit. -/
theorem ofString_toString_nat (n : Nat) :
    ∃ d rest, Glyph.ofString (toString n) = .char d :: rest ∧ d.isDigit = true := by
  have h10 : Nat.toDigits 10 n ≠ [] := Nat.toDigits_ne_nil
  obtain ⟨d, rest, h⟩ := List.exists_cons_of_ne_nil h10
  have hmem : d ∈ Nat.toDigits 10 n := by
    rw [h]
    exact List.mem_cons_self
  refine ⟨d, rest.map .char, ?_, Nat.isDigit_of_mem_toDigits (b := 10) (by decide) (by decide) hmem⟩
  simp [Glyph.ofString, Nat.toList_repr, h]

/-- The source line is read back from between the brackets. -/
theorem read_sourceText (s : Option Nat) {rest : List Glyph} (hr : NoDigitAt rest) :
    (((literal "-" (Glyph.ofString (sourceText s) ++ rest)).map
        fun r => ((none : Option Numeral), r)) <|>
      ((natural (Glyph.ofString (sourceText s) ++ rest)).map fun p => (some p.1, p.2))) =
      some (s.map Numeral.ofNat, rest) := by
  cases s with
  | none => simp [sourceText, literal_ofString]
  | some n =>
    obtain ⟨d, ds, hd, hdig⟩ := ofString_toString_nat n
    -- a line number opens with a digit, so it is no `-`
    have hlit : literal "-" (Glyph.ofString n.repr ++ rest) = none := by
      have hne : d ≠ '-' := by
        rintro rfl
        exact absurd hdig (by decide)
      have hd' : Glyph.ofString n.repr = .char d :: ds := hd
      rw [hd', literal, if_neg]
      simp [Glyph.ofString, hne.symm]
    simp [sourceText, hlit, natural_repr n hr]

/-- The opcode is read back: it opens with a name start and runs to the first glyph that is no
word character. -/
theorem read_opcode {op : String} (hop : IsOpcodeName op) {rest : List Glyph}
    (hr : ∀ g ∈ rest.head?, g.isWord = false) :
    ∃ g tail, Glyph.ofString op ++ rest = g :: tail ∧ g.isIdentStart = true ∧
      g.isBlank = false ∧ g :: tail.takeWhile Glyph.isWord = Glyph.ofString op ∧
      tail.dropWhile Glyph.isWord = rest := by
  obtain ⟨c, cs, hcs, hc, hw⟩ := hop
  have hword : ∀ g ∈ cs.map Glyph.char, g.isWord = true := by
    simp only [List.mem_map]
    rintro _ ⟨x, hx, rfl⟩
    exact hw x hx
  have hrun : rest.takeWhile Glyph.isWord = [] ∧ rest.dropWhile Glyph.isWord = rest := by
    cases rest with
    | nil => exact ⟨rfl, rfl⟩
    | cons g r => simp [hr g rfl]
  refine ⟨.char c, cs.map .char ++ rest, by simp [Glyph.ofString, hcs], hc,
    isBlank_of_isIdentStart hc, ?_, ?_⟩
  · rw [List.takeWhile_append_of_pos hword, hrun.1, List.append_nil]
    simp [Glyph.ofString, hcs]
  · rw [List.dropWhile_append_of_pos hword, hrun.2]

theorem charsText_ofString (s : String) : charsText (Glyph.ofString s) = s := by
  have h : (s.toList.map Glyph.char).filterMap Glyph.char? = s.toList := by
    rw [List.filterMap_map]
    exact List.filterMap_some
  simp only [charsText, Glyph.ofString, h, String.ofList_toList]

theorem operandText_cons_cons (v w : Int) (ws : List Int) :
    operandText (v :: w :: ws) =
      Glyph.ofString (toString v) ++ .char ' ' :: operandText (w :: ws) := by
  simp [operandText]

/-- Printed operands are digits, minus signs and spaces. -/
theorem mem_operandText {vs : List Int} {g : Glyph} (hg : g ∈ operandText vs) :
    ∃ c, g = .char c ∧ (c.isDigit = true ∨ c = '-' ∨ c = ' ') := by
  have hnum : ∀ v : Int, ∀ g ∈ Glyph.ofString (toString v),
      ∃ c, g = .char c ∧ (c.isDigit = true ∨ c = '-' ∨ c = ' ') := by
    intro v g hg
    obtain ⟨c, hc, rfl⟩ := List.mem_map.mp hg
    refine ⟨c, rfl, ?_⟩
    rw [Int.toString_eq_repr, Int.repr_eq_if] at hc
    split at hc
    · exact .inl (isDigit_of_mem_repr hc)
    · rw [String.toList_append] at hc
      rcases List.mem_append.mp hc with h | h
      · exact .inr (.inl (by simpa using h))
      · exact .inl (isDigit_of_mem_repr h)
  induction vs with
  | nil => simp [operandText] at hg
  | cons v ws ih =>
    cases ws with
    | nil => exact hnum v g (by simpa [operandText] using hg)
    | cons w ws =>
      rw [operandText_cons_cons] at hg
      rcases List.mem_append.mp hg with h | h
      · exact hnum v g h
      · rcases List.mem_cons.mp h with rfl | h
        · exact ⟨' ', rfl, .inr (.inr rfl)⟩
        · exact ih h

/-- **The printed operands are read back**, in order. -/
theorem integers_operandText (vs : List Int) : integers (operandText vs) = vs.map Numeral.ofInt := by
  induction vs with
  | nil => simp [operandText]
  | cons v ws ih =>
    cases ws with
    | nil =>
      have h := integer_repr v (show NoDigitAt [] by simp [NoDigitAt])
      have hone : operandText [v] = Glyph.ofString (toString v) := by simp [operandText]
      rw [List.append_nil] at h
      rw [hone, integers_of_integer h, integers_nil]
      rfl
    | cons w ws =>
      rw [operandText_cons_cons, integers_of_integer (integer_repr v (noDigitAt_cons rfl _)),
        integers_spaceOrTab_cons rfl, ih]
      rfl

/-- Printed operands end with a digit. -/
theorem getLast?_operandText {vs : List Int} (hvs : vs ≠ []) :
    ∃ d, (operandText vs).getLast? = some (.char d) ∧ d.isDigit = true := by
  have hnum : ∀ v : Int, ∃ d, (Glyph.ofString (toString v)).getLast? = some (.char d) ∧
      d.isDigit = true := by
    intro v
    obtain ⟨d, hd⟩ := List.getLast?_isSome.mpr (Nat.toDigits_ne_nil (n := v.natAbs) (b := 10))
      |> Option.isSome_iff_exists.mp
    have hdig : d.isDigit = true :=
      Nat.isDigit_of_mem_toDigits (by decide) (by decide) (List.mem_of_getLast? hd)
    refine ⟨d, ?_, hdig⟩
    rw [Int.toString_eq_repr, Int.repr_eq_if]
    split
    · have : v.toNat = v.natAbs := by omega
      simp [Glyph.ofString, Nat.toList_repr, List.getLast?_map, this, hd]
    · have : (-v).toNat = v.natAbs := by omega
      simp [Glyph.ofString, Nat.toList_repr, List.getLast?_map, List.getLast?_cons, this, hd]
  induction vs with
  | nil => exact absurd rfl hvs
  | cons v ws ih =>
    cases ws with
    | nil => simpa [operandText] using hnum v
    | cons w ws =>
      obtain ⟨d, hd, hdig⟩ := ih (List.cons_ne_nil w ws)
      refine ⟨d, ?_, hdig⟩
      rw [operandText_cons_cons, ← List.singleton_append, ← List.append_assoc,
        List.getLast?_append, hd]
      rfl

/-- Spaces and tabs at the end of a text go with its other trailing blanks. -/
theorem trimEnd_append_spaceOrTab (gs : List Glyph) {ws : List Char}
    (hws : ∀ c ∈ ws, isSpaceOrTab c = true) :
    Lexeme.trimEnd (gs ++ ws.map Glyph.char) = Lexeme.trimEnd gs := by
  have hblank : ∀ g ∈ (ws.map Glyph.char).reverse, g.isBlank = true := by
    simp only [List.mem_reverse, List.mem_map]
    rintro _ ⟨c, hc, rfl⟩
    exact isBlankChar_of_isSpaceOrTab (hws c hc)
  rw [Lexeme.trimEnd, List.reverse_append, List.dropWhile_append_of_pos hblank]
  rfl

/-- The operand text runs to the first `;` and the comment follows it; the operands are read
back from the text before it. -/
theorem read_operandsAndComment {run : List Char} (hrun : ∀ c ∈ run, isSpaceOrTab c = true)
    {before : List Char} (hbefore : ∀ c ∈ before, isSpaceOrTab c = true) (vs : List Int)
    (comment : Option (List Glyph)) (hc : ∀ cm ∈ comment, Glyph.char '\n' ∉ cm) :
    ∃ ops, operandsAndComment (run.map Glyph.char ++ (operandText vs ++ commentText before comment)) =
        some (ops, comment) ∧ integers ops = vs.map Numeral.ofInt := by
  have hsemi : ∀ g ∈ run.map Glyph.char ++ operandText vs, (g != .char ';') = true := by
    intro g hg
    rcases List.mem_append.mp hg with h | h
    · obtain ⟨c, hc, rfl⟩ := List.mem_map.mp h
      simpa using (spaceOrTab_facts (hrun c hc)).2.2
    · obtain ⟨c, rfl, hc⟩ := mem_operandText h
      rcases hc with hd | rfl | rfl
      · have : c ≠ ';' := by
          rintro rfl
          exact absurd hd (by decide)
        simpa using this
      · decide
      · decide
  -- the text before the comment, without its trailing blanks, is the operands after `run`
  have hops : integers (Lexeme.trimEnd (run.map Glyph.char ++ operandText vs)) = vs.map Numeral.ofInt := by
    by_cases hvs : vs = []
    · subst hvs
      have ht : Lexeme.trimEnd (run.map Glyph.char) = [] := by
        rw [← List.nil_append (run.map Glyph.char), trimEnd_append_spaceOrTab [] hrun]
        rfl
      simp [operandText, ht]
    · obtain ⟨d, hd, hdig⟩ := getLast?_operandText hvs
      have hlast : (run.map Glyph.char ++ operandText vs).getLast? = some (.char d) := by
        rw [List.getLast?_append, hd]
        rfl
      obtain ⟨y, hy⟩ := List.getLast?_eq_some_iff.mp hlast
      have ht : Lexeme.trimEnd (run.map Glyph.char ++ operandText vs) = run.map Glyph.char ++ operandText vs := by
        rw [Lexeme.trimEnd, hy, List.reverse_append, List.reverse_singleton, List.singleton_append,
          List.dropWhile_cons_of_neg (by simp [isBlank_of_isDigit hdig]), List.reverse_cons,
          List.reverse_reverse]
      rw [ht, integers_run_append hrun, integers_operandText]
  cases comment with
  | none =>
    refine ⟨_, ?_, hops⟩
    simp only [commentText, List.append_nil, operandsAndComment, List.takeWhile_eq_self_iff.mpr hsemi,
      List.dropWhile_eq_nil_iff.mpr hsemi]
  | some cm =>
    have hcm : Glyph.char '\n' ∉ cm := hc cm rfl
    have hsemi' : ∀ g ∈ run.map Glyph.char ++ operandText vs ++ before.map Glyph.char,
        (g != .char ';') = true := by
      intro g hg
      rcases List.mem_append.mp hg with h | h
      · exact hsemi g h
      · obtain ⟨c, hc, rfl⟩ := List.mem_map.mp h
        simpa using (spaceOrTab_facts (hbefore c hc)).2.2
    have hsplit : run.map Glyph.char ++ (operandText vs ++ commentText before (some cm)) =
        (run.map Glyph.char ++ operandText vs ++ before.map Glyph.char) ++ .char ';' :: cm := by
      simp [commentText]
    have hlast : (cm.getLast? == some (.char '\n')) = false := by
      cases h : cm.getLast? with
      | none => rfl
      | some g =>
        have hg : g ≠ .char '\n' := fun e => hcm (e ▸ List.mem_of_getLast? h)
        simpa using hg
    refine ⟨Lexeme.trimEnd (run.map Glyph.char ++ operandText vs ++ before.map Glyph.char), ?_, ?_⟩
    · -- the first `;` ends the operand text and opens the comment
      have hstop : (Glyph.char ';' :: cm).takeWhile (fun x => x != Glyph.char ';') = [] := by
        simp
      have hopen : (Glyph.char ';' :: cm).dropWhile (fun x => x != Glyph.char ';') =
          Glyph.char ';' :: cm := by
        simp
      rw [hsplit, operandsAndComment]
      simp only [List.takeWhile_append_of_pos hsemi', List.dropWhile_append_of_pos hsemi', hstop,
        hopen, List.append_nil, hlast, Bool.false_eq_true, if_false, List.contains_iff_mem, hcm]
    · rw [trimEnd_append_spaceOrTab _ hbefore]
      exact hops

end Reading

/-! ### The whole line -/

/-- Converting printed operands gives them back, or fails at the first that is too long. -/
theorem mapM_toInt_ofInt (vs : List Int) :
    (vs.map Numeral.ofInt).mapM Numeral.toInt = guardDigits (vs.map Int.natAbs) vs := by
  induction vs with
  | nil => rfl
  | cons v vs ih =>
    simp only [List.map_cons, List.mapM_cons, Numeral.toInt_ofInt, ih, guardDigits_bind_pure,
      guardDigits_bind, List.singleton_append]

/-- The instruction the reader builds from the numerals of a printed instruction: the pc, the
source line and the operands are converted in that order, and the first numeral with too many
digits is the error. -/
def decoded (i : Instruction) : Except DigitLimitError Instruction := do
  let p ← (Numeral.ofNat i.pc).toNat
  let l ← match i.sourceLine.map Numeral.ofNat with
    | some n => n.toNat.map some
    | none => pure none
  let os ← (i.operands.map Numeral.ofInt).mapM Numeral.toInt
  return ⟨p, l, i.opcode, os, i.comment⟩

/-- **Reading a printed line** finds every field where it was printed; what is left is to
convert its numerals. -/
theorem read?_print_eq {sp : Spacing} (hsp : sp.Valid) {i : Instruction}
    (hop : IsOpcodeName i.opcode) (hc : ∀ cm ∈ i.comment, Glyph.char '\n' ∉ cm) :
    read? (print sp i) = some i.decoded := by
  obtain ⟨hpc, hap, hal, hao, hbc⟩ := hsp
  obtain ⟨ops, hops, hints⟩ := read_operandsAndComment hao.2 hbc.2 i.operands i.comment hc
  obtain ⟨g, tail, hgt, hg, hgb, htake, hdrop⟩ := read_opcode hop
    (hao.head (operandText i.operands ++ commentText sp.beforeComment i.comment)).2
  have hname : charsText (g :: tail.takeWhile Glyph.isWord) = i.opcode := by
    rw [htake, charsText_ofString]
  unfold read? print
  rw [hgt, Lexeme.blanks1_run hpc.1 hpc.2 ?pcStart]
  simp only [Option.bind_eq_bind, Option.bind_some]
  rw [Nat.toString_eq_repr, Lexeme.natural_repr i.pc ((hap.head _).1)]
  simp only [Option.bind_some]
  rw [Lexeme.blanks1_run hap.1 hap.2 ?bracket]
  simp only [Option.bind_some]
  rw [Lexeme.literal_ofString]
  simp only [Option.bind_some]
  rw [read_sourceText i.sourceLine ?close]
  simp only [Option.bind_some]
  rw [Lexeme.literal_ofString]
  simp only [Option.bind_some]
  rw [Lexeme.blanks1_run hal.1 hal.2 ?opcodeStart]
  simp only [Option.bind_some, hg, Bool.not_true, Bool.false_eq_true, if_false, hdrop, hops]
  rw [hints, hname]
  rfl
  case pcStart =>
    obtain ⟨d, ds, hd, hdig⟩ := ofString_toString_nat i.pc
    rw [hd]
    simpa using Lexeme.isBlank_of_isDigit hdig
  case bracket =>
    simp only [Glyph.ofString]
    simp
    decide
  case close =>
    simp only [Lexeme.NoDigitAt, Glyph.ofString]
    simp
    decide
  case opcodeStart => simpa using hgb

/-- The numerals of a printed instruction convert back to it, unless one is too long; the
first such is the error. -/
theorem decoded_eq_guardDigits (i : Instruction) : i.decoded = guardDigits i.numerals i := by
  obtain ⟨pc, sl, op, vs, cm⟩ := i
  -- the reader converts the source line inside its match, one arm for each shape
  cases sl with
  | none =>
    simp only [decoded, Option.map_none, Numeral.toNat_ofNat, mapM_toInt_ofInt, pure_bind,
      guardDigits_bind_pure, guardDigits_bind]
    rfl
  | some s =>
    simp only [decoded, Option.map_some, Numeral.toNat_ofNat, guardDigits_map, mapM_toInt_ofInt,
      guardDigits_bind_pure, guardDigits_bind]
    rfl

/-- A printed line is classified as the instruction it was printed from: instructions are
tried first among indented lines. -/
theorem classify_print {sp : Spacing} (hsp : sp.Valid) {i : Instruction}
    (hop : IsOpcodeName i.opcode) (hc : ∀ cm ∈ i.comment, Glyph.char '\n' ∉ cm) :
    Token.classify (print sp i) = guardDigits i.numerals (some (.instruction i)) := by
  have hblank : startsWithBlank (print sp i) = true := by
    obtain ⟨c, cs, hcs⟩ := List.exists_cons_of_ne_nil hsp.1.1
    have hc := isBlankChar_of_isSpaceOrTab (hsp.1.2 c (hcs ▸ List.mem_cons_self))
    simp [print, hcs, startsWithBlank, Glyph.isBlank, hc]
  rw [Token.classify, if_pos hblank, read?_print_eq hsp hop hc, decoded_eq_guardDigits]
  simp only [Option.map_some, Token.firstOf, guardDigits_map]

/-- **A printed instruction line reads back.**  For every spacing by runs of spaces and tabs,
every opcode name and every comment on one line, reading the line converts its numerals back
to the instruction, failing at the first numeral with more than `maxDigits` digits; the line
is classified the same way; and when every numeral fits, it is classified as exactly the
instruction it was printed from. -/
theorem read?_print (sp : Spacing) (hsp : sp.Valid) (i : Instruction)
    (hop : IsOpcodeName i.opcode) (hc : ∀ cm ∈ i.comment, Glyph.char '\n' ∉ cm) :
    read? (print sp i) = some (guardDigits i.numerals i) ∧
      Token.classify (print sp i) = guardDigits i.numerals (some (.instruction i)) ∧
      (i.numerals.all fitsDigits = true →
        Token.classify (print sp i) = .ok (some (.instruction i))) := by
  refine ⟨?_, classify_print hsp hop hc, fun hfit => ?_⟩
  · rw [read?_print_eq hsp hop hc, decoded_eq_guardDigits]
  · rw [classify_print hsp hop hc, guardDigits_of_all hfit]

/-- One tab between the fields. -/
def Spacing.tabs : Spacing := ⟨['\t'], ['\t'], ['\t'], ['\t'], ['\t']⟩

theorem Spacing.tabs_valid : Spacing.tabs.Valid := by
  simp [Spacing.Valid, Spacing.tabs, IsSeparator, isSpaceOrTab]

theorem isOpcodeName_loadk : IsOpcodeName "LOADK" :=
  ⟨'L', ['O', 'A', 'D', 'K'], by decide, by decide, by simp [isWordChar]⟩

theorem read?_print_loadk :
    Spacing.tabs.Valid ∧ IsOpcodeName "LOADK" ∧
      (∀ cm ∈ some (Glyph.ofString "\"a;b\""), Glyph.char '\n' ∉ cm) ∧
      Token.classify (print .tabs ⟨1, some 1, "LOADK", [0, -1], some (Glyph.ofString "\"a;b\"")⟩) =
        .ok (some (.instruction ⟨1, some 1, "LOADK", [0, -1], some (Glyph.ofString "\"a;b\"")⟩)) := by
  have hc : ∀ cm ∈ some (Glyph.ofString "\"a;b\""), Glyph.char '\n' ∉ cm := by decide
  exact ⟨Spacing.tabs_valid, isOpcodeName_loadk, hc,
    (read?_print _ Spacing.tabs_valid _ isOpcodeName_loadk hc).2.2 (by decide)⟩

/-- An operand of `maxDigits + 1` digits: the line is refused. -/
theorem classify_print_long_operand :
    Token.classify (print .tabs ⟨1, some 1, "LOADK", [0, 10 ^ maxDigits], none⟩) =
      .error ⟨maxDigits + 1⟩ := by
  have hbig : fitsDigits (10 ^ maxDigits) = false := by
    rw [Bool.eq_false_iff, ne_eq, fitsDigits_iff]
    exact Nat.lt_irrefl _
  have hsmall : fitsDigits 1 = true ∧ fitsDigits 0 = true := by decide
  rw [classify_print Spacing.tabs_valid isOpcodeName_loadk (by simp)]
  simp [guardDigits, numerals, Int.natAbs_pow, hsmall, hbig, length_toDigits_ten_pow]

end Instruction

end LuaListing
