import LuaListing.Text.Blank
import LuaListing.Text.Digit
import LuaListing.Text.Numeral
import LuaListing.Text.Word
import LuaListing.Text.Scan

/-!
# Lexemes of listing lines

The pieces every line reader of a listing takes from the front of a line: a run of blanks,
a literal word, a number written with decimal digits (of any script), an optionally
negative number, and the integers anywhere in a text.  Each reader returns the rest of
the line, which is shorter than the line whenever it took something.

## Main definitions

* `Lexeme.blanks1` — one or more blanks, all of them.
* `Lexeme.literal` — a fixed text.
* `Lexeme.natural`, `Lexeme.integer` — `d+` and `-?d+`, digits of any script.
* `Lexeme.integers` — all integers of a text, left to right, as a scan that skips
  everything else.
* `Lexeme.trimEnd` — a glyph list without its trailing blanks.
-/

namespace LuaListing

namespace Lexeme

/-- One or more blanks, all of them: the text after the run, or `none` when the text does
not start with a blank. -/
def blanks1 (gs : List Glyph) : Option (List Glyph) :=
  match gs with
  | g :: _ => if g.isBlank then some (gs.dropWhile Glyph.isBlank) else none
  | [] => none

/-- The fixed text `s` at the start: the text after it. -/
def literal (s : String) (gs : List Glyph) : Option (List Glyph) :=
  if (Glyph.ofString s).isPrefixOf gs then some (gs.drop s.length) else none

/-- One or more decimal digits, all of them: the numeral and the text after them. -/
def natural (gs : List Glyph) : Option (Numeral × List Glyph) :=
  let ds := gs.takeWhile Glyph.isDigit
  if ds.isEmpty then none
  else some ({ digits := ds.filterMap Glyph.digit? }, gs.dropWhile Glyph.isDigit)

/-- An optional minus sign and one or more decimal digits: the numeral and the text after. -/
def integer (gs : List Glyph) : Option (Numeral × List Glyph) :=
  match gs with
  | .char '-' :: rest => (natural rest).map fun p => ({ p.1 with negative := true }, p.2)
  | _ => natural gs

theorem natural_length {gs r : List Glyph} {n : Numeral} (h : natural gs = some (n, r)) :
    r.length < gs.length := by
  unfold natural at h
  dsimp only at h
  split at h
  · simp at h
  · rename_i hne
    simp only [Option.some.injEq, Prod.mk.injEq] at h
    obtain ⟨-, rfl⟩ := h
    have := length_takeWhile_add_dropWhile Glyph.isDigit gs
    have : (gs.takeWhile Glyph.isDigit).length ≠ 0 := by
      intro h0
      simp [List.length_eq_zero_iff.mp h0] at hne
    omega

theorem integer_length {gs r : List Glyph} {n : Numeral} (h : integer gs = some (n, r)) :
    r.length < gs.length := by
  unfold integer at h
  split at h
  · rename_i rest
    simp only [Option.map_eq_some_iff, Prod.mk.injEq] at h
    obtain ⟨p, hp, -, rfl⟩ := h
    have := natural_length (n := p.1) (r := p.2) hp
    simp only [List.length_cons]
    omega
  · exact natural_length h

/-- All integer numerals of a text, left to right: at each place an integer is read if one starts
there, and otherwise one glyph is skipped. -/
def integers : List Glyph → List Numeral
  | [] => []
  | g :: rest =>
    match h : integer (g :: rest) with
    | some (n, r) =>
      have := integer_length h
      n :: integers r
    | none => integers rest
  termination_by gs => gs.length
  decreasing_by all_goals (simp only [List.length_cons] at *; omega)

@[simp] theorem integers_nil : integers [] = [] := by
  rw [integers]

/-- Where an integer starts, the scan reads it and goes on after it. -/
theorem integers_of_integer {gs r : List Glyph} {n : Numeral} (h : integer gs = some (n, r)) :
    integers gs = n :: integers r := by
  cases gs with
  | nil => simp [integer, natural] at h
  | cons g rest =>
    rw [integers]
    split
    · next n' r' h' =>
      rw [h] at h'
      obtain ⟨rfl, rfl⟩ := Prod.mk.inj (Option.some.inj h')
      rfl
    · next h' => exact absurd (h ▸ h') nofun

/-- Where no integer starts, the scan skips one glyph. -/
theorem integers_cons_of_integer {g : Glyph} {rest : List Glyph}
    (h : integer (g :: rest) = none) : integers (g :: rest) = integers rest := by
  rw [integers]
  split
  · next n r h' => exact absurd (h ▸ h') nofun
  · rfl

/-- A glyph list without its trailing blanks. -/
def trimEnd (gs : List Glyph) : List Glyph := (gs.reverse.dropWhile Glyph.isBlank).reverse

/-- Whether a glyph list holds only blanks. -/
def allBlank (gs : List Glyph) : Bool := gs.all Glyph.isBlank

end Lexeme

end LuaListing
