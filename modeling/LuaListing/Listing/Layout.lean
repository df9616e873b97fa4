import LuaListing.Text.Blank
import LuaListing.Text.Glyph

/-!
# Annotation layout

Annotation lines start at a fixed column and carry a marker that says what they are: the
formula (`-- `), the decorated operands (`-> `) or a warning (`!! `).  A formula of several
lines continues under the text of its first line; the first line loses its trailing blanks,
and continuation lines are trimmed of blanks at both ends.  A negative column means no
padding at all.

## Main definitions

* `Layout` — the column, the markers and the text shown for a return of no values.
* `Layout.padding`, `Layout.formulaLines`, `Layout.operandLine`, `Layout.warningLine`.
-/

namespace LuaListing

/-- Where and how annotation lines are written. -/
structure Layout where
  /-- The column annotations start at; a negative column is no padding. -/
  column : Int := 24
  /-- What opens a formula line. -/
  formulaMarker : String := "-- "
  /-- What opens an operand line. -/
  operandMarker : String := "-> "
  /-- What opens a warning line. -/
  warningMarker : String := "!! "
  /-- The operand text shown for a return of no values. -/
  returnsNothing : String := "(returns nothing)"
  deriving DecidableEq, Repr, Inhabited

namespace Layout

/-- The blanks before an annotation: as many spaces as the column, none when it is
negative. -/
def padding (l : Layout) : String := String.ofList (List.replicate l.column.toNat ' ')

/-- The lines of a formula.  The first line follows the formula marker and loses its
trailing blanks; each further line is trimmed and starts under the first line's text.  An
empty formula gives the bare marker. -/
def formulaLines (l : Layout) (doc : String) : List String :=
  let continuation := l.padding ++ String.ofList (List.replicate l.formulaMarker.length ' ')
  match if doc.isEmpty then [""] else doc.splitOn "\n" with
  | first :: rest =>
    String.trimBlankEnd (l.padding ++ l.formulaMarker ++ first) ::
      rest.map fun line => continuation ++ String.trimBlank line
  | [] => []

/-- The line that shows an instruction's operands. -/
def operandLine (l : Layout) (text : List Glyph) : List Glyph :=
  Glyph.ofString (l.padding ++ l.operandMarker) ++ text

/-- A warning line. -/
def warningLine (l : Layout) (text : List Glyph) : List Glyph :=
  Glyph.ofString (l.padding ++ l.warningMarker) ++ text

end Layout

end LuaListing
