import LuaListing.Text.Glyph

/-!
# Lines

A listing may end its lines with `CR LF`, a lone `CR` or `LF`.  Normalising turns every
`CR` into `LF`, except that a `CR` right before an `LF` is dropped.  The normalised text is
then cut at each `LF`; one final `LF` ends the last line and does not open an empty one,
and an empty text has no lines at all.  Joining the lines with `LF` and adding one `LF`
gives the text back.

## Main definitions

* `Lines.normalize` — line ends to `LF`.
* `Lines.cut` — cut at every `LF`, keeping the pieces (there is always one more piece than
  there are `LF`s).
* `Lines.split` — the lines of a text.
* `Lines.join` — the text of some lines, each followed by `LF`.
-/

namespace LuaListing

namespace Lines

/-- The line feed. -/
def lf : Glyph := .char '\n'

/-- The carriage return. -/
def cr : Glyph := .char '\r'

/-- Every `CR` becomes `LF`, except that a `CR` right before an `LF` is dropped. -/
def normalize : List Glyph → List Glyph
  | [] => []
  | g :: rest =>
    if g = cr then
      match rest with
      | h :: rest' => if h = lf then lf :: normalize rest' else lf :: normalize (h :: rest')
      | [] => [lf]
    else g :: normalize rest

/-- Cut a text at every `LF`; the pieces do not contain `LF`. -/
def cut : List Glyph → List (List Glyph)
  | [] => [[]]
  | g :: rest =>
    if g = lf then [] :: cut rest
    else
      match cut rest with
      | l :: ls => (g :: l) :: ls
      | [] => [[g]]

/-- The lines of a text: its pieces between `LF`s, where one final `LF` does not open an
empty line and an empty text has none. -/
def split (gs : List Glyph) : List (List Glyph) :=
  if gs = [] then []
  else if gs.getLast? = some lf then cut gs.dropLast
  else cut gs

/-- The text of some lines, each followed by `LF`. -/
def join (ls : List (List Glyph)) : List Glyph := ls.flatMap (· ++ [lf])

@[simp] theorem join_nil : join [] = [] := rfl

@[simp] theorem join_cons (l : List Glyph) (ls : List (List Glyph)) :
    join (l :: ls) = l ++ lf :: join ls := by
  simp [join]

end Lines

end LuaListing
