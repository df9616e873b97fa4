import LuaListing.Text.Glyph

/-!
# Blank characters

The blank characters are the Unicode whitespace: the ASCII controls `U+0009`–`U+000D`, the
information separators `U+001C`–`U+001F`, the space, `U+0085`, the no-break space and the
other space separators, and the line and paragraph separators.  The zero-width space and
the byte order mark are not blank.  Listing lines are split into fields at blanks, and
formulas and names are trimmed of them.

## Main definitions

* `isBlankChar`, `Glyph.isBlank` — the class; a raw byte is never blank.
* `isSpaceOrTab` — the narrower class of the ASCII space and tab.
* `trimEnd`, `trim` — drop blank characters from the end, or from both ends.
-/

namespace LuaListing

/-- Whether a character is Unicode whitespace. -/
def isBlankChar (c : Char) : Bool :=
  let n := c.toNat
  (0x09 ≤ n && n ≤ 0x0D) || (0x1C ≤ n && n ≤ 0x20) || n == 0x85 || n == 0xA0 ||
    n == 0x1680 || (0x2000 ≤ n && n ≤ 0x200A) || n == 0x2028 || n == 0x2029 ||
    n == 0x202F || n == 0x205F || n == 0x3000

/-- The ASCII space or tab, the only blanks some formula rules look at. -/
def isSpaceOrTab (c : Char) : Bool := c == ' ' || c == '\t'

theorem isBlankChar_of_isSpaceOrTab {c : Char} (h : isSpaceOrTab c = true) :
    isBlankChar c = true := by
  simp only [isSpaceOrTab, Bool.or_eq_true, beq_iff_eq] at h
  rcases h with rfl | rfl <;> decide

/-- Whether a glyph is blank; a raw byte never is. -/
def Glyph.isBlank : Glyph → Bool
  | .char c => isBlankChar c
  | .byte _ => false

/-- Drop the blank characters at the end. -/
def trimEnd (cs : List Char) : List Char := (cs.reverse.dropWhile isBlankChar).reverse

/-- Drop the blank characters at both ends. -/
def trim (cs : List Char) : List Char := trimEnd (cs.dropWhile isBlankChar)

/-- A string without its trailing blank characters. -/
def String.trimBlankEnd (s : String) : String := String.ofList (trimEnd s.toList)

/-- A string without its leading and trailing blank characters. -/
def String.trimBlank (s : String) : String := String.ofList (trim s.toList)

end LuaListing
