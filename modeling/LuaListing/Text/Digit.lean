import LuaListing.Text.Ranges
import LuaListing.Text.Glyph

/-!
# Decimal digits

A decimal digit is a character of general category `Nd`.  Unicode allocates them in runs of
ten consecutive code points with the values `0` to `9` in order, so the value of a digit is
its distance from the start of its run, modulo ten (some runs hold several sets of ten).
The table follows Unicode 14.0.

## Main definitions

* `digitRanges` — the runs of decimal digits.
* `digitValue?`, `Glyph.digit?` — the value of a decimal digit.
* `digitsValue` — the number a sequence of digit values spells, most significant first.
-/

namespace LuaListing

/-- The runs of decimal digits; each run's length is a multiple of ten. -/
def digitRanges : CodeRanges := ⟨#[
  (0x30, 0x39), (0x660, 0x669), (0x6F0, 0x6F9), (0x7C0, 0x7C9),
  (0x966, 0x96F), (0x9E6, 0x9EF), (0xA66, 0xA6F), (0xAE6, 0xAEF),
  (0xB66, 0xB6F), (0xBE6, 0xBEF), (0xC66, 0xC6F), (0xCE6, 0xCEF),
  (0xD66, 0xD6F), (0xDE6, 0xDEF), (0xE50, 0xE59), (0xED0, 0xED9),
  (0xF20, 0xF29), (0x1040, 0x1049), (0x1090, 0x1099), (0x17E0, 0x17E9),
  (0x1810, 0x1819), (0x1946, 0x194F), (0x19D0, 0x19D9), (0x1A80, 0x1A89),
  (0x1A90, 0x1A99), (0x1B50, 0x1B59), (0x1BB0, 0x1BB9), (0x1C40, 0x1C49),
  (0x1C50, 0x1C59), (0xA620, 0xA629), (0xA8D0, 0xA8D9), (0xA900, 0xA909),
  (0xA9D0, 0xA9D9), (0xA9F0, 0xA9F9), (0xAA50, 0xAA59), (0xABF0, 0xABF9),
  (0xFF10, 0xFF19), (0x104A0, 0x104A9), (0x10D30, 0x10D39), (0x11066, 0x1106F),
  (0x110F0, 0x110F9), (0x11136, 0x1113F), (0x111D0, 0x111D9), (0x112F0, 0x112F9),
  (0x11450, 0x11459), (0x114D0, 0x114D9), (0x11650, 0x11659), (0x116C0, 0x116C9),
  (0x11730, 0x11739), (0x118E0, 0x118E9), (0x11950, 0x11959), (0x11C50, 0x11C59),
  (0x11D50, 0x11D59), (0x11DA0, 0x11DA9), (0x16A60, 0x16A69), (0x16AC0, 0x16AC9),
  (0x16B50, 0x16B59), (0x1D7CE, 0x1D7FF), (0x1E140, 0x1E149), (0x1E2F0, 0x1E2F9),
  (0x1E950, 0x1E959), (0x1FBF0, 0x1FBF9)]⟩

/-- The value of a decimal digit, or `none` for any other character. -/
def digitValue? (c : Char) : Option Nat :=
  if c.toNat < 0x80 then
    if c.isDigit then some (c.toNat - 0x30) else none
  else (digitRanges.find? c.toNat).map fun r => (c.toNat - r.1) % 10

/-- The value of a glyph that is a decimal digit. -/
def Glyph.digit? : Glyph → Option Nat
  | .char c => digitValue? c
  | .byte _ => none

/-- Whether a glyph is a decimal digit. -/
def Glyph.isDigit (g : Glyph) : Bool := g.digit?.isSome

/-- The number that a sequence of digit values spells, most significant digit first. -/
def digitsValue (ds : List Nat) : Nat := ds.foldl (fun acc d => 10 * acc + d) 0

@[simp] theorem digitsValue_nil : digitsValue [] = 0 := rfl

end LuaListing
