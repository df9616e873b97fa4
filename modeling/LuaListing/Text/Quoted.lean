import LuaListing.Text.Glyph
import LuaListing.Text.Printable

/-!
# Quoted text

Messages show a name or a line in quotes, with every character that would not print
spelled as an escape.  The quote is `'` unless the text holds a `'` and no `"`, in which
case it is `"`.  Inside, the backslash and the chosen quote are escaped with a backslash;
tab, line feed and carriage return are `\t`, `\n`, `\r`; other controls and `U+007F` are
`\xHH`; a character that is not printable is `\xHH`, `\uHHHH` or `\UHHHHHHHH` by size; a
raw byte `b` stands at the surrogate `U+DC00 + b` and is therefore `\udcHH`.  All hex digits
are lowercase.

## Main definitions

* `hexPadded` — a number in lowercase hexadecimal, padded to a width.
* `Glyph.quoteChar` — the quote a text is shown in.
* `Glyph.quote` — the quoted text.
-/

namespace LuaListing

/-- Hexadecimal digits of `n`, least significant first, exactly `width` of them. -/
def hexDigitsRev : Nat → Nat → List Char
  | 0, _ => []
  | width + 1, n => Glyph.hexDigit (n % 16) :: hexDigitsRev width (n / 16)

/-- `n` in lowercase hexadecimal, padded with zeros to `width` digits. -/
def hexPadded (width n : Nat) : String := String.ofList (hexDigitsRev width n).reverse

namespace Glyph

/-- The quote a text is shown in: `"` when it holds a `'` and no `"`, else `'`. -/
def quoteChar (gs : List Glyph) : Char :=
  if gs.any (isChar '\'') && !gs.any (isChar '"') then '"' else '\''

/-- The escape of a code point that does not print, sized by its value. -/
def codeEscape (n : Nat) : String :=
  if n ≤ 0xFF then "\\x" ++ hexPadded 2 n
  else if n ≤ 0xFFFF then "\\u" ++ hexPadded 4 n
  else "\\U" ++ hexPadded 8 n

/-- How one glyph is written between the quotes `q`. -/
def quotedChars (q : Char) : Glyph → String
  | .byte b => codeEscape (0xDC00 + b.toNat)
  | .char c =>
    if c == q || c == '\\' then String.ofList ['\\', c]
    else if c == '\t' then "\\t"
    else if c == '\n' then "\\n"
    else if c == '\r' then "\\r"
    else if isPrintableCode c.toNat then String.singleton c
    else codeEscape c.toNat

/-- The text in quotes, each glyph that would not print spelled as an escape. -/
def quote (gs : List Glyph) : String :=
  let q := quoteChar gs
  String.singleton q ++ gs.foldl (fun acc g => acc ++ quotedChars q g) "" ++ String.singleton q

end Glyph

end LuaListing
