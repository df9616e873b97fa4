/-!
# Glyphs: the characters of a decoded listing

A listing is read as bytes and decoded as UTF-8.  A byte that belongs to no well-formed
UTF-8 sequence is not an error: it is kept as a `Glyph.byte`, so that writing the listing
back restores it exactly.  Everything that is read from a listing (names, addresses, whole
lines) is therefore a `List Glyph`, and text that only ever comes from the program itself is
a `String`.

## Main definitions

* `Glyph` — a Unicode scalar value or a raw byte.
* `Glyph.ofString`, `Glyph.toString?` — the glyphs of a string, and back when no raw byte
  is present.
* `Glyph.codePoint` — the code point a glyph is ordered by; a raw byte `b` stands at the
  low surrogate `U+DC00 + b`.
* `Glyph.logText` — log text, in which a raw byte is spelled `\udcXX`.
-/

namespace LuaListing

/-- One character of a decoded listing: a Unicode scalar value, or a byte that is not part
of any well-formed UTF-8 sequence and is kept as it is. -/
inductive Glyph where
  /-- A decoded Unicode scalar value. -/
  | char (c : Char)
  /-- A byte kept verbatim because it does not decode. -/
  | byte (b : UInt8)
  deriving DecidableEq, Repr, Inhabited

namespace Glyph

/-- The glyphs of a string: one `char` per character. -/
def ofString (s : String) : List Glyph := s.toList.map Glyph.char

@[simp] theorem ofString_append (s t : String) : ofString (s ++ t) = ofString s ++ ofString t := by
  simp [ofString]

/-- The character of a glyph, if it is one. -/
def char? : Glyph → Option Char
  | char c => some c
  | byte _ => none

/-- The text of a glyph list, if it holds no raw byte. -/
def toString? (gs : List Glyph) : Option String :=
  (gs.mapM char?).map String.ofList

/-- Whether the glyph is the given character. -/
def isChar (c : Char) : Glyph → Bool
  | char d => d == c
  | byte _ => false

/-- The code point under which a glyph is ordered: a raw byte `b` takes the low surrogate
`U+DC00 + b`, the place the lenient decoding gives it. -/
def codePoint : Glyph → Nat
  | char c => c.toNat
  | byte b => 0xDC00 + b.toNat

/-- Lowercase hexadecimal digit of a number below sixteen. -/
def hexDigit (n : Nat) : Char :=
  if n < 10 then Char.ofNat (0x30 + n) else Char.ofNat (0x57 + n)

/-- Two lowercase hexadecimal digits of a byte. -/
def hexByte (b : UInt8) : String :=
  String.ofList [hexDigit (b.toNat / 16), hexDigit (b.toNat % 16)]

/-- The log spelling of one glyph: a character stands for itself, a raw byte `b` is the six
characters of the escape `\udcXX`. -/
def logChars : Glyph → String
  | char c => String.singleton c
  | byte b => "\\udc" ++ hexByte b

/-- Log text of a glyph list: characters as they are, raw bytes escaped. -/
def logText (gs : List Glyph) : String :=
  gs.foldl (fun acc g => acc ++ logChars g) ""

/-- Lexicographic order on glyph lists by code point, the order names are sorted in. -/
def lexLt : List Glyph → List Glyph → Bool
  | [], [] => false
  | [], _ :: _ => true
  | _ :: _, [] => false
  | g :: gs, h :: hs =>
    if g.codePoint < h.codePoint then true
    else if h.codePoint < g.codePoint then false
    else lexLt gs hs

end Glyph

end LuaListing
