import LuaListing.Text.Glyph

/-!
# Lenient UTF-8

Listings are decoded as UTF-8 without ever failing: at each position the longest
well-formed UTF-8 sequence (RFC 3629: no overlong forms, no surrogates, nothing above
`U+10FFFF`) becomes one character, and a byte that starts no such sequence becomes a raw
`Glyph.byte`.  Encoding writes characters as UTF-8 and raw bytes as themselves, so
decoding and then encoding gives back the bytes that were read.

## Main definitions

* `Utf8.sequence?` — the character a lead byte starts, with the number of continuation
  bytes it takes.
* `Utf8.decode`, `Utf8.encode` — bytes to glyphs and back.
* `Utf8.isClean` — no raw byte was kept.
-/

namespace LuaListing

namespace Utf8

/-- Whether a byte lies in the closed range `[lo, hi]`. -/
def inRange (lo hi : Nat) (b : UInt8) : Bool := lo ≤ b.toNat && b.toNat ≤ hi

/-- The low six bits of a continuation byte. -/
def payload (b : UInt8) : Nat := b.toNat % 64

/-- The range the first continuation byte must lie in after a lead byte of three or four
bytes: tighter after `E0`, `ED`, `F0` and `F4`, which rules out overlong forms,
surrogates and code points above `U+10FFFF`. -/
def secondRange (lead : Nat) : Nat × Nat :=
  if lead = 0xE0 then (0xA0, 0xBF)
  else if lead = 0xED then (0x80, 0x9F)
  else if lead = 0xF0 then (0x90, 0xBF)
  else if lead = 0xF4 then (0x80, 0x8F)
  else (0x80, 0xBF)

/-- The character that a lead byte and the bytes after it spell, with the number of
continuation bytes it uses; `none` when no well-formed sequence starts here. -/
def sequence? (b : UInt8) (rest : List UInt8) : Option (Char × Nat) :=
  let n := b.toNat
  if n < 0x80 then some (Char.ofNat n, 0)
  else if 0xC2 ≤ n ∧ n ≤ 0xDF then
    match rest with
    | c1 :: _ =>
      if inRange 0x80 0xBF c1 then some (Char.ofNat ((n % 32) * 64 + payload c1), 1) else none
    | [] => none
  else if 0xE0 ≤ n ∧ n ≤ 0xEF then
    match rest with
    | c1 :: c2 :: _ =>
      if inRange (secondRange n).1 (secondRange n).2 c1 && inRange 0x80 0xBF c2 then
        some (Char.ofNat ((n % 16) * 4096 + payload c1 * 64 + payload c2), 2)
      else none
    | _ => none
  else if 0xF0 ≤ n ∧ n ≤ 0xF4 then
    match rest with
    | c1 :: c2 :: c3 :: _ =>
      if inRange (secondRange n).1 (secondRange n).2 c1 && inRange 0x80 0xBF c2 &&
          inRange 0x80 0xBF c3 then
        some (Char.ofNat ((n % 8) * 262144 + payload c1 * 4096 + payload c2 * 64 + payload c3), 3)
      else none
    | _ => none
  else none

/-- Decode bytes leniently: each well-formed sequence is one character, every other byte is
kept as a raw glyph. -/
def decode : List UInt8 → List Glyph
  | [] => []
  | b :: rest =>
    match sequence? b rest with
    | some (c, k) => Glyph.char c :: decode (rest.drop k)
    | none => Glyph.byte b :: decode rest
  termination_by bs => bs.length
  decreasing_by
    all_goals simp only [List.length_drop, List.length_cons]
    all_goals omega

/-- The bytes of one glyph. -/
def encodeGlyph : Glyph → List UInt8
  | .char c => String.utf8EncodeChar c
  | .byte b => [b]

/-- Encode glyphs: characters as UTF-8, raw bytes as themselves. -/
def encode (gs : List Glyph) : List UInt8 := gs.flatMap encodeGlyph

@[simp] theorem encode_nil : encode [] = [] := rfl

@[simp] theorem encode_cons (g : Glyph) (gs : List Glyph) :
    encode (g :: gs) = encodeGlyph g ++ encode gs := by
  simp [encode]

@[simp] theorem encode_append (xs ys : List Glyph) : encode (xs ++ ys) = encode xs ++ encode ys := by
  simp [encode]

/-- No raw byte was kept: the glyphs are plain text. -/
def isClean (gs : List Glyph) : Bool := gs.all fun g => (Glyph.char? g).isSome

end Utf8

end LuaListing
