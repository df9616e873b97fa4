import LuaListing.Text.Lines
import LuaListing.Proofs.Utf8RoundTrip

/-!
# The lines of a listing, read in bytes

The lines of a listing can be found without decoding it: in its bytes, replace every
`CR LF`, and then every remaining `CR`, by `LF`; then cut at every `LF`, where one final
`LF` ends the last line instead of opening an empty one, and no bytes make no lines.

Decoding commutes with all of it.  Line ends are ASCII bytes, an ASCII byte decodes on its
own and cuts the decoding in two, and decoding invents no ASCII character; so decoding and
then finding the lines of the glyphs gives the decodings of the byte lines.  Because
encoding inverts decoding, every decoded line is written back as exactly its bytes.

## Main definitions

* `RawLines.collapseCrLf`, `RawLines.normalize` — line ends of bytes to `LF`.
* `RawLines.split` — the lines of bytes.

## Main results

* `Lines.cut_eq_splitOn` — cutting glyphs at line feeds is `List.splitOn`.
* `RawLines.decode_normalize` — decoding commutes with normalising line ends.
* `RawLines.split_decode` — decoding commutes with cutting into lines.
* `RawLines.lines_decode` — the lines of a decoded listing are its decoded byte lines.
-/

namespace LuaListing

namespace RawLines

/-! ### Line ends in bytes -/

/-- Every `CR LF` of some bytes becomes `LF`. -/
def collapseCrLf : List UInt8 → List UInt8
  | 13 :: 10 :: rest => 10 :: collapseCrLf rest
  | b :: rest => b :: collapseCrLf rest
  | [] => []

/-- Line ends to `LF`: every `CR LF`, and then every remaining `CR`, becomes `LF`. -/
def normalize (bs : List UInt8) : List UInt8 :=
  (collapseCrLf bs).map fun b => if b = 13 then 10 else b

/-- The lines of some bytes: the pieces between `LF`s, where one final `LF` does not open an
empty line and no bytes make no lines. -/
def split (bs : List UInt8) : List (List UInt8) :=
  if bs = [] then []
  else if bs.getLast? = some 10 then bs.dropLast.splitOn 10
  else bs.splitOn 10

example : normalize [0x61, 13, 13, 10, 0x62, 13] = [0x61, 10, 10, 0x62, 10] := by decide

example : split [0x61, 10, 10, 0x62, 10] = [[0x61], [], [0x62]] := by decide

theorem collapseCrLf_cons_of_ne {b : UInt8} (hb : b ≠ 13) (rest : List UInt8) :
    collapseCrLf (b :: rest) = b :: collapseCrLf rest := by
  cases rest <;> simp [collapseCrLf, hb]

theorem normalize_nil : normalize [] = [] := rfl

theorem normalize_append_of_not_mem {x : List UInt8} (hx : 13 ∉ x) (y : List UInt8) :
    normalize (x ++ y) = x ++ normalize y := by
  induction x with
  | nil => rfl
  | cons b x ih =>
    have hb : b ≠ 13 := fun h => hx (h ▸ List.mem_cons_self)
    have hx' : 13 ∉ x := fun h => hx (List.mem_cons_of_mem b h)
    simp only [normalize, List.cons_append, collapseCrLf_cons_of_ne hb, List.map_cons, hb,
      if_false] at ih ⊢
    rw [ih hx']

theorem normalize_of_not_mem {x : List UInt8} (hx : 13 ∉ x) : normalize x = x := by
  simpa [normalize_nil] using normalize_append_of_not_mem hx []

theorem normalize_cr_lf (y : List UInt8) : normalize (13 :: 10 :: y) = 10 :: normalize y := by
  simp [normalize, collapseCrLf]

theorem normalize_cr_of_ne {y : List UInt8} (hy : y.head? ≠ some 10) :
    normalize (13 :: y) = 10 :: normalize y := by
  rcases y with _ | ⟨z, y⟩
  · rfl
  · have hz : z ≠ 10 := fun h => hy (by rw [h]; rfl)
    simp [normalize, collapseCrLf, hz]

end RawLines

/-! ### Line ends in glyphs -/

namespace Lines

theorem normalize_cons_of_ne {g : Glyph} (hg : g ≠ cr) (w : List Glyph) :
    normalize (g :: w) = g :: normalize w := by
  cases w <;> simp [normalize, hg]

theorem normalize_append_of_cr_not_mem {u : List Glyph} (hu : cr ∉ u) (v : List Glyph) :
    normalize (u ++ v) = u ++ normalize v := by
  induction u with
  | nil => rfl
  | cons g u ih =>
    have hg : g ≠ cr := fun h => hu (h ▸ List.mem_cons_self)
    rw [List.cons_append, normalize_cons_of_ne hg, ih (fun h => hu (List.mem_cons_of_mem g h)),
      List.cons_append]

theorem normalize_of_cr_not_mem {u : List Glyph} (hu : cr ∉ u) : normalize u = u := by
  simpa [normalize] using normalize_append_of_cr_not_mem hu []

theorem normalize_cr_lf (v : List Glyph) : normalize (cr :: lf :: v) = lf :: normalize v := by
  simp [normalize]

theorem normalize_cr_of_ne {v : List Glyph} (hv : v.head? ≠ some lf) :
    normalize (cr :: v) = lf :: normalize v := by
  rcases v with _ | ⟨g, v⟩
  · simp [normalize]
  · have hg : g ≠ lf := fun h => hv (by rw [h]; rfl)
    simp [normalize, hg]

/-- Cutting at line feeds is splitting on them. -/
theorem cut_eq_splitOn (gs : List Glyph) : cut gs = gs.splitOn lf := by
  induction gs with
  | nil => rfl
  | cons g gs ih =>
    rw [cut, List.splitOn_cons_eq_if_modifyHead, ← ih]
    by_cases hg : g = lf
    · simp [hg]
    · -- `cut` never returns the empty list, so its head is always there to extend
      have hne : cut gs ≠ [] := by
        rw [ih]
        exact List.splitOn_ne_nil _ _
      obtain ⟨l, ls, hls⟩ := List.exists_cons_of_ne_nil hne
      simp [hg, hls]

end Lines

/-! ### Decoding commutes with finding lines -/

namespace RawLines

open Utf8

theorem decode_append_lf (x y : List UInt8) : decode (x ++ 10 :: y) = decode x ++ Lines.lf :: decode y :=
  decode_append_ascii x (by decide) y

theorem decode_append_cr (x y : List UInt8) : decode (x ++ 13 :: y) = decode x ++ Lines.cr :: decode y :=
  decode_append_ascii x (by decide) y

theorem lf_not_mem_decode {x : List UInt8} (hx : 10 ∉ x) : Lines.lf ∉ decode x :=
  fun h => hx (mem_of_ascii_mem_decode (by decide) h)

theorem cr_not_mem_decode {x : List UInt8} (hx : 13 ∉ x) : Lines.cr ∉ decode x :=
  fun h => hx (mem_of_ascii_mem_decode (by decide) h)

/-- Decoded bytes start with a line feed only when the bytes do. -/
theorem head?_decode_ne_lf {z : UInt8} (hz : z ≠ 10) (y : List UInt8) :
    (decode (z :: y)).head? ≠ some Lines.lf := by
  intro h
  obtain ⟨gs, hgs⟩ : ∃ gs, decode (z :: y) = Lines.lf :: gs := by
    cases hd : decode (z :: y) with
    | nil => simp [hd] at h
    | cons g gs => simp only [hd, List.head?_cons, Option.some.injEq] at h; exact ⟨gs, h ▸ rfl⟩
  have hlf : (10 : UInt8).toNat < 0x80 := by decide
  have := eq_cons_of_decode_eq_cons hlf hgs
  simp only [List.cons.injEq] at this
  exact hz this.1

/-- **Decoding commutes with normalising line ends.** -/
theorem decode_normalize (b : List UInt8) : decode (normalize b) = Lines.normalize (decode b) := by
  -- by strong induction on the length: the bytes after the first `CR` are handled by recursion
  induction hn : b.length using Nat.strongRecOn generalizing b with
  | ind n ih =>
  by_cases h : 13 ∈ b
  · obtain ⟨x, y, rfl, hx⟩ := List.eq_append_cons_of_mem h
    rw [normalize_append_of_not_mem hx, decode_append_cr,
      Lines.normalize_append_of_cr_not_mem (cr_not_mem_decode hx)]
    rcases y with _ | ⟨z, y⟩
    · rw [normalize_cr_of_ne (by simp), normalize_nil, decode_append_lf, decode_nil,
        Lines.normalize_cr_of_ne (by simp)]
      rfl
    · simp only [List.length_append, List.length_cons] at hn
      by_cases hz : z = 10
      · subst hz
        have hy : decode (10 :: y) = Lines.lf :: decode y := by
          simpa using decode_append_lf [] y
        rw [normalize_cr_lf, decode_append_lf, ih y.length (by omega) y rfl, hy,
          Lines.normalize_cr_lf]
      · rw [normalize_cr_of_ne (by simpa using hz), decode_append_lf,
          ih (z :: y).length (by simp; omega) (z :: y) rfl,
          Lines.normalize_cr_of_ne (head?_decode_ne_lf hz y)]
  · rw [normalize_of_not_mem h, Lines.normalize_of_cr_not_mem (cr_not_mem_decode h)]

/-- Decoding commutes with splitting at line feeds. -/
theorem splitOn_decode (b : List UInt8) :
    (decode b).splitOn Lines.lf = (b.splitOn 10).map decode := by
  induction hn : b.length using Nat.strongRecOn generalizing b with
  | ind n ih =>
  by_cases h : 10 ∈ b
  · obtain ⟨x, y, rfl, hx⟩ := List.eq_append_cons_of_mem h
    simp only [List.length_append, List.length_cons] at hn
    rw [decode_append_lf, List.splitOn_append_cons_self_of_not_mem (lf_not_mem_decode hx),
      List.splitOn_append_cons_self_of_not_mem hx, ih y.length (by omega) y rfl, List.map_cons]
  · rw [List.splitOn_eq_singleton h, List.splitOn_eq_singleton (lf_not_mem_decode h),
      List.map_singleton]

theorem encode_lf : encode [Lines.lf] = [10] := rfl

/-- **Decoding commutes with cutting into lines.** -/
theorem split_decode (b : List UInt8) : Lines.split (decode b) = (split b).map decode := by
  by_cases hnil : b = []
  · subst hnil
    simp [Lines.split, split]
  have hd : decode b ≠ [] := fun h => hnil (decode_eq_nil_iff.mp h)
  by_cases hlast : b.getLast? = some 10
  · -- one final `LF` ends the last line; it decodes to the final line feed
    obtain ⟨b', rfl⟩ := List.getLast?_eq_some_iff.mp hlast
    have hdb : decode (b' ++ [10]) = decode b' ++ [Lines.lf] := decode_concat_ascii _ (by decide)
    rw [Lines.split, split, if_neg hd, if_neg hnil, if_pos hlast, hdb,
      if_pos List.getLast?_concat, List.dropLast_concat, List.dropLast_concat,
      Lines.cut_eq_splitOn, splitOn_decode]
  · have hdlast : (decode b).getLast? ≠ some Lines.lf := by
      intro h
      obtain ⟨gs, hgs⟩ := List.getLast?_eq_some_iff.mp h
      apply hlast
      rw [← encode_decode b, hgs, encode_append, encode_lf, List.getLast?_concat]
    rw [Lines.split, split, if_neg hd, if_neg hnil, if_neg hlast, if_neg hdlast,
      Lines.cut_eq_splitOn, splitOn_decode]

/-- **The lines of a decoded listing are its decoded byte lines.** -/
theorem lines_decode (b : List UInt8) :
    Lines.split (Lines.normalize (decode b)) = (split (normalize b)).map decode := by
  rw [← decode_normalize, split_decode]

end RawLines

end LuaListing
