import LuaListing.Text.Utf8

/-!
# Lenient UTF-8 loses no byte

Decoding a listing never fails, and it never loses a byte either: encoding the glyphs gives
back exactly the bytes that were read, whatever they were.  A well-formed sequence is
written back as the same sequence because the decoder accepts no overlong form, no
surrogate and nothing above `U+10FFFF`, which are exactly the byte strings the encoder
never produces; every other byte is kept raw and written as itself.

The same restrictions make ASCII bytes safe: a character below `U+0080` comes only from a
single ASCII byte, and no sequence reaches across an ASCII byte.  Decoding therefore cuts
at every ASCII byte, so line ends can be looked for before or after decoding alike.

## Main results

* `Utf8.encode_of_sequence?` — the bytes a sequence spans encode the character it reads.
* `Utf8.encode_decode` — encoding inverts lenient decoding.
* `Utf8.decode_append_ascii` — an ASCII byte decodes on its own and cuts the decoding.
* `Utf8.decode_ascii` — ASCII bytes decode one by one.
* `Utf8.mem_of_ascii_mem_decode`, `Utf8.decode_eq_nil_iff` — what decoding cannot invent.
-/

namespace LuaListing

namespace Utf8

/-! ### One sequence -/

theorem val_toNat_ofNat {n : Nat} (h : n.isValidChar) : (Char.ofNat n).val.toNat = n := by
  rw [Char.ofNat, dif_pos h]
  rfl

theorem ofNat_eq_of_toNat {b : UInt8} {n : Nat} (h : n = b.toNat) : UInt8.ofNat n = b := by
  subst h
  simp

theorem inRange_iff {lo hi : Nat} {b : UInt8} : inRange lo hi b ↔ lo ≤ b.toNat ∧ b.toNat ≤ hi := by
  simp [inRange]

/-- What the range of a first continuation byte says: it is a continuation byte, tightened
after the four leads that could start an overlong form, a surrogate or a code point past
`U+10FFFF`. -/
theorem secondRange_bounds (n : Nat) (c : UInt8) (h : inRange (secondRange n).1 (secondRange n).2 c) :
    0x80 ≤ c.toNat ∧ c.toNat ≤ 0xBF ∧ (n = 0xE0 → 0xA0 ≤ c.toNat) ∧ (n = 0xED → c.toNat ≤ 0x9F) ∧
      (n = 0xF0 → 0x90 ≤ c.toNat) ∧ (n = 0xF4 → c.toNat ≤ 0x8F) := by
  rw [inRange_iff] at h
  unfold secondRange at h
  repeat' split at h
  all_goals omega

theorem secondRange_lo (n : Nat) : 0x80 ≤ (secondRange n).1 := by
  unfold secondRange
  repeat' split
  all_goals decide

theorem encode_one {b : UInt8} (hb : b.toNat < 0x80) :
    String.utf8EncodeChar (Char.ofNat b.toNat) = [b] := by
  have hv : b.toNat.isValidChar := by
    left
    omega
  simp only [String.utf8EncodeChar]
  rw [val_toNat_ofNat hv]
  have h1 : b.toNat ≤ 127 := by omega
  simp only [h1, if_true, List.cons.injEq, and_true]
  exact ofNat_eq_of_toNat rfl

theorem encode_two {b c1 : UInt8} (hb : 0xC2 ≤ b.toNat ∧ b.toNat ≤ 0xDF)
    (hc : inRange 0x80 0xBF c1) :
    String.utf8EncodeChar (Char.ofNat ((b.toNat % 32) * 64 + payload c1)) = [b, c1] := by
  rw [inRange_iff] at hc
  have hp1 : payload c1 = c1.toNat % 64 := rfl
  have hv : ((b.toNat % 32) * 64 + payload c1).isValidChar := by
    left
    omega
  simp only [String.utf8EncodeChar]
  rw [val_toNat_ofNat hv]
  have h1 : ¬ b.toNat % 32 * 64 + payload c1 ≤ 127 := by omega
  have h2 : b.toNat % 32 * 64 + payload c1 ≤ 2047 := by omega
  rw [if_neg h1, if_pos h2]
  simp only [List.cons.injEq, and_true]
  exact ⟨ofNat_eq_of_toNat (by omega), ofNat_eq_of_toNat (by omega)⟩

theorem encode_three {b c1 c2 : UInt8} (hb : 0xE0 ≤ b.toNat ∧ b.toNat ≤ 0xEF)
    (hc1 : inRange (secondRange b.toNat).1 (secondRange b.toNat).2 c1)
    (hc2 : inRange 0x80 0xBF c2) :
    String.utf8EncodeChar (Char.ofNat ((b.toNat % 16) * 4096 + payload c1 * 64 + payload c2)) =
      [b, c1, c2] := by
  have h1 := secondRange_bounds _ _ hc1
  rw [inRange_iff] at hc2
  have hp1 : payload c1 = c1.toNat % 64 := rfl
  have hp2 : payload c2 = c2.toNat % 64 := rfl
  -- after `ED` the first continuation byte stays below `A0`, which keeps out the surrogates
  have hv : ((b.toNat % 16) * 4096 + payload c1 * 64 + payload c2).isValidChar := by
    simp only [Nat.isValidChar]
    omega
  simp only [String.utf8EncodeChar]
  rw [val_toNat_ofNat hv]
  have h2 : ¬ b.toNat % 16 * 4096 + payload c1 * 64 + payload c2 ≤ 127 := by omega
  have h3 : ¬ b.toNat % 16 * 4096 + payload c1 * 64 + payload c2 ≤ 2047 := by omega
  have h4 : b.toNat % 16 * 4096 + payload c1 * 64 + payload c2 ≤ 65535 := by omega
  rw [if_neg h2, if_neg h3, if_pos h4]
  simp only [List.cons.injEq, and_true]
  exact ⟨ofNat_eq_of_toNat (by omega), ofNat_eq_of_toNat (by omega), ofNat_eq_of_toNat (by omega)⟩

theorem encode_four {b c1 c2 c3 : UInt8} (hb : 0xF0 ≤ b.toNat ∧ b.toNat ≤ 0xF4)
    (hc1 : inRange (secondRange b.toNat).1 (secondRange b.toNat).2 c1)
    (hc2 : inRange 0x80 0xBF c2) (hc3 : inRange 0x80 0xBF c3) :
    String.utf8EncodeChar (Char.ofNat ((b.toNat % 8) * 262144 + payload c1 * 4096 +
      payload c2 * 64 + payload c3)) = [b, c1, c2, c3] := by
  have h1 := secondRange_bounds _ _ hc1
  rw [inRange_iff] at hc2 hc3
  have hp1 : payload c1 = c1.toNat % 64 := rfl
  have hp2 : payload c2 = c2.toNat % 64 := rfl
  have hp3 : payload c3 = c3.toNat % 64 := rfl
  have hv : ((b.toNat % 8) * 262144 + payload c1 * 4096 + payload c2 * 64 +
      payload c3).isValidChar := by
    simp only [Nat.isValidChar]
    omega
  simp only [String.utf8EncodeChar]
  rw [val_toNat_ofNat hv]
  have h2 : ¬ b.toNat % 8 * 262144 + payload c1 * 4096 + payload c2 * 64 + payload c3 ≤ 127 := by
    omega
  have h3 : ¬ b.toNat % 8 * 262144 + payload c1 * 4096 + payload c2 * 64 + payload c3 ≤ 2047 := by
    omega
  have h4 : ¬ b.toNat % 8 * 262144 + payload c1 * 4096 + payload c2 * 64 + payload c3 ≤ 65535 := by
    omega
  rw [if_neg h2, if_neg h3, if_neg h4]
  simp only [List.cons.injEq, and_true]
  exact ⟨ofNat_eq_of_toNat (by omega), ofNat_eq_of_toNat (by omega), ofNat_eq_of_toNat (by omega),
    ofNat_eq_of_toNat (by omega)⟩

/-- **A sequence is the encoding of what it reads**: the lead byte and the continuation
bytes it uses are the UTF-8 encoding of the character. -/
theorem encode_of_sequence? {b : UInt8} {rest : List UInt8} {c : Char} {k : Nat}
    (h : sequence? b rest = some (c, k)) :
    k ≤ rest.length ∧ String.utf8EncodeChar c = b :: rest.take k := by
  simp only [sequence?] at h
  split at h
  next hb =>
    cases h
    exact ⟨Nat.zero_le _, encode_one hb⟩
  split at h
  next hb =>
    split at h
    next c1 t =>
      split at h
      next hc =>
        cases h
        simp [encode_two hb hc]
      next => cases h
    next => cases h
  split at h
  next hb =>
    split at h
    next c1 c2 t =>
      split at h
      next hc =>
        cases h
        obtain ⟨hc1, hc2⟩ := Bool.and_eq_true_iff.mp hc
        simp [encode_three hb hc1 hc2]
      next => cases h
    next => cases h
  split at h
  next hb =>
    split at h
    next c1 c2 c3 t =>
      split at h
      next hc =>
        cases h
        simp only [Bool.and_eq_true] at hc
        obtain ⟨⟨hc1, hc2⟩, hc3⟩ := hc
        simp [encode_four hb hc1 hc2 hc3]
      next => cases h
    next => cases h
  next => cases h

/-- An ASCII byte is no continuation byte, whatever the lead before it. -/
theorem inRange_ascii {a : UInt8} (ha : a.toNat < 0x80) {lo hi : Nat} (hlo : 0x80 ≤ lo) :
    inRange lo hi a = false := by
  simp only [inRange, Bool.and_eq_false_iff, decide_eq_false_iff_not]
  omega

/-- A sequence never reaches across an ASCII byte: what comes after it is not looked at. -/
theorem sequence?_append_ascii (b : UInt8) (x : List UInt8) {a : UInt8} (ha : a.toNat < 0x80)
    (y : List UInt8) : sequence? b (x ++ a :: y) = sequence? b x := by
  have h1 : inRange 0x80 0xBF a = false := inRange_ascii ha (Nat.le_refl _)
  have h2 : inRange (secondRange b.toNat).1 (secondRange b.toNat).2 a = false :=
    inRange_ascii ha (secondRange_lo b.toNat)
  -- a sequence looks at three bytes after its lead at most
  rcases x with _ | ⟨x1, _ | ⟨x2, _ | ⟨x3, t⟩⟩⟩ <;> rcases y with _ | ⟨y1, _ | ⟨y2, t⟩⟩ <;>
    simp [sequence?, h1, h2]

theorem sequence?_ascii {a : UInt8} (ha : a.toNat < 0x80) (rest : List UInt8) :
    sequence? a rest = some (Char.ofNat a.toNat, 0) := by
  simp [sequence?, ha]

/-! ### Whole byte strings -/

@[simp] theorem decode_nil : decode [] = [] := by
  rw [decode]

theorem decode_cons_of_sequence? {b : UInt8} {rest : List UInt8} {c : Char} {k : Nat}
    (h : sequence? b rest = some (c, k)) :
    decode (b :: rest) = .char c :: decode (rest.drop k) := by
  rw [decode, h]

theorem decode_cons_of_sequence?_none {b : UInt8} {rest : List UInt8} (h : sequence? b rest = none) :
    decode (b :: rest) = .byte b :: decode rest := by
  rw [decode, h]

/-- **Encoding inverts lenient decoding**: the glyphs of any bytes are written back as the
same bytes. -/
theorem encode_decode (bs : List UInt8) : encode (decode bs) = bs := by
  fun_induction decode bs with
  | case1 => rfl
  | case2 b rest c k hs ih =>
    obtain ⟨-, he⟩ := encode_of_sequence? hs
    simp [encodeGlyph, he, ih]
  | case3 b rest hs ih => simp [encodeGlyph, ih]

theorem decode_injective {xs ys : List UInt8} (h : decode xs = decode ys) : xs = ys := by
  rw [← encode_decode xs, h, encode_decode]

/-- **An ASCII byte cuts the decoding in two**: it decodes to its own character, and the
bytes on either side decode as if the other side were not there. -/
theorem decode_append_ascii (x : List UInt8) {a : UInt8} (ha : a.toNat < 0x80) (y : List UInt8) :
    decode (x ++ a :: y) = decode x ++ .char (Char.ofNat a.toNat) :: decode y := by
  fun_induction decode x with
  | case1 => rw [List.nil_append, decode_cons_of_sequence? (sequence?_ascii ha y)]; rfl
  | case2 b rest c k hs ih =>
    have hk := (encode_of_sequence? hs).1
    have hs' : sequence? b (rest ++ a :: y) = some (c, k) := by
      rw [sequence?_append_ascii b rest ha y, hs]
    rw [List.cons_append, decode_cons_of_sequence? hs', List.drop_append_of_le_length hk, ih,
      List.cons_append]
  | case3 b rest hs ih =>
    have hs' : sequence? b (rest ++ a :: y) = none := by
      rw [sequence?_append_ascii b rest ha y, hs]
    rw [List.cons_append, decode_cons_of_sequence?_none hs', ih, List.cons_append]

theorem decode_concat_ascii (x : List UInt8) {a : UInt8} (ha : a.toNat < 0x80) :
    decode (x ++ [a]) = decode x ++ [.char (Char.ofNat a.toNat)] := by
  rw [decode_append_ascii x ha [], decode_nil]

/-- ASCII bytes decode one by one. -/
theorem decode_ascii (bs : List UInt8) (h : ∀ a ∈ bs, a.toNat < 0x80) :
    decode bs = bs.map fun a => .char (Char.ofNat a.toNat) := by
  induction bs with
  | nil => exact decode_nil
  | cons a bs ih =>
    have ha := h a List.mem_cons_self
    rw [← List.nil_append (a :: bs), decode_append_ascii [] ha bs, decode_nil,
      ih (fun x hx => h x (List.mem_cons_of_mem a hx))]
    rfl

/-- Decoding invents no ASCII character: one that appears was a byte of the input. -/
theorem mem_of_ascii_mem_decode {a : UInt8} (ha : a.toNat < 0x80) {bs : List UInt8}
    (h : Glyph.char (Char.ofNat a.toNat) ∈ decode bs) : a ∈ bs := by
  rw [← encode_decode bs, encode, List.mem_flatMap]
  exact ⟨_, h, by simp [encodeGlyph, encode_one ha]⟩

theorem decode_eq_nil_iff {bs : List UInt8} : decode bs = [] ↔ bs = [] := by
  constructor
  · intro h
    rw [← encode_decode bs, h, encode_nil]
  · rintro rfl
    exact decode_nil

/-- Glyphs that start with an ASCII character come from bytes that start with its byte. -/
theorem eq_cons_of_decode_eq_cons {a : UInt8} (ha : a.toNat < 0x80) {bs : List UInt8}
    {gs : List Glyph} (h : decode bs = .char (Char.ofNat a.toNat) :: gs) :
    bs = a :: encode gs := by
  rw [← encode_decode bs, h, encode_cons, encodeGlyph, encode_one ha, List.singleton_append]

end Utf8

end LuaListing
