import Mathlib
import LuaListing.Proofs.InstructionLines

/-!
# Reading back printed headers

`luac -l -l` opens the code of each function with a header, and each symbol section with one:

    main <hello.lua:0,0> (4 instructions at 0x8064e68)
    constants (1) for 0x8064e68:

Both name the function by the same address token, and that token is what joins a function's
code to its sections.  This module shows that each header reads back as printed, with the
address exactly as printed: a function header for every source without `>`, every summary on
one line and every blank-free address, and a section header for every kind and count.  The
address is a blank-free run that only the end of the line closes, so an address may hold `)`
or `:`, and a summary may hold `)` and ` at `: an `at` inside the summary is followed by the
summary's own ` at `, which a blank-free address cannot take in.  The one condition is the
size of the count: with more than `maxDigits` digits the section header is refused.

## Main definitions

* `atText` — the ` at ` between a summary and the address.
* `FunctionHeader.print`, `SectionHeader.print` — the printed headers.

## Main results

* `addressAt_summary` — no `at` inside a summary opens an address.
* `addressAfterAt_summary` — the address after a summary is found.
* `FunctionHeader.read?_print_eq`, `SectionHeader.read?_print_eq` — each header reads back.
* `read?_print_headers` — both headers read back and give the same address.
-/

namespace LuaListing

/-! ### What the lexemes leave -/

namespace Lexeme

/-- A literal is read from a text that opens with it. -/
theorem eq_of_literal {s : String} {gs r : List Glyph} (h : literal s gs = some r) :
    gs = Glyph.ofString s ++ r := by
  unfold literal at h
  split at h
  · next hp =>
    obtain ⟨t, ht⟩ := List.isPrefixOf_iff_prefix.mp hp
    have hlen : (Glyph.ofString s).length = s.length := by
      simp [Glyph.ofString, String.length_toList]
    rw [← Option.some.inj h, ← ht, ← hlen, List.drop_left]
  · simp at h

/-- A run of blanks is read from a text that opens with it. -/
theorem eq_of_blanks1 {gs r : List Glyph} (h : blanks1 gs = some r) :
    ∃ b, gs = b ++ r ∧ b ≠ [] ∧ ∀ g ∈ b, g.isBlank = true := by
  unfold blanks1 at h
  split at h
  · next g rest =>
    split at h
    · next hg =>
      refine ⟨(g :: rest).takeWhile Glyph.isBlank, ?_, by simp [hg],
        fun x hx => List.mem_takeWhile_imp hx⟩
      rw [← Option.some.inj h, List.takeWhile_append_dropWhile]
    · simp at h
  · simp at h

end Lexeme

/-! ### Addresses -/

/-- A closing address is read from a blank-free run that ends in the closing character and is
followed only by blanks. -/
theorem eq_of_closedAddress {c : Char} {gs a : List Glyph} (h : closedAddress c gs = some a) :
    ∃ t, gs = a ++ .char c :: t ∧ a ≠ [] ∧ (∀ g ∈ a, g.isBlank = false) ∧
      ∀ g ∈ t, g.isBlank = true := by
  unfold closedAddress at h
  dsimp only at h
  split at h
  · next hc =>
    simp only [Bool.and_eq_true, beq_iff_eq] at hc
    obtain ⟨⟨hall, hlen⟩, hlast⟩ := hc
    obtain ⟨run', x, hrun⟩ := List.eq_nil_or_concat (gs.takeWhile fun g => !g.isBlank)
      |>.resolve_left (by rintro h0; rw [h0] at hlen; simp at hlen)
    rw [List.concat_eq_append] at hrun
    rw [hrun, List.getLast?_concat, Option.some.injEq] at hlast
    subst hlast
    rw [← Option.some.inj h, hrun, List.dropLast_concat]
    refine ⟨gs.dropWhile fun g => !g.isBlank, ?_, ?_, ?_, ?_⟩
    · calc gs = gs.takeWhile (fun g => !g.isBlank) ++ gs.dropWhile (fun g => !g.isBlank) :=
            List.takeWhile_append_dropWhile.symm
        _ = _ := by rw [hrun]; simp
    · rintro rfl
      rw [hrun] at hlen
      simp at hlen
    · intro g hg
      have := List.mem_takeWhile_imp (hrun ▸ List.mem_append_left [_] hg)
      simpa using this
    · simpa [Lexeme.allBlank] using hall
  · simp at h

/-- Of two ways to cut a text into a part that ends with a blank and a part without blanks,
there is only one. -/
theorem append_eq_append_of_blank {P Q P' Q' : List Glyph} (h : P ++ Q = P' ++ Q')
    (hP : ∀ g ∈ P.getLast?, g.isBlank = true) (hP' : ∀ g ∈ P'.getLast?, g.isBlank = true)
    (hQ : ∀ g ∈ Q, g.isBlank = false) (hQ' : ∀ g ∈ Q', g.isBlank = false) : P = P' := by
  rcases List.append_eq_append_iff.mp h with ⟨a', rfl, rfl⟩ | ⟨c', rfl, rfl⟩
  · cases a' using List.reverseRecOn with
    | nil => simp
    | append_singleton a' x =>
      have hx := hP' x (by simp [← List.append_assoc])
      rw [hQ x (by simp)] at hx
      exact Bool.noConfusion hx
  · cases c' using List.reverseRecOn with
    | nil => simp
    | append_singleton c' x =>
      have hx := hP x (by simp [← List.append_assoc])
      rw [hQ' x (by simp)] at hx
      exact Bool.noConfusion hx

/-- A blank-free address closed by `close` is the address of a header. -/
theorem closedAddress_append {close : Char} (hc : (Glyph.char close).isBlank = false)
    {address : List Glyph} (hne : address ≠ []) (haddr : ∀ g ∈ address, g.isBlank = false) :
    closedAddress close (address ++ [.char close]) = some address := by
  have hall : ∀ g ∈ address ++ [.char close], (!g.isBlank) = true := by
    intro g hg
    rcases List.mem_append.mp hg with hg | hg
    · simp [haddr g hg]
    · simp [List.mem_singleton.mp hg, hc]
  have hlen : (address ++ [Glyph.char close]).length ≥ 2 := by
    have := List.length_pos_of_ne_nil hne
    simp only [List.length_append, List.length_singleton]
    omega
  simp only [closedAddress, List.takeWhile_eq_self_iff.mpr hall,
    List.dropWhile_eq_nil_iff.mpr hall, hlen, List.getLast?_concat, List.dropLast_concat]
  simp [Lexeme.allBlank]

/-! ### The address of a function header -/

/-- The ` at ` that closes a summary. -/
def atText : List Glyph := Glyph.ofString " at "

theorem atText_eq : atText = [.char ' ', .char 'a', .char 't', .char ' '] := by decide

/-- **No `at` inside a summary opens the address.**  After an `a` of the summary come the
rest of the summary, ` at `, a blank-free address and `)`; for that to read as `t`, blanks and
a closing address, the blanks would have to swallow the `a` of the final ` at `. -/
theorem addressAt_summary (post : List Glyph) {address : List Glyph}
    (haddr : ∀ g ∈ address, g.isBlank = false) :
    ((Lexeme.literal "t" (post ++ (atText ++ (address ++ [.char ')'])))).bind
      fun r => (Lexeme.blanks1 r).bind (closedAddress ')')) = none := by
  cases hlit : Lexeme.literal "t" (post ++ (atText ++ (address ++ [.char ')']))) with
  | none => rfl
  | some r =>
  cases hb : Lexeme.blanks1 r with
  | none => simp [hb]
  | some r' =>
  cases hc : closedAddress ')' r' with
  | none => simp [hb, hc]
  | some a =>
  exfalso
  obtain ⟨b, rfl, hbne, hbl⟩ := Lexeme.eq_of_blanks1 hb
  obtain ⟨t, rfl, -, ha, ht⟩ := eq_of_closedAddress hc
  have hX := Lexeme.eq_of_literal hlit
  have hrp : (Glyph.char ')').isBlank = false := by decide
  -- the line ends with `)`, so nothing follows the address read here
  have ht0 : t = [] := by
    cases t using List.reverseRecOn with
    | nil => rfl
    | append_singleton t x =>
      have hlast := congrArg List.getLast? hX
      rw [show post ++ (atText ++ (address ++ [Glyph.char ')'])) =
            (post ++ atText ++ address) ++ [.char ')'] by simp,
        show Glyph.ofString "t" ++ (b ++ (a ++ Glyph.char ')' :: (t ++ [x]))) =
            (Glyph.ofString "t" ++ b ++ a ++ Glyph.char ')' :: t) ++ [x] by simp,
        List.getLast?_concat, List.getLast?_concat, Option.some.injEq] at hlast
      rw [hlast, ht x (by simp)] at hrp
      exact Bool.noConfusion hrp
  subst ht0
  -- cut both readings before the blank-free end of the line
  have hX' : (post ++ atText) ++ (address ++ [.char ')']) =
      (Glyph.ofString "t" ++ b) ++ (a ++ [.char ')']) := by
    simpa [List.append_assoc] using hX
  have hcut : post ++ atText = Glyph.ofString "t" ++ b := by
    refine append_eq_append_of_blank hX' ?_ ?_ ?_ ?_
    · intro g hg
      have hat : (post ++ atText).getLast? = some (.char ' ') := by
        simp [atText, Glyph.ofString, List.getLast?_append]
      simp only [hat, Option.mem_def, Option.some.injEq] at hg
      subst hg
      decide
    · intro g hg
      rw [List.getLast?_append_of_ne_nil _ hbne] at hg
      exact hbl g (List.mem_of_getLast? hg)
    · intro g hg
      rcases List.mem_append.mp hg with hg | hg
      · exact haddr g hg
      · simpa [List.mem_singleton.mp hg] using hrp
    · intro g hg
      rcases List.mem_append.mp hg with hg | hg
      · exact ha g hg
      · simpa [List.mem_singleton.mp hg] using hrp
  -- then the `a` of ` at ` would be one of the blanks
  have hmem : Glyph.char 'a' ∈ b := by
    have htail := congrArg List.tail hcut
    simp only [Glyph.ofString] at htail
    cases post with
    | nil => simp [atText, Glyph.ofString] at htail; simp [← htail]
    | cons p post => simp [atText, Glyph.ofString] at htail; simp [← htail]
  exact absurd (hbl _ hmem) (by decide)

/-- Scanning a summary on one line for `at`: where no `a` of it opens an address, the scan goes
on after it. -/
theorem addressAfterAt_append {s tail : List Glyph} (pw : Bool) (hlf : Glyph.char '\n' ∉ s)
    (hmiss : ∀ pre post, s = pre ++ .char 'a' :: post →
      ((Lexeme.literal "t" (post ++ tail)).bind
        fun r => (Lexeme.blanks1 r).bind (closedAddress ')')) = none) :
    ∃ pw', addressAfterAt pw (s ++ tail) = addressAfterAt pw' tail := by
  induction s generalizing pw with
  | nil => exact ⟨pw, rfl⟩
  | cons g s ih =>
    have hhere : (if !pw && g == .char 'a' then
        (Lexeme.literal "t" (s ++ tail)).bind fun r => (Lexeme.blanks1 r).bind (closedAddress ')')
      else none) = none := by
      split
      · next hg =>
        simp only [Bool.and_eq_true, beq_iff_eq] at hg
        exact hmiss [] s (by rw [hg.2]; rfl)
      · rfl
    have hg : (g == .char '\n') = false := by
      rw [beq_eq_false_iff_ne]
      rintro rfl
      exact hlf List.mem_cons_self
    rw [List.cons_append, addressAfterAt]
    rw [hhere]
    simp only [hg, Bool.false_eq_true, if_false]
    exact ih g.isWord (fun h => hlf (List.mem_cons_of_mem g h))
      (fun pre post h => hmiss (g :: pre) post (by rw [h]; rfl))

/-- The final ` at ` opens the address, whatever stands before it. -/
theorem addressAfterAt_atText (pw : Bool) {address : List Glyph} (hne : address ≠ [])
    (haddr : ∀ g ∈ address, g.isBlank = false) :
    addressAfterAt pw (atText ++ (address ++ [.char ')'])) = some address := by
  obtain ⟨g, gs, rfl⟩ := List.exists_cons_of_ne_nil hne
  have hb : Lexeme.blanks1 ([' '].map Glyph.char ++ (g :: gs ++ [.char ')'])) =
      some (g :: gs ++ [.char ')']) :=
    Lexeme.blanks1_run (by simp) (by simp [isSpaceOrTab])
      (by simpa using haddr g List.mem_cons_self)
  have hlit : Lexeme.literal "t" (.char 't' :: .char ' ' :: (g :: gs ++ [.char ')'])) =
      some (.char ' ' :: (g :: gs ++ [.char ')'])) :=
    Lexeme.literal_ofString "t" _
  have hc : closedAddress ')' (g :: gs ++ [.char ')']) = some (g :: gs) :=
    closedAddress_append (by decide) hne haddr
  have hsp : (Glyph.char ' ').isWord = false := by decide
  simp only [List.map_cons, List.map_nil, List.cons_append, List.nil_append] at hb hlit hc
  rw [atText_eq, List.cons_append, addressAfterAt]
  simp only [List.cons_append]
  rw [addressAfterAt]
  simp [hsp, hlit, hb, hc]

/-- **The address after a summary is found.**  Whatever `at`s a summary on one line holds, the
search stops at the ` at ` after it. -/
theorem addressAfterAt_summary (pw : Bool) {summary address : List Glyph}
    (hlf : Glyph.char '\n' ∉ summary) (hne : address ≠ [])
    (haddr : ∀ g ∈ address, g.isBlank = false) :
    addressAfterAt pw (summary ++ (atText ++ (address ++ [.char ')']))) = some address := by
  obtain ⟨pw', h⟩ := addressAfterAt_append pw hlf fun _ post _ => addressAt_summary post haddr
  rw [h, addressAfterAt_atText pw' hne haddr]

/-! ### The two headers -/

namespace FunctionHeader

/-- A function header as the listing prints it: the kind, `<source>`, and in parentheses the
summary, ` at ` and the address. -/
def print (afterKind afterSource : List Char) (kind : String) (source summary address : List Glyph) :
    List Glyph :=
  Glyph.ofString kind ++ (afterKind.map .char ++ (Glyph.ofString "<" ++ (source ++
    (Glyph.ofString ">" ++ (afterSource.map .char ++ (Glyph.ofString "(" ++
    (summary ++ (atText ++ (address ++ [.char ')'])))))))))

/-- The kind opens the header, and `main` is no beginning of `function`. -/
theorem read_kind {kind : String} (hkind : kind = "main" ∨ kind = "function")
    (rest : List Glyph) :
    (((Lexeme.literal "main" (Glyph.ofString kind ++ rest)).map fun r => ("main", r)) <|>
      ((Lexeme.literal "function" (Glyph.ofString kind ++ rest)).map fun r => ("function", r))) =
      some (kind, rest) := by
  rcases hkind with rfl | rfl
  · simp [Lexeme.literal_ofString]
  · have hmain : Lexeme.literal "main" (Glyph.ofString "function" ++ rest) = none := by
      simp [Lexeme.literal, Glyph.ofString, List.isPrefixOf]
    simp [hmain, Lexeme.literal_ofString]

/-- **A printed function header reads back**, with the address exactly as printed. -/
theorem read?_print_eq {afterKind afterSource : List Char} (hk : Instruction.IsSeparator afterKind)
    (hs : Instruction.IsSeparator afterSource) {kind : String}
    (hkind : kind = "main" ∨ kind = "function") {source summary address : List Glyph}
    (hsource : Glyph.char '>' ∉ source) (hsummary : Glyph.char '\n' ∉ summary)
    (hne : address ≠ []) (haddr : ∀ g ∈ address, g.isBlank = false) :
    read? (print afterKind afterSource kind source summary address) =
      some ⟨kind, source, address⟩ := by
  have hsrc : ∀ g ∈ source, (g != .char '>') = true := by
    intro g hg
    rw [bne_iff_ne]
    rintro rfl
    exact hsource hg
  unfold read? print
  rw [read_kind hkind]
  simp only [Option.bind_eq_bind, Option.bind_some]
  rw [Lexeme.blanks1_run hk.1 hk.2 (by simp [Glyph.ofString]; decide)]
  simp only [Option.bind_some]
  rw [Lexeme.literal_ofString]
  simp only [Option.bind_some]
  rw [List.takeWhile_append_of_pos hsrc, List.dropWhile_append_of_pos hsrc]
  -- the source runs to the first `>`
  have hgt : Glyph.ofString ">" = [.char '>'] := by decide
  have hstop : ∀ rest : List Glyph, (Glyph.char '>' :: rest).takeWhile (· != .char '>') = [] ∧
      (Glyph.char '>' :: rest).dropWhile (· != .char '>') = .char '>' :: rest := by
    intro rest
    simp
  rw [hgt, List.cons_append, (hstop _).1, (hstop _).2, List.append_nil, ← List.cons_append,
    ← hgt, Lexeme.literal_ofString]
  simp only [Option.bind_some]
  rw [Lexeme.blanks1_run hs.1 hs.2 (by simp [Glyph.ofString]; decide)]
  simp only [Option.bind_some]
  rw [Lexeme.literal_ofString]
  simp only [Option.bind_some]
  rw [addressAfterAt_summary false hsummary hne haddr]
  rfl

end FunctionHeader

namespace SectionHeader

/-- A section header as the listing prints it: the kind, `(count)`, `for` and the address
closed by `:`. -/
def print (afterKind afterCount afterFor : List Char) (kind : String) (count : Nat)
    (address : List Glyph) : List Glyph :=
  Glyph.ofString kind ++ (afterKind.map .char ++ (Glyph.ofString "(" ++
    (Glyph.ofString (toString count) ++ (Glyph.ofString ")" ++ (afterCount.map .char ++
    (Glyph.ofString "for" ++ (afterFor.map .char ++ (address ++ [.char ':']))))))))

/-- **A printed section header reads back**, unless its count is too long. -/
theorem read?_print_eq {afterKind afterCount afterFor : List Char}
    (hk : Instruction.IsSeparator afterKind) (hc : Instruction.IsSeparator afterCount)
    (hf : Instruction.IsSeparator afterFor) {kind : String} (hkind : Instruction.IsOpcodeName kind)
    (count : Nat) {address : List Glyph} (hne : address ≠ [])
    (haddr : ∀ g ∈ address, g.isBlank = false) :
    read? (print afterKind afterCount afterFor kind count address) =
      some (guardDigits [count] ⟨kind, count, address⟩) := by
  obtain ⟨g, tail, hgt, hg, -, htake, hdrop⟩ := Instruction.read_opcode hkind
    (hk.head (Glyph.ofString "(" ++ (Glyph.ofString (toString count) ++ (Glyph.ofString ")" ++
      (afterCount.map Glyph.char ++ (Glyph.ofString "for" ++ (afterFor.map Glyph.char ++
      (address ++ [Glyph.char ':'])))))))).2
  unfold read? print
  rw [hgt]
  simp only [hg, Bool.not_true, Bool.false_eq_true, if_false, hdrop, htake,
    Instruction.charsText_ofString]
  rw [Lexeme.blanks1_run hk.1 hk.2 (by simp [Glyph.ofString]; decide)]
  simp only [Option.bind_eq_bind, Option.bind_some]
  rw [Lexeme.literal_ofString]
  simp only [Option.bind_some]
  rw [Nat.toString_eq_repr, Lexeme.natural_repr count
    (by simp [Lexeme.NoDigitAt, Glyph.ofString]; decide)]
  simp only [Option.bind_some]
  rw [Lexeme.literal_ofString]
  simp only [Option.bind_some]
  rw [Lexeme.blanks1_run hc.1 hc.2 (by simp [Glyph.ofString]; decide)]
  simp only [Option.bind_some]
  rw [Lexeme.literal_ofString]
  simp only [Option.bind_some]
  rw [Lexeme.blanks1_run hf.1 hf.2 fun g hg =>
    haddr g (List.mem_of_head? (by rwa [List.head?_append_of_ne_nil _ hne] at hg))]
  simp only [Option.bind_some]
  rw [closedAddress_append (by decide) hne haddr]
  simp only [Option.bind_some, Numeral.toNat_ofNat, guardDigits_map]
  rfl

end SectionHeader

/-- A kind written like an opcode name: `constants`. -/
theorem isOpcodeName_constants : Instruction.IsOpcodeName "constants" :=
  ⟨'c', "onstants".toList, by decide, by decide, by simp [isWordChar]⟩

/-- A count of `maxDigits + 1` digits: the section header is refused. -/
theorem SectionHeader.read?_print_long_count :
    SectionHeader.read? (SectionHeader.print [' '] [' '] [' '] "constants" (10 ^ maxDigits)
      (Glyph.ofString "0x1")) = some (.error ⟨maxDigits + 1⟩) := by
  have hs : Instruction.IsSeparator [' '] := by simp [Instruction.IsSeparator, isSpaceOrTab]
  rw [SectionHeader.read?_print_eq hs hs hs isOpcodeName_constants _ (by decide) (by decide)]
  simp [guardDigits, fitsDigits_ten_pow, length_toDigits_ten_pow]

/-- **Printed headers read back and share their address.**  For every spacing by runs of
spaces and tabs, a function header of kind `main` or `function`, with a source without `>`
and a summary on one line, reads back as its kind, source and address; a section header of
any kind reads back as its kind, count and address, unless the count has more than
`maxDigits` digits; and when the count fits, the two headers printed with one address token
give equal addresses. -/
theorem read?_print_headers (afterKind afterSource : List Char)
    (hk : Instruction.IsSeparator afterKind) (hs : Instruction.IsSeparator afterSource)
    (kind : String) (hkind : kind = "main" ∨ kind = "function") (source summary : List Glyph)
    (hsource : Glyph.char '>' ∉ source) (hsummary : Glyph.char '\n' ∉ summary)
    (address : List Glyph) (hne : address ≠ []) (haddr : ∀ g ∈ address, g.isBlank = false)
    (afterSection afterCount afterFor : List Char) (hsk : Instruction.IsSeparator afterSection)
    (hc : Instruction.IsSeparator afterCount) (hf : Instruction.IsSeparator afterFor)
    (sectionKind : String) (hsection : Instruction.IsOpcodeName sectionKind) (count : Nat) :
    FunctionHeader.read? (FunctionHeader.print afterKind afterSource kind source summary address) =
        some ⟨kind, source, address⟩ ∧
      SectionHeader.read? (SectionHeader.print afterSection afterCount afterFor sectionKind count
        address) = some (guardDigits [count] ⟨sectionKind, count, address⟩) ∧
      (fitsDigits count = true →
        ∃ fh sh, FunctionHeader.read? (FunctionHeader.print afterKind afterSource kind source
            summary address) = some fh ∧
          SectionHeader.read? (SectionHeader.print afterSection afterCount afterFor sectionKind
            count address) = some (.ok sh) ∧
          sh = ⟨sectionKind, count, address⟩ ∧ fh.address = sh.address) := by
  have hfun := FunctionHeader.read?_print_eq hk hs hkind hsource hsummary hne haddr
  have hsec := SectionHeader.read?_print_eq hsk hc hf hsection count hne haddr
  refine ⟨hfun, hsec, fun hfit => ⟨_, _, hfun, ?_, rfl, rfl⟩⟩
  rw [hsec, guardDigits_of_all (by simpa using hfit)]

/-- A summary holding ` at ` and `)`, and an address holding `)` and `:`. -/
theorem read?_print_headers_nested_at :
    Glyph.char '>' ∉ Glyph.ofString "t.lua:3,5" ∧ Glyph.char '\n' ∉ Glyph.ofString "2 at x) at y" ∧
      (∀ g ∈ Glyph.ofString "0x5:1)", g.isBlank = false) ∧
      FunctionHeader.read? (FunctionHeader.print [' '] ['\t'] "function"
          (Glyph.ofString "t.lua:3,5") (Glyph.ofString "2 at x) at y") (Glyph.ofString "0x5:1)")) =
        some ⟨"function", Glyph.ofString "t.lua:3,5", Glyph.ofString "0x5:1)"⟩ ∧
      SectionHeader.read? (SectionHeader.print [' '] [' '] ['\t'] "constants" 1
        (Glyph.ofString "0x5:1)")) = some (.ok ⟨"constants", 1, Glyph.ofString "0x5:1)"⟩) := by
  have hs : Instruction.IsSeparator [' '] := by simp [Instruction.IsSeparator, isSpaceOrTab]
  have ht : Instruction.IsSeparator ['\t'] := by simp [Instruction.IsSeparator, isSpaceOrTab]
  have hsource : Glyph.char '>' ∉ Glyph.ofString "t.lua:3,5" := by decide
  have hsummary : Glyph.char '\n' ∉ Glyph.ofString "2 at x) at y" := by decide
  have haddr : ∀ g ∈ Glyph.ofString "0x5:1)", g.isBlank = false := by decide
  obtain ⟨hfun, -, hsec⟩ := read?_print_headers [' '] ['\t'] hs ht "function" (.inr rfl)
    (Glyph.ofString "t.lua:3,5") (Glyph.ofString "2 at x) at y") hsource hsummary
    (Glyph.ofString "0x5:1)") (by decide) haddr [' '] [' '] ['\t'] hs hs ht "constants"
    isOpcodeName_constants 1
  obtain ⟨fh, sh, hfh, hsh, rfl, -⟩ := hsec (by decide)
  exact ⟨hsource, hsummary, haddr, hfun, hsh⟩

end LuaListing
