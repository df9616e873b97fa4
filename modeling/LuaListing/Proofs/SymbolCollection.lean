import Mathlib.Data.List.Induction
import LuaListing.Listing.Symbols

/-!
# What the first pass collects

The first pass reads a listing one line at a time with two states, inside a section or
outside one.  Said of the lines alone, without the machine: a *section header* is a line
that does not start with a blank and reads as `kind (count) for address:`; the lines that
start with a blank right after it are the *rows* of its section.  After any lines,

* a section is open exactly when the last line that does not start with a blank is a
  section header, and it is that header's section;
* there is one table for each address that a header names, in the order the addresses
  first appear, and its table has the address;
* a table lists the kinds of the sections of its address; the count is not used;
* a constant (or an upvalue) of index `i` is the name of the last row of index `i` in a
  `constants` (or `upvalues`) section of the address, and a local of index `i` the last
  row of index `i` in a `locals` section whose first two integers make a range that is not
  inverted.

A line whose numeral has too many digits stops the pass: a section header's count, or a
row's numerals when the row lies in a section.  The pass reads every line before the first
such line.

## Main definitions

* `Collector.headerOf?`, `Collector.headers` — section headers.
* `Collector.sectionAfter` — the section that some lines leave open.
* `Collector.withBefore`, `Collector.rows` — each line with the lines before it; the rows.
* `Collector.failsAt`, `Collector.Readable` — lines that stop the pass.
* `Collector.Reads` — what the collector holds after some lines.

## Main results

* `Collector.feed_reads` — one line keeps `Reads`, or stops the pass exactly when it
  cannot be read.
* `Collector.first_pass_reads_blocks` — the whole pass over any lines.
-/

namespace LuaListing

namespace Collector

/-! ### The lines, read without the machine -/

/-- Whether a reading met a numeral with too many digits. -/
def refused {α : Type} : Option (Except DigitLimitError α) → Bool
  | some (.error _) => true
  | _ => false

/-- The section header of a line that does not start with a blank and reads as one. -/
def headerOf? (line : List Glyph) : Option SectionHeader :=
  if startsWithBlank line then none
  else
    match SectionHeader.read? line with
    | some (.ok h) => some h
    | _ => none

/-- The section headers among some lines, in order. -/
def headers (p : List (List Glyph)) : List SectionHeader := p.filterMap headerOf?

/-- The section that the lines `p` leave open: the kind and address of the last of them that
does not start with a blank, when it is a section header. -/
def sectionAfter (p : List (List Glyph)) : Option (String × List Glyph) :=
  (((p.filter fun l => !startsWithBlank l).getLast?).bind headerOf?).map fun h =>
    (h.kind, h.address)

/-- Each line of a list with the lines before it, `before` coming first. -/
def withBefore (before : List (List Glyph)) :
    List (List Glyph) → List (List (List Glyph) × List Glyph)
  | [] => []
  | line :: q => (before, line) :: withBefore (before ++ [line]) q

/-- The row a line gives after the lines `before`: a line that starts with a blank and reads
as a section entry, while a section is open; with that section. -/
def rowAt (before : List (List Glyph)) (line : List Glyph) :
    Option ((String × List Glyph) × SectionEntry) :=
  if startsWithBlank line then
    match sectionAfter before, SectionEntry.read? line with
    | some s, some (.ok e) => some (s, e)
    | _, _ => none
  else none

/-- The rows among some lines, in order, each with its section. -/
def rows (p : List (List Glyph)) : List ((String × List Glyph) × SectionEntry) :=
  (withBefore [] p).filterMap fun x => rowAt x.1 x.2

/-- Whether a line read after the lines `before` meets a numeral with too many digits: the
count of a section header, or a numeral of a row when a section is open. -/
def failsAt (before : List (List Glyph)) (line : List Glyph) : Bool :=
  if startsWithBlank line then (sectionAfter before).isSome && refused (SectionEntry.read? line)
  else refused (SectionHeader.read? line)

/-- Every line can be read after the lines before it. -/
def Readable (p : List (List Glyph)) : Prop := ∀ x ∈ withBefore [] p, failsAt x.1 x.2 = false

/-- The name of the last row of index `i` in a section of kind `kind` for `address`. -/
def lastName (rs : List ((String × List Glyph) × SectionEntry)) (kind : String)
    (address : List Glyph) (i : Int) : Option (List Glyph) :=
  ((rs.filter fun r => r.1 == (kind, address) && r.2.index == i).getLast?).map (·.2.name)

/-- The local a row describes: its name over the range of its first two integers, when it
has two and the range is not inverted. -/
def localOf? (e : SectionEntry) : Option LocalVar :=
  match e.numbers with
  | start :: stop :: _ => (LocalVar.make? e.name start stop).toOption
  | _ => none

/-- The local of the last row of index `i`, in a `locals` section for `address`, that
describes one. -/
def lastLocal (rs : List ((String × List Glyph) × SectionEntry)) (address : List Glyph)
    (i : Int) : Option LocalVar :=
  ((rs.filter fun r => r.1 == ("locals", address) && r.2.index == i).filterMap
    fun r => localOf? r.2).getLast?

/-- What the collector holds after the lines `p`, said of the lines. -/
structure Reads (p : List (List Glyph)) (c : Collector) : Prop where
  /-- The open section is the one the last line without a leading blank opened. -/
  current : c.current = sectionAfter p
  /-- One table per address named by a header, in order of first appearance. -/
  addresses : c.tables.map (·.address) = ((headers p).map (·.address)).eraseDups
  /-- A table lists the kinds of the sections of its address. -/
  sections : ∀ a t, c.table? a = some t →
    ∀ k, k ∈ t.sections ↔ (k, a) ∈ (headers p).map fun h => (h.kind, h.address)
  /-- A constant is the last row of its index in a `constants` section of the address. -/
  constants : ∀ a t, c.table? a = some t → ∀ i, t.constant? i = lastName (rows p) "constants" a i
  /-- An upvalue is the last row of its index in an `upvalues` section of the address. -/
  upvalues : ∀ a t, c.table? a = some t → ∀ i, t.upvalue? i = lastName (rows p) "upvalues" a i
  /-- A local is the last row of its index in a `locals` section that describes one. -/
  locals : ∀ a t, c.table? a = some t → ∀ i, t.locals.get? i = lastLocal (rows p) a i

/-! ### One more line -/

theorem withBefore_append (before q : List (List Glyph)) (line : List Glyph) :
    withBefore before (q ++ [line]) = withBefore before q ++ [(before ++ q, line)] := by
  induction q generalizing before with
  | nil => simp [withBefore]
  | cons l q ih => simp [withBefore, ih]

theorem headers_append (p : List (List Glyph)) (line : List Glyph) :
    headers (p ++ [line]) = headers p ++ (headerOf? line).toList := by
  unfold headers
  rw [List.filterMap_append]
  cases h : headerOf? line <;> simp [h]

theorem sectionAfter_append (p : List (List Glyph)) (line : List Glyph) :
    sectionAfter (p ++ [line]) =
      if startsWithBlank line then sectionAfter p
      else (headerOf? line).map fun h => (h.kind, h.address) := by
  unfold sectionAfter
  by_cases hb : startsWithBlank line <;> simp [hb, List.filter_append]

theorem rows_append (p : List (List Glyph)) (line : List Glyph) :
    rows (p ++ [line]) = rows p ++ (rowAt p line).toList := by
  simp only [rows, withBefore_append, List.filterMap_append, List.nil_append]
  cases h : rowAt p line <;> simp [h]

theorem readable_append (p : List (List Glyph)) (line : List Glyph) :
    Readable (p ++ [line]) ↔ Readable p ∧ failsAt p line = false := by
  simp [Readable, withBefore_append, or_imp, forall_and]

theorem readable_nil : Readable [] := by simp [Readable, withBefore]

theorem lastName_append (rs : List ((String × List Glyph) × SectionEntry))
    (r : (String × List Glyph) × SectionEntry) (kind : String) (address : List Glyph) (i : Int) :
    lastName (rs ++ [r]) kind address i =
      if r.1 = (kind, address) ∧ r.2.index = i then some r.2.name
      else lastName rs kind address i := by
  unfold lastName
  by_cases h : r.1 = (kind, address) ∧ r.2.index = i
  · simp [h, List.filter_append]
  · have : (r.1 == (kind, address) && r.2.index == i) = false := by
      simpa using h
    simp [h, List.filter_append, this]

theorem lastLocal_append (rs : List ((String × List Glyph) × SectionEntry))
    (r : (String × List Glyph) × SectionEntry) (address : List Glyph) (i : Int) :
    lastLocal (rs ++ [r]) address i =
      if r.1 = ("locals", address) ∧ r.2.index = i then (localOf? r.2).or (lastLocal rs address i)
      else lastLocal rs address i := by
  unfold lastLocal
  by_cases h : r.1 = ("locals", address) ∧ r.2.index = i
  · simp only [h, List.filter_append]
    cases hl : localOf? r.2 <;> simp [h, hl]
  · have : (r.1 == ("locals", address) && r.2.index == i) = false := by
      simpa using h
    simp [h, List.filter_append, this]

/-! ### Facts of the lines -/

theorem headerOf?_of_blank {line : List Glyph} (hb : startsWithBlank line = true) :
    headerOf? line = none := by
  simp [headerOf?, hb]

theorem rowAt_of_not_blank (p : List (List Glyph)) {line : List Glyph}
    (hb : startsWithBlank line = false) : rowAt p line = none := by
  simp [rowAt, hb]

/-- The open section is one that a header named. -/
theorem sectionAfter_mem {p : List (List Glyph)} {s : String × List Glyph}
    (h : sectionAfter p = some s) : s ∈ (headers p).map fun h => (h.kind, h.address) := by
  unfold sectionAfter at h
  obtain ⟨hd, hhd, rfl⟩ := Option.map_eq_some_iff.mp h
  obtain ⟨l, hl, hlh⟩ := Option.bind_eq_some_iff.mp hhd
  have hlp : l ∈ p := (List.mem_filter.mp (List.mem_of_getLast? hl)).1
  exact List.mem_map.mpr ⟨hd, List.mem_filterMap.mpr ⟨l, hlp, hlh⟩, rfl⟩

theorem headers_subset_of_prefix {p q : List (List Glyph)} (h : p <+: q) :
    headers p ⊆ headers q := by
  obtain ⟨r, rfl⟩ := h
  simp [headers, List.filterMap_append]

/-- Every row lies in a section that a header named. -/
theorem rows_section_mem {p : List (List Glyph)} {r : (String × List Glyph) × SectionEntry}
    (h : r ∈ rows p) : r.1 ∈ (headers p).map fun h => (h.kind, h.address) := by
  induction p using List.reverseRecOn with
  | nil => simp [rows, withBefore] at h
  | append_singleton p line ih =>
    rw [rows_append, List.mem_append] at h
    have hsub := headers_subset_of_prefix (List.prefix_append p [line])
    rcases h with h | h
    · obtain ⟨hd, hhd, heq⟩ := List.mem_map.mp (ih h)
      exact List.mem_map.mpr ⟨hd, hsub hhd, heq⟩
    · -- the new row lies in the section open before its line
      have hr : rowAt p line = some r := by simpa using h
      unfold rowAt at hr
      split at hr
      · split at hr
        · next s e hs he =>
          obtain rfl := Option.some.inj hr
          obtain ⟨hd, hhd, heq⟩ := List.mem_map.mp (sectionAfter_mem hs)
          exact List.mem_map.mpr ⟨hd, hsub hhd, heq⟩
        · contradiction
      · contradiction

/-- Rows that all lie in sections of other addresses have none in a section for `address`. -/
theorem filter_section_eq_nil {rs : List ((String × List Glyph) × SectionEntry)}
    {kind : String} {address : List Glyph} (h : ∀ r ∈ rs, r.1.2 ≠ address) (i : Int) :
    rs.filter (fun r => r.1 == (kind, address) && r.2.index == i) = [] := by
  rw [List.filter_eq_nil_iff]
  intro r hr hrk
  simp only [Bool.and_eq_true, beq_iff_eq] at hrk
  exact h r hr (by rw [hrk.1])

theorem lastName_eq_none {rs : List ((String × List Glyph) × SectionEntry)} {kind : String}
    {address : List Glyph} (h : ∀ r ∈ rs, r.1.2 ≠ address) (i : Int) :
    lastName rs kind address i = none := by
  unfold lastName
  rw [filter_section_eq_nil h]
  rfl

theorem lastLocal_eq_none {rs : List ((String × List Glyph) × SectionEntry)}
    {address : List Glyph} (h : ∀ r ∈ rs, r.1.2 ≠ address) (i : Int) :
    lastLocal rs address i = none := by
  unfold lastLocal
  rw [filter_section_eq_nil h]
  rfl

/-! ### The tables, one update at a time -/

/-- Changing the table of an address keeps the addresses, or adds it at the end. -/
theorem update_map_address (ts : List SymbolTable) (a : List Glyph)
    (f : SymbolTable → SymbolTable) (hf : ∀ t, t.address = a → (f t).address = a) :
    (update ts a f).map (·.address) = ts.map (·.address) ++ ([a].removeAll (ts.map (·.address))) := by
  unfold update
  split
  · next hany =>
    have hmem : a ∈ ts.map (·.address) := by
      obtain ⟨t, ht, hta⟩ := List.any_eq_true.mp hany
      exact List.mem_map.mpr ⟨t, ht, by simpa using hta⟩
    simp only [List.map_map, List.removeAll, List.filter_cons, List.filter_nil]
    simp only [List.elem_eq_mem, hmem, decide_true, Bool.not_true, Bool.false_eq_true,
      ↓reduceIte, List.append_nil]
    apply List.map_congr_left
    intro t _
    simp only [Function.comp]
    split
    · next h =>
      have ht : t.address = a := by simpa using h
      rw [hf t ht, ht]
    · rfl
  · next hany =>
    have hmem : ¬ ∃ t ∈ ts, t.address = a := by
      rintro ⟨t, ht, hta⟩
      exact hany (List.any_eq_true.mpr ⟨t, ht, by simp [hta]⟩)
    simp [List.removeAll, hmem, hf]

/-- The table of an address after changing the table of `a`. -/
theorem find?_update (ts : List SymbolTable) (a b : List Glyph)
    (f : SymbolTable → SymbolTable) (hf : ∀ t, t.address = a → (f t).address = a) :
    (update ts a f).find? (fun t => t.address == b) =
      if b = a then some (f ((ts.find? fun t => t.address == a).getD { address := a }))
      else ts.find? fun t => t.address == b := by
  unfold update
  split
  · next hany =>
    rw [List.find?_map]
    have hsame : ((fun t : SymbolTable => t.address == b) ∘
        fun t => if t.address == a then f t else t) = fun t => t.address == b := by
      funext t
      simp only [Function.comp]
      split
      · next h => simp [hf t (by simpa using h), (by simpa using h : t.address = a)]
      · rfl
    rw [hsame]
    split
    · next hb =>
      subst hb
      obtain ⟨t, ht⟩ : ∃ t, ts.find? (fun t => t.address == b) = some t := by
        obtain ⟨t, htm, hta⟩ := List.any_eq_true.mp hany
        exact Option.isSome_iff_exists.mp (List.find?_isSome.mpr ⟨t, htm, hta⟩)
      have hta : t.address = b := by simpa using List.find?_some ht
      simp [ht, hta]
    · next hb =>
      cases ht : ts.find? (fun t => t.address == b) with
      | none => rfl
      | some t =>
        have hta : t.address = b := by simpa using List.find?_some ht
        have hna : ¬ t.address = a := by rw [hta]; exact hb
        simp [hna]
  · next hany =>
    rw [List.find?_append]
    have hnone : ts.find? (fun t => t.address == a) = none := by
      rw [List.find?_eq_none]
      intro t ht hta
      exact hany (List.any_eq_true.mpr ⟨t, ht, hta⟩)
    split
    · next hb =>
      subst hb
      simp [hnone, hf]
    · next hb =>
      have : ((f { address := a }).address == b) = false := by simp [hf, Ne.symm hb]
      simp [this]

end Collector

namespace SymbolTable

/-! ### Storing one row -/

theorem store_address (t : SymbolTable) (kind : String) (e : SectionEntry) :
    (t.store kind e).1.address = t.address := by
  unfold store
  repeat' split
  all_goals rfl

theorem store_sections (t : SymbolTable) (kind : String) (e : SectionEntry) :
    (t.store kind e).1.sections = t.sections := by
  unfold store
  repeat' split
  all_goals rfl

theorem constant?_store (t : SymbolTable) (kind : String) (e : SectionEntry) (i : Int) :
    (t.store kind e).1.constant? i =
      if kind = "constants" ∧ i = e.index then some e.name else t.constant? i := by
  unfold store
  by_cases hc : kind = "constants"
  · simp [hc, constant?]
  · simp only [hc, false_and, if_false]
    repeat' split
    all_goals rfl

theorem upvalue?_store (t : SymbolTable) (kind : String) (e : SectionEntry) (i : Int) :
    (t.store kind e).1.upvalue? i =
      if kind = "upvalues" ∧ i = e.index then some e.name else t.upvalue? i := by
  unfold store
  by_cases hu : kind = "upvalues"
  · simp [hu, upvalue?]
  · simp only [hu, false_and, if_false]
    repeat' split
    all_goals rfl

theorem locals_get?_store (t : SymbolTable) (kind : String) (e : SectionEntry) (i : Int) :
    (t.store kind e).1.locals.get? i =
      if kind = "locals" ∧ i = e.index then (Collector.localOf? e).or (t.locals.get? i)
      else t.locals.get? i := by
  unfold store
  by_cases hl : kind = "locals"
  · subst hl
    simp only [Collector.localOf?, true_and, if_neg (by decide : ¬ "locals" = "constants"),
      if_neg (by decide : ¬ "locals" = "upvalues"), if_true]
    split
    · next start stop rest hn =>
      cases hm : LocalVar.make? e.name start stop with
      | ok l => by_cases hi : i = e.index <;> simp [hi, hn, hm, Except.toOption]
      | error err => simp [hn, hm, Except.toOption]
    · simp
  · simp only [hl, false_and, if_false]
    repeat' split
    all_goals rfl

end SymbolTable

namespace SymbolTable

theorem mem_insertKind (k k' : String) (ks : List String) :
    k ∈ insertKind k' ks ↔ k = k' ∨ k ∈ ks := by
  induction ks with
  | nil => simp [insertKind]
  | cons k'' rest ih =>
    unfold insertKind
    split
    · simp
    · split
      · next h => subst h; simp
      · simp [ih, or_left_comm]

end SymbolTable

namespace Collector

/-! ### What a step keeps -/

theorem table?_address {c : Collector} {a : List Glyph} {t : SymbolTable}
    (h : c.table? a = some t) : t.address = a := by
  simpa using List.find?_some h

/-- `[a].removeAll xs` is empty when `a` is among `xs`, and `[a]` otherwise. -/
theorem removeAll_singleton (a : List Glyph) (xs : List (List Glyph)) :
    [a].removeAll xs = if a ∈ xs then [] else [a] := by
  by_cases h : a ∈ xs <;> simp [List.removeAll, h]

namespace Reads

variable {p : List (List Glyph)} {c : Collector}

/-- The addresses with a table are those a header named. -/
theorem table?_isSome_iff (h : Reads p c) (a : List Glyph) :
    (c.table? a).isSome ↔ a ∈ (headers p).map (·.address) := by
  rw [← List.mem_eraseDups, ← h.addresses]
  unfold table?
  rw [List.find?_isSome]
  simp

/-- The address of a section that a header opened has a table. -/
theorem isSome_table?_of_mem (h : Reads p c) {k : String} {a : List Glyph}
    (hmem : (k, a) ∈ (headers p).map fun h => (h.kind, h.address)) : (c.table? a).isSome := by
  rw [h.table?_isSome_iff]
  obtain ⟨hd, hhd, heq⟩ := List.mem_map.mp hmem
  exact List.mem_map.mpr ⟨hd, hhd, by simp only [Prod.mk.injEq] at heq; exact heq.2⟩

/-- No row lies in a section of an address without a table. -/
theorem rows_address_ne (h : Reads p c) {a : List Glyph} (ha : c.table? a = none) :
    ∀ r ∈ rows p, r.1.2 ≠ a := by
  intro r hr hra
  have hsome := h.isSome_table?_of_mem (rows_section_mem hr)
  simp [hra, ha] at hsome

/-- The open section has a table. -/
theorem table?_current (h : Reads p c) {k : String} {a : List Glyph}
    (hcur : c.current = some (k, a)) : ∃ t, c.table? a = some t :=
  Option.isSome_iff_exists.mp (h.isSome_table?_of_mem (sectionAfter_mem (h.current ▸ hcur)))

/-- A line without a leading blank that is no section header closes the section. -/
theorem leave (h : Reads p c) {line : List Glyph} (hb : startsWithBlank line = false)
    (hh : headerOf? line = none) : Reads (p ++ [line]) { c with current := none } where
  current := by rw [sectionAfter_append, hb, hh]; rfl
  addresses := by rw [headers_append, hh]; simpa using h.addresses
  sections := by
    rw [headers_append, hh, Option.toList_none, List.append_nil]
    exact h.sections
  constants := by
    rw [rows_append, rowAt_of_not_blank p hb, Option.toList_none, List.append_nil]
    exact h.constants
  upvalues := by
    rw [rows_append, rowAt_of_not_blank p hb, Option.toList_none, List.append_nil]
    exact h.upvalues
  locals := by
    rw [rows_append, rowAt_of_not_blank p hb, Option.toList_none, List.append_nil]
    exact h.locals

/-- An indented line that gives no row changes nothing. -/
theorem skip (h : Reads p c) {line : List Glyph} (hb : startsWithBlank line = true)
    (hr : rowAt p line = none) : Reads (p ++ [line]) c where
  current := by rw [sectionAfter_append, hb]; exact h.current
  addresses := by rw [headers_append, headerOf?_of_blank hb]; simpa using h.addresses
  sections := by rw [headers_append, headerOf?_of_blank hb]; simpa using h.sections
  constants := by rw [rows_append, hr]; simpa using h.constants
  upvalues := by rw [rows_append, hr]; simpa using h.upvalues
  locals := by rw [rows_append, hr]; simpa using h.locals

/-- After a section header, the table of its address is the one before (or an empty one)
with the kind noted; every other table is as it was. -/
theorem table?_header {hd : SectionHeader} (b : List Glyph) :
    ({ tables := update c.tables hd.address (·.addSection hd.kind),
       current := some (hd.kind, hd.address) } : Collector).table? b =
      if b = hd.address then some (((c.table? b).getD { address := b }).addSection hd.kind)
      else c.table? b := by
  unfold table?
  dsimp only
  rw [find?_update _ _ _ (·.addSection hd.kind) (fun t ht => ht)]
  split
  · next hb => subst hb; rfl
  · rfl

/-- After a section header, a table holds the constants, upvalues and locals its address
had, and an address seen for the first time has none. -/
theorem values_header (h : Reads p c) {hd : SectionHeader} {b : List Glyph} {t : SymbolTable}
    (ht : ({ tables := update c.tables hd.address (·.addSection hd.kind),
             current := some (hd.kind, hd.address) } : Collector).table? b = some t) :
    (∃ t0, c.table? b = some t0 ∧ t.constants = t0.constants ∧ t.upvalues = t0.upvalues ∧
      t.locals = t0.locals) ∨
    ((∀ r ∈ rows p, r.1.2 ≠ b) ∧ t.constants = {} ∧ t.upvalues = {} ∧ t.locals = {}) := by
  rw [table?_header] at ht
  split at ht
  · obtain rfl := Option.some.inj ht
    cases hold : c.table? b with
    | none => exact .inr ⟨h.rows_address_ne hold, rfl, rfl, rfl⟩
    | some t0 => exact .inl ⟨t0, rfl, rfl, rfl, rfl⟩
  · exact .inl ⟨t, ht, rfl, rfl, rfl⟩

/-- A section header opens its section and notes its kind in the table of its address,
which it adds when the address is new. -/
theorem header (h : Reads p c) {line : List Glyph} {hd : SectionHeader}
    (hb : startsWithBlank line = false) (hr : SectionHeader.read? line = some (.ok hd)) :
    Reads (p ++ [line])
      { tables := update c.tables hd.address (·.addSection hd.kind),
        current := some (hd.kind, hd.address) } := by
  have hh : headerOf? line = some hd := by simp [headerOf?, hb, hr]
  have hrows : rows (p ++ [line]) = rows p := by simp [rows_append, rowAt_of_not_blank p hb]
  refine ⟨?_, ?_, ?_, ?_, ?_, ?_⟩
  · rw [sectionAfter_append, hb, hh]
    rfl
  · dsimp only
    rw [update_map_address _ _ (·.addSection hd.kind) (fun t ht => ht), h.addresses,
      removeAll_singleton, headers_append, hh, Option.toList_some, List.map_append,
      List.map_singleton, List.eraseDups_append, removeAll_singleton]
    simp only [List.mem_eraseDups]
    split <;> simp [List.eraseDups_cons]
  · intro b t ht k
    rw [headers_append, hh]
    simp only [Option.toList_some, List.map_append, List.map_cons, List.map_nil,
      List.mem_append, List.mem_singleton, Prod.mk.injEq]
    rw [table?_header] at ht
    split at ht
    · next hba =>
      subst hba
      obtain rfl := Option.some.inj ht
      rw [SymbolTable.addSection, SymbolTable.mem_insertKind]
      cases hold : c.table? hd.address with
      | none =>
        -- a new address: no earlier header named it
        have hnot : (k, hd.address) ∉ (headers p).map fun h => (h.kind, h.address) := by
          intro hmem
          simpa [hold] using h.isSome_table?_of_mem hmem
        simp [hnot]
      | some t0 =>
        simp only [Option.getD_some, h.sections hd.address t0 hold k]
        tauto
    · next hba =>
      rw [h.sections b t ht k]
      simp [hba]
  · intro b t ht i
    rw [hrows]
    rcases h.values_header ht with ⟨t0, ht0, hc, -, -⟩ | ⟨hno, hc, -, -⟩
    · rw [SymbolTable.constant?, hc]
      exact h.constants b t0 ht0 i
    · rw [SymbolTable.constant?, hc, lastName_eq_none hno]
      rfl
  · intro b t ht i
    rw [hrows]
    rcases h.values_header ht with ⟨t0, ht0, -, hu, -⟩ | ⟨hno, -, hu, -⟩
    · rw [SymbolTable.upvalue?, hu]
      exact h.upvalues b t0 ht0 i
    · rw [SymbolTable.upvalue?, hu, lastName_eq_none hno]
      rfl
  · intro b t ht i
    rw [hrows]
    rcases h.values_header ht with ⟨t0, ht0, -, -, hl⟩ | ⟨hno, -, -, hl⟩
    · rw [hl]
      exact h.locals b t0 ht0 i
    · rw [hl, lastLocal_eq_none hno]
      rfl

/-- A row of the open section is stored in the table of its address. -/
theorem row (h : Reads p c) {line : List Glyph} {k : String} {a : List Glyph}
    {e : SectionEntry} {t : SymbolTable} (hb : startsWithBlank line = true)
    (hcur : c.current = some (k, a)) (he : SectionEntry.read? line = some (.ok e))
    (ht : c.table? a = some t) :
    Reads (p ++ [line]) { c with tables := update c.tables a fun _ => (t.store k e).1 } := by
  have hta := table?_address ht
  have hf : ∀ t' : SymbolTable, t'.address = a → (t.store k e).1.address = a :=
    fun _ _ => by rw [SymbolTable.store_address, hta]
  have hrow : rowAt p line = some ((k, a), e) := by
    simp [rowAt, hb, ← h.current, hcur, he]
  have hrows : rows (p ++ [line]) = rows p ++ [((k, a), e)] := by rw [rows_append, hrow]; rfl
  have hheaders : headers (p ++ [line]) = headers p := by
    simp [headers_append, headerOf?_of_blank hb]
  -- the table of an address after the row
  have hfind : ∀ b, ({ c with tables := update c.tables a fun _ => (t.store k e).1 }).table? b =
      if b = a then some (t.store k e).1 else c.table? b := by
    intro b
    unfold table?
    dsimp only
    rw [find?_update _ _ _ _ hf]
  refine ⟨?_, ?_, ?_, ?_, ?_, ?_⟩
  · rw [sectionAfter_append, hb]
    exact h.current
  · dsimp only
    have ha : a ∈ c.tables.map (·.address) := by
      rw [h.addresses, List.mem_eraseDups, ← h.table?_isSome_iff]
      simp [ht]
    rw [update_map_address _ _ _ hf, removeAll_singleton, if_pos ha, List.append_nil,
      h.addresses, hheaders]
  · intro b t' ht' kind
    rw [hheaders]
    rw [hfind] at ht'
    split at ht'
    · next hba =>
      subst hba
      obtain rfl := Option.some.inj ht'
      rw [SymbolTable.store_sections]
      exact h.sections b t ht kind
    · exact h.sections b t' ht' kind
  · intro b t' ht' i
    rw [hrows, lastName_append]
    rw [hfind] at ht'
    split at ht'
    · next hba =>
      subst hba
      obtain rfl := Option.some.inj ht'
      rw [SymbolTable.constant?_store, h.constants b t ht i]
      simp [eq_comm]
    · next hba =>
      rw [h.constants b t' ht' i]
      simp [Ne.symm hba]
  · intro b t' ht' i
    rw [hrows, lastName_append]
    rw [hfind] at ht'
    split at ht'
    · next hba =>
      subst hba
      obtain rfl := Option.some.inj ht'
      rw [SymbolTable.upvalue?_store, h.upvalues b t ht i]
      simp [eq_comm]
    · next hba =>
      rw [h.upvalues b t' ht' i]
      simp [Ne.symm hba]
  · intro b t' ht' i
    rw [hrows, lastLocal_append]
    rw [hfind] at ht'
    split at ht'
    · next hba =>
      subst hba
      obtain rfl := Option.some.inj ht'
      rw [SymbolTable.locals_get?_store, h.locals b t ht i]
      simp [eq_comm]
    · next hba =>
      rw [h.locals b t' ht' i]
      simp [Ne.symm hba]

/-- The fresh collector reads no lines. -/
theorem nil : Reads [] ({} : Collector) where
  current := rfl
  addresses := rfl
  sections := by simp [table?]
  constants := by simp [table?]
  upvalues := by simp [table?]
  locals := by simp [table?]

end Reads

/-- **One more line.**  From a collector that reads the lines `p`, feeding a line fails
exactly when the line cannot be read after `p`; otherwise the collector then reads `p` and
the line. -/
theorem feed_reads {p : List (List Glyph)} {c : Collector} (h : Reads p c)
    (line : List Glyph) :
    match c.feed line with
    | .ok (c', _) => failsAt p line = false ∧ Reads (p ++ [line]) c'
    | .error _ => failsAt p line = true := by
  unfold feed
  cases hb : startsWithBlank line
  · -- a line without a leading blank opens a section or closes the open one
    simp only [Bool.not_false, if_true]
    cases hr : SectionHeader.read? line with
    | none =>
      exact ⟨by simp [failsAt, hb, hr, refused], h.leave hb (by simp [headerOf?, hb, hr])⟩
    | some r =>
      cases r with
      | error e => simp [failsAt, hb, hr, refused]
      | ok hd => exact ⟨by simp [failsAt, hb, hr, refused], h.header hb hr⟩
  · -- an indented line is a row of the open section, if any
    simp only [Bool.not_true, Bool.false_eq_true, if_false]
    cases hcur : c.current with
    | none =>
      have hs : sectionAfter p = none := h.current ▸ hcur
      exact ⟨by simp [failsAt, hb, hs], h.skip hb (by simp [rowAt, hb, hs])⟩
    | some s =>
      obtain ⟨k, a⟩ := s
      have hs : sectionAfter p = some (k, a) := h.current ▸ hcur
      cases he : SectionEntry.read? line with
      | none =>
        exact ⟨by simp [failsAt, hb, hs, he, refused], h.skip hb (by simp [rowAt, hb, hs, he])⟩
      | some r =>
        cases r with
        | error e => simp [failsAt, hb, hs, he, refused]
        | ok e =>
          obtain ⟨t, ht⟩ := h.table?_current hcur
          simp only [ht]
          exact ⟨by simp [failsAt, hb, hs, he, refused], hcur ▸ h.row hb hcur he ht⟩

/-- **A run over more lines.**  From a collector that reads `p`, running over `q` fails
exactly when a line of `q` cannot be read after the lines before it; otherwise it ends
reading `p ++ q`. -/
theorem run_reads {p : List (List Glyph)} {c : Collector} (h : Reads p c)
    (q : List (List Glyph)) :
    match Collector.run c q with
    | .ok (c', _) => (∀ x ∈ withBefore p q, failsAt x.1 x.2 = false) ∧ Reads (p ++ q) c'
    | .error _ => ∃ x ∈ withBefore p q, failsAt x.1 x.2 = true := by
  induction q generalizing p c with
  | nil => simpa [run, withBefore] using h
  | cons line q ih =>
    have hstep := feed_reads h line
    unfold run
    cases hf : c.feed line with
    | error e =>
      rw [hf] at hstep
      exact ⟨(p, line), by simp [withBefore], hstep⟩
    | ok r =>
      obtain ⟨c', rs⟩ := r
      rw [hf] at hstep
      obtain ⟨hok, h'⟩ := hstep
      have hrest := ih h'
      simp only [bind, Except.bind]
      cases hr : Collector.run c' q with
      | error e =>
        rw [hr] at hrest
        obtain ⟨x, hx, hfx⟩ := hrest
        exact ⟨x, by simp [withBefore, hx], hfx⟩
      | ok r' =>
        rw [hr] at hrest
        obtain ⟨hall, hreads⟩ := hrest
        refine ⟨?_, by simpa using hreads⟩
        intro x hx
        simp only [withBefore, List.mem_cons] at hx
        rcases hx with rfl | hx
        · exact hok
        · exact hall x hx

/-- **The first pass reads the blocks of a listing.**  Over any lines, the pass fails
exactly when some line cannot be read after the lines before it.  Otherwise the collector
holds what `Reads` says: the open section is the one the last unindented line opened, whose
table is stored; there is one table per address named by a section header, in order of
first appearance, and each has its address; a table lists the kinds of its address's
sections; its constants, upvalues and locals are those of the last rows of each index in
sections of those kinds, a local only from a row with a range that is not inverted. -/
theorem first_pass_reads_blocks (p : List (List Glyph)) :
    match Collector.run {} p with
    | .ok (c, _) =>
      Readable p ∧ Reads p c ∧ (∀ a t, c.table? a = some t → t.address = a) ∧
        ∀ k a, c.current = some (k, a) → ∃ t, c.table? a = some t
    | .error _ => ¬ Readable p := by
  have hrun := run_reads Reads.nil p
  cases hr : Collector.run {} p with
  | error e =>
    rw [hr] at hrun
    obtain ⟨x, hx, hfx⟩ := hrun
    intro hall
    simp [hall x hx] at hfx
  | ok r =>
    rw [hr] at hrun
    obtain ⟨hall, hreads⟩ := hrun
    rw [List.nil_append] at hreads
    exact ⟨hall, hreads, fun _ _ ht => table?_address ht,
      fun _ _ hcur => hreads.table?_current hcur⟩

/-- A row whose trailing integer has 4301 digits, in an open `constants` section, stops
the pass instead of naming the constant. -/
theorem run_fails_on_long_row_number :
    (Collector.run {} [Glyph.ofString "constants (1) for 0x1:",
      Glyph.ofString "\t1\tx\t" ++ List.replicate 4301 (.char '9')]).isOk = false := by
  decide +kernel

end Collector

end LuaListing
