import LuaListing.Opcode.Formula
import LuaListing.Opcode.Table
import LuaListing.Log

/-!
# Definitions texts

The instruction set of a Lua release is documented in the `OpCode` enumeration of its
`lopcodes.h`: one entry per line, `OP_NAME,` followed by a comment that gives the operands
the opcode prints and its formula:

    OP_LOADK,/*	A Bx	R(A) := Kst(Bx)					*/

An entry starts a line, after spaces or tabs.  Its name is the run of word characters after
`OP_`; then come spaces or tabs, an optional comma and spaces or tabs again, and then
possibly the comment, which runs to the first `*/` and may span lines.  Reading resumes at
the line after the end of the entry, so a second entry on the same line is not seen, and
lines inside a comment are part of it.  When no `*/` follows, the entry has no comment.

The comment, trimmed, begins with the signature: operand names, each followed by spaces or
tabs and not directly by a word character, `(` or `[`.  The rest is the formula, which is
put in canonical form; the operand types are read from it.

## Main definitions

* `Definitions.Entry`, `Definitions.entries` — the entries of a text.
* `Definitions.splitSignature` — signature and formula of a comment.
* `Definitions.describe` — the description an entry gives.
* `OpcodeTable.parse` — the table of a text, with its log records.
-/

namespace LuaListing

namespace Definitions

/-- One entry of a definitions text: the opcode's name and the text of its comment. -/
structure Entry where
  /-- The name after `OP_`. -/
  name : String
  /-- The text between `/*` and `*/`, when the entry has a comment. -/
  body : Option (List Char)
  deriving DecidableEq, Repr, Inhabited

/-- The text after the next line feed; empty when there is none. -/
def nextLine : List Char → List Char
  | [] => []
  | c :: rest => if c = '\n' then rest else nextLine rest

theorem nextLine_suffix : ∀ s : List Char, nextLine s <:+ s
  | [] => List.suffix_refl _
  | c :: rest => by
    unfold nextLine
    split
    · exact List.suffix_cons _ _
    · exact (nextLine_suffix rest).trans (List.suffix_cons _ _)

theorem nextLine_length_lt {r s : List Char} (hs : s ≠ []) (h : r <:+ s) :
    (nextLine r).length < s.length := by
  have hl := h.length_le
  match r, s with
  | [], [] => exact absurd rfl hs
  | [], _ :: _ => simp [nextLine]
  | c :: rest, _ =>
    have := (nextLine_suffix rest).length_le
    unfold nextLine
    split
    · simp only [List.length_cons] at hl ⊢
      omega
    · simp only [List.length_cons] at hl ⊢
      omega

/-- The text up to the first `*/`, and the text after it. -/
def commentBody : List Char → Option (List Char × List Char)
  | [] => none
  | '*' :: '/' :: rest => some ([], rest)
  | c :: rest => (commentBody rest).map fun p => (c :: p.1, p.2)

theorem commentBody_suffix {s b r : List Char} (h : commentBody s = some (b, r)) : r <:+ s := by
  induction s generalizing b r with
  | nil => simp [commentBody] at h
  | cons c rest ih =>
    unfold commentBody at h
    split at h
    · simp at h
    · rename_i heq
      simp only [Option.some.injEq, Prod.mk.injEq] at h
      obtain ⟨-, rfl⟩ := h
      simp only [List.cons.injEq] at heq
      obtain ⟨rfl, rfl⟩ := heq
      exact (List.suffix_cons _ _).trans (List.suffix_cons _ _)
    · rename_i heq
      simp only [List.cons.injEq] at heq
      obtain ⟨rfl, rfl⟩ := heq
      simp only [Option.map_eq_some_iff, Prod.mk.injEq] at h
      obtain ⟨p, hp, -, rfl⟩ := h
      exact (ih hp).trans (List.suffix_cons _ _)

/-- What follows a name: spaces or tabs, an optional comma, spaces or tabs. -/
def afterSeparator (t : List Char) : List Char :=
  let t1 := t.dropWhile isSpaceOrTab
  let t2 := if t1.head? = some ',' then t1.tail else t1
  t2.dropWhile isSpaceOrTab

theorem afterSeparator_suffix (t : List Char) : afterSeparator t <:+ t := by
  unfold afterSeparator
  dsimp only
  have h1 : t.dropWhile isSpaceOrTab <:+ t := List.dropWhile_suffix _
  split
  · exact (List.dropWhile_suffix _).trans ((List.tail_suffix _).trans h1)
  · exact (List.dropWhile_suffix _).trans h1

/-- The entry that starts a line, with the text after it; `none` when the line holds no
entry. -/
def entryAt (s : List Char) : Option (Entry × List Char) :=
  let t := s.dropWhile isSpaceOrTab
  if ['O', 'P', '_'].isPrefixOf t then
    let s2 := t.drop 3
    let name := s2.takeWhile isWordChar
    if name.isEmpty then none
    else
      let s3 := afterSeparator (s2.dropWhile isWordChar)
      let plain : Option (Entry × List Char) := some (⟨String.ofList name, none⟩, s3)
      if ['/', '*'].isPrefixOf s3 then
        match commentBody (s3.drop 2) with
        | some (body, rest) => some (⟨String.ofList name, some body⟩, rest)
        | none => plain
      else plain
  else none

theorem entryAt_suffix {s r : List Char} {e : Entry} (h : entryAt s = some (e, r)) :
    r <:+ s := by
  unfold entryAt at h
  dsimp only at h
  have h3 : afterSeparator (((s.dropWhile isSpaceOrTab).drop 3).dropWhile isWordChar) <:+ s :=
    (afterSeparator_suffix _).trans ((List.dropWhile_suffix _).trans
      ((List.drop_suffix _ _).trans (List.dropWhile_suffix _)))
  split at h
  · split at h
    · simp at h
    · split at h
      · split at h
        · rename_i hc
          simp only [Option.some.injEq, Prod.mk.injEq] at h
          obtain ⟨-, rfl⟩ := h
          exact (commentBody_suffix hc).trans ((List.drop_suffix _ _).trans h3)
        · simp only [Option.some.injEq, Prod.mk.injEq] at h
          obtain ⟨-, rfl⟩ := h
          exact h3
      · simp only [Option.some.injEq, Prod.mk.injEq] at h
        obtain ⟨-, rfl⟩ := h
        exact h3
  · simp at h

/-- The entries of a text that starts at the beginning of a line, in order. -/
def entries : List Char → List Entry
  | [] => []
  | c :: cs =>
    match h : entryAt (c :: cs) with
    | some (e, rest) =>
      have := nextLine_length_lt (List.cons_ne_nil c cs) (entryAt_suffix h)
      e :: entries (nextLine rest)
    | none =>
      have := nextLine_length_lt (List.cons_ne_nil c cs) (List.suffix_refl _)
      entries (nextLine (c :: cs))
  termination_by s => s.length
  decreasing_by all_goals (simp only [List.length_cons] at *; omega)

/-- Whether the text right after an operand name lets the name stand: it ends there or is
followed by something other than a word character, `(` or `[`. -/
def endsName : List Char → Bool
  | [] => true
  | x :: _ => !(isWordChar x || x == '(' || x == '[')

/-- The operand name that starts a signature, with the text after it. -/
def signatureOperand? (s : List Char) : Option (Operand × List Char) :=
  Operand.all.findSome? fun op =>
    if op.name.toList.isPrefixOf s && endsName (s.drop op.name.length) then
      some (op, s.drop op.name.length)
    else none

theorem name_length_pos (op : Operand) : 0 < op.name.length := by
  cases op <;> decide

/-- An operand is read where the text is its name followed by text that lets it stand. -/
theorem signatureOperand?_eq_some {s r : List Char} {op : Operand}
    (h : signatureOperand? s = some (op, r)) : s = op.name.toList ++ r ∧ endsName r = true := by
  obtain ⟨o, -, ho⟩ := List.exists_of_findSome?_eq_some h
  split at ho
  · rename_i hp
    obtain ⟨rfl, rfl⟩ := Prod.mk.inj (Option.some.inj ho)
    simp only [Bool.and_eq_true, List.isPrefixOf_iff_prefix] at hp
    obtain ⟨⟨t, rfl⟩, he⟩ := hp
    rw [← String.length_toList, List.drop_left] at he ⊢
    exact ⟨rfl, he⟩
  · cases ho

theorem signatureOperand?_length {s r : List Char} {op : Operand}
    (h : signatureOperand? s = some (op, r)) : r.length < s.length := by
  obtain ⟨rfl, -⟩ := signatureOperand?_eq_some h
  have := name_length_pos op
  simp only [List.length_append, String.length_toList]
  omega

/-- The signature at the start of a comment and the formula after it. -/
def splitSignature (s : List Char) : List Operand × List Char :=
  match h : signatureOperand? s with
  | some (op, r) =>
    have := signatureOperand?_length h
    have := length_dropWhile_le isSpaceOrTab r
    let rest := splitSignature (r.dropWhile isSpaceOrTab)
    (op :: rest.1, rest.2)
  | none => ([], s)
  termination_by s.length

/-- The description an entry gives, continuation lines of its formula opened by `indent`.
Without a comment there is no signature, formula or type; types are read only from a
non-empty formula. -/
def describe (indent : String) (e : Entry) : OpcodeInfo :=
  match e.body with
  | none => ⟨e.name, [], "", {}⟩
  | some body =>
    let parts := splitSignature (trim body)
    let doc := Formula.normalize (String.ofList parts.2) indent
    ⟨e.name, parts.1, doc, if doc = "" then {} else Formula.operandTypes doc⟩

/-- The debug records for entries without a comment. -/
def noDescription (e : Entry) : List Record :=
  match e.body with
  | none => [Record.debug (Glyph.ofString ("Opcode " ++ e.name ++ " has no description"))]
  | some _ => []

end Definitions

namespace OpcodeTable

/-- The table a definitions text gives, continuation lines of formulas opened by `indent`:
each entry's description inserted in text order, a later entry of a name replacing an
earlier one in place. -/
def ofText (text : String) (indent : String := "") : OpcodeTable :=
  (Definitions.entries text.toList).foldl (fun t e => t.insert (Definitions.describe indent e)) empty

/-- The table of a definitions text with the log records of reading it. -/
def parse (text : String) (indent : String := "") : OpcodeTable × List Record :=
  let es := Definitions.entries text.toList
  let table := ofText text indent
  (table, es.flatMap Definitions.noDescription ++
    [Record.debug (Glyph.ofString ("Parsed " ++ toString table.size ++ " opcode definitions"))])

end OpcodeTable

end LuaListing
