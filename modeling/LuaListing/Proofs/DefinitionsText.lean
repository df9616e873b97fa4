import Mathlib.Data.List.Basic
import LuaListing.Opcode.Definitions
import LuaListing.Proofs.TableInsertion
import LuaListing.Proofs.FormulaEnds

/-!
# Reading back a written definitions text

Write a definitions text line by line from items: entries with a comment (a name, a
signature, a formula, and whether a comma follows the name), entries without one
(`OP_NAME,`), and lines that hold no entry.  Reading the text back finds exactly the
entries, in order; each entry's comment gives back its signature and formula; and the table
built from them lists the names in order of first occurrence and keeps, for each name, what
its last entry says.

This needs the formulas to be what the text can carry: in canonical form (so neither end is
blank, and trimming the comment leaves signature and formula), without `*/` (which would
close the comment early), and not starting with an operand name standing on its own (which
would be read as part of the signature).

## Main definitions

* `Definitions.Item`, `Definitions.Item.render`, `Definitions.render` — the written text.
* `Definitions.Item.Valid` — the conditions on an item.
* `Definitions.Item.info?` — the description an item stands for.

## Main results

* `Definitions.entries_render` — the entries read from a written text.
* `Definitions.describe_entry?` — what an item's entry describes.
* `Definitions.ofText_render` — the table read from a written text.
-/

namespace LuaListing

namespace Operand

theorem name_toList_ne_nil (op : Operand) : op.name.toList ≠ [] := by
  cases op <;> decide

theorem isWordChar_of_mem_name {op : Operand} {c : Char} (h : c ∈ op.name.toList) :
    isWordChar c = true := by
  cases op <;> revert c <;> simp [Operand.name, isWordChar]

theorem not_blank_of_mem_name {op : Operand} {c : Char} (h : c ∈ op.name.toList) :
    isBlankChar c = false := by
  cases op <;> revert c <;> simp [Operand.name, isBlankChar]

theorem eq_of_name_toList {op op' : Operand} (h : op.name.toList = op'.name.toList) : op = op' := by
  have h' : ofName? op.name = ofName? op'.name := by rw [String.toList_inj.mp h]
  rw [ofName?_name, ofName?_name] at h'
  exact Option.some.inj h'

end Operand

namespace Definitions

/-! ### Written texts -/

/-- One line of a written definitions text. -/
inductive Item where
  /-- An entry with a comment: name, signature, formula, and whether a comma follows the
  name. -/
  | entry (name : List Char) (signature : List Operand) (doc : List Char) (comma : Bool)
  /-- An entry without a comment. -/
  | bare (name : List Char)
  /-- A line that holds no entry. -/
  | filler (line : List Char)
  deriving DecidableEq, Repr

/-- A signature as written: the operand names separated by single spaces. -/
def signatureText (signature : List Operand) : List Char :=
  [' '].intercalate (signature.map (·.name.toList))

/-- The comment of an entry: a tab, the signature, a tab, the formula and a tab. -/
def comment (signature : List Operand) (doc : List Char) : List Char :=
  '\t' :: signatureText signature ++ '\t' :: (doc ++ ['\t'])

/-- How an item is written. -/
def Item.render : Item → List Char
  | .entry name signature doc comma =>
    'O' :: 'P' :: '_' :: name ++ (if comma then [','] else []) ++
      '/' :: '*' :: comment signature doc ++ ['*', '/']
  | .bare name => 'O' :: 'P' :: '_' :: name ++ [',']
  | .filler line => line

/-- The text of some items, one line each. -/
def render (items : List Item) : String :=
  String.ofList (['\n'].intercalate (items.map Item.render))

/-- The entry an item is meant to be read as. -/
def Item.entry? : Item → Option Entry
  | .entry name signature doc _ => some ⟨String.ofList name, some (comment signature doc)⟩
  | .bare name => some ⟨String.ofList name, none⟩
  | .filler _ => none

/-- The description an item stands for: its name, signature and formula in canonical form
with continuation lines opened by `indent`, and the types that formula shows. -/
def Item.info? (indent : String) : Item → Option OpcodeInfo
  | .entry name signature doc _ =>
    let d := Formula.normalize (String.ofList doc) indent
    some ⟨String.ofList name, signature, d, if d = "" then {} else Formula.operandTypes d⟩
  | .bare name => some ⟨String.ofList name, [], "", {}⟩
  | .filler _ => none

/-- A name of word characters. -/
def IsName (name : List Char) : Prop := name ≠ [] ∧ ∀ c ∈ name, isWordChar c = true

/-- The conditions on an item.  An entry's name is made of word characters.  A formula is in
canonical form, holds no `*/`, and starts with an operand name only when a word character,
`(` or `[` follows it.  A line holding no entry has no line feed and does not start, after
spaces or tabs, with `OP_` and a word character. -/
def Item.Valid : Item → Prop
  | .entry name _ doc _ =>
    IsName name ∧ Formula.normalize (String.ofList doc) = String.ofList doc ∧
      ¬ ['*', '/'] <:+: doc ∧
      ∀ (op : Operand) (rest : List Char), doc = op.name.toList ++ rest →
        ∃ x r, rest = x :: r ∧ (isWordChar x = true ∨ x = '(' ∨ x = '[')
  | .bare name => IsName name
  | .filler line =>
    '\n' ∉ line ∧
      ∀ w r, line.dropWhile isSpaceOrTab = 'O' :: 'P' :: '_' :: w :: r → isWordChar w = false

/-- What may follow an item in a text: nothing, or the line feed that ends its line. -/
def EndsLine (tail : List Char) : Prop := tail = [] ∨ ∃ rest, tail = '\n' :: rest

/-! ### Reading line by line -/

theorem nextLine_lf (rest : List Char) : nextLine ('\n' :: rest) = rest := by
  simp [nextLine]

theorem nextLine_append_of_not_mem {line : List Char} (h : '\n' ∉ line) (tail : List Char) :
    nextLine (line ++ tail) = nextLine tail := by
  induction line with
  | nil => rfl
  | cons c line ih =>
    have hc : c ≠ '\n' := fun e => h (e ▸ List.mem_cons_self)
    rw [List.cons_append, nextLine, if_neg hc, ih (fun e => h (List.mem_cons_of_mem c e))]

theorem entries_of_entryAt_some {s rest : List Char} {e : Entry}
    (h : entryAt s = some (e, rest)) : entries s = e :: entries (nextLine rest) := by
  rcases s with _ | ⟨c, cs⟩
  · simp [entryAt] at h
  · rw [entries]
    split
    · rename_i e' rest' h'
      rw [h] at h'
      obtain ⟨rfl, rfl⟩ := Prod.mk.inj (Option.some.inj h'.symm)
      rfl
    · rename_i h'
      rw [h] at h'
      exact absurd h' (by simp)

theorem entries_of_entryAt_none {s : List Char} (h : entryAt s = none) :
    entries s = entries (nextLine s) := by
  rcases s with _ | ⟨c, cs⟩
  · rfl
  · rw [entries]
    split
    · rename_i e' rest' h'
      rw [h] at h'
      exact absurd h' (by simp)
    · rfl

/-! ### The entry each item is read as -/

theorem takeWhile_name {name : List Char} (hw : ∀ c ∈ name, isWordChar c = true) {x : Char}
    (hx : isWordChar x = false) (r : List Char) : (name ++ x :: r).takeWhile isWordChar = name := by
  rw [List.takeWhile_append_of_pos hw, List.takeWhile_cons_of_neg (by simp [hx]), List.append_nil]

theorem dropWhile_name {name : List Char} (hw : ∀ c ∈ name, isWordChar c = true) {x : Char}
    (hx : isWordChar x = false) (r : List Char) : (name ++ x :: r).dropWhile isWordChar = x :: r := by
  rw [List.dropWhile_append_of_pos hw, List.dropWhile_cons_of_neg (by simp [hx])]

/-- The text after a name, when it does not start with a word character, is what `entryAt`
reads the separator and the comment from. -/
theorem entryAt_name {name : List Char} (hn : IsName name) {x : Char} (hx : isWordChar x = false)
    (r : List Char) :
    entryAt ('O' :: 'P' :: '_' :: (name ++ x :: r)) =
      let plain : Entry × List Char := (⟨String.ofList name, none⟩, afterSeparator (x :: r))
      if ['/', '*'].isPrefixOf (afterSeparator (x :: r)) then
        some (((commentBody ((afterSeparator (x :: r)).drop 2)).map
          fun p => (⟨String.ofList name, some p.1⟩, p.2)).getD plain)
      else some plain := by
  obtain ⟨hne, hw⟩ := hn
  have hO : isSpaceOrTab 'O' = false := by decide
  have hd : ('O' :: 'P' :: '_' :: (name ++ x :: r)).dropWhile isSpaceOrTab =
      'O' :: 'P' :: '_' :: (name ++ x :: r) := List.dropWhile_cons_of_neg (by simp [hO])
  have hp : ['O', 'P', '_'].isPrefixOf ('O' :: 'P' :: '_' :: (name ++ x :: r)) = true := by simp
  have h3 : ('O' :: 'P' :: '_' :: (name ++ x :: r)).drop 3 = name ++ x :: r := rfl
  have hempty : name.isEmpty = false := by simpa using hne
  simp only [entryAt, hd, hp, h3, if_true, takeWhile_name hw hx, hempty, dropWhile_name hw hx,
    Bool.false_eq_true, if_false]
  split
  · cases commentBody ((afterSeparator (x :: r)).drop 2) <;> rfl
  · rfl

theorem commentBody_close {body : List Char} (hb : ¬ ['*', '/'] <:+: body) (tail : List Char) :
    commentBody (body ++ '*' :: '/' :: tail) = some (body, tail) := by
  induction body with
  | nil => rfl
  | cons c body ih =>
    have hb' : ¬ ['*', '/'] <:+: body := fun h => hb (List.infix_cons h)
    -- `c` does not open a `*/`: either it is not `*`, or no `/` follows it
    have hopen : ¬ (c = '*' ∧ (body ++ '*' :: '/' :: tail).head? = some '/') := by
      rintro ⟨rfl, hh⟩
      rcases body with _ | ⟨d, body⟩
      · simp at hh
      · simp only [List.cons_append, List.head?_cons, Option.some.injEq] at hh
        subst hh
        exact hb (List.infix_cons_iff.mpr (Or.inl ⟨body, rfl⟩))
    rw [List.cons_append, commentBody]
    · simp [ih hb']
    · intro rest hc hrest
      exact hopen ⟨hc, by rw [hrest]; rfl⟩

theorem entryAt_comment {name : List Char} (hn : IsName name) (comma : Bool) {body : List Char}
    (hb : ¬ ['*', '/'] <:+: body) (tail : List Char) :
    entryAt ('O' :: 'P' :: '_' :: (name ++ ((if comma then [','] else []) ++
      '/' :: '*' :: (body ++ '*' :: '/' :: tail)))) = some (⟨String.ofList name, some body⟩, tail) := by
  have hopen : afterSeparator ('/' :: '*' :: (body ++ '*' :: '/' :: tail)) =
      '/' :: '*' :: (body ++ '*' :: '/' :: tail) := by
    simp [afterSeparator, isSpaceOrTab]
  cases comma with
  | false =>
    rw [if_neg Bool.false_ne_true, List.nil_append, entryAt_name hn (by decide), hopen]
    simp [commentBody_close hb]
  | true =>
    have hcomma : afterSeparator (',' :: '/' :: '*' :: (body ++ '*' :: '/' :: tail)) =
        '/' :: '*' :: (body ++ '*' :: '/' :: tail) := by
      simp [afterSeparator, isSpaceOrTab]
    rw [if_pos rfl, List.singleton_append, entryAt_name hn (by decide), hcomma]
    simp [commentBody_close hb]

theorem dropWhile_of_endsLine {tail : List Char} (ht : EndsLine tail) :
    tail.dropWhile isSpaceOrTab = tail := by
  rcases ht with rfl | ⟨rest, rfl⟩
  · rfl
  · exact List.dropWhile_cons_of_neg (by decide)

theorem entryAt_bare {name : List Char} (hn : IsName name) {tail : List Char}
    (ht : EndsLine tail) :
    entryAt ('O' :: 'P' :: '_' :: (name ++ ',' :: tail)) = some (⟨String.ofList name, none⟩, tail) := by
  have hsep : afterSeparator (',' :: tail) = tail := by
    simp [afterSeparator, isSpaceOrTab, dropWhile_of_endsLine ht]
  have hno : ['/', '*'].isPrefixOf tail = false := by
    rcases ht with rfl | ⟨rest, rfl⟩ <;> rfl
  rw [entryAt_name hn (by decide), hsep, hno, if_neg Bool.false_ne_true]

/-- A text that does not start, after spaces or tabs, with `OP_` and a word character holds
no entry. -/
theorem entryAt_eq_none {s : List Char}
    (h : ∀ w r, s.dropWhile isSpaceOrTab = 'O' :: 'P' :: '_' :: w :: r → isWordChar w = false) :
    entryAt s = none := by
  unfold entryAt
  dsimp only
  split
  · rename_i hp
    obtain ⟨s2, hs2⟩ := List.isPrefixOf_iff_prefix.mp hp
    rw [← hs2]
    rcases s2 with _ | ⟨w, r⟩
    · rfl
    · have hw := h w r hs2.symm
      simp [hw]
  · rfl

theorem entryAt_filler {line : List Char}
    (h : ∀ w r, line.dropWhile isSpaceOrTab = 'O' :: 'P' :: '_' :: w :: r → isWordChar w = false)
    {tail : List Char} (ht : EndsLine tail) : entryAt (line ++ tail) = none := by
  apply entryAt_eq_none
  intro w r hs
  rw [List.dropWhile_append] at hs
  split at hs
  · -- all of the line is spaces and tabs: what starts is the end of the line
    rw [dropWhile_of_endsLine ht] at hs
    rcases ht with rfl | ⟨rest, rfl⟩ <;> simp at hs
  · -- the first four characters come from the line, or the line feed is the fourth
    rename_i hne
    generalize line.dropWhile isSpaceOrTab = x at h hs hne
    rcases x with _ | ⟨x1, _ | ⟨x2, _ | ⟨x3, _ | ⟨x4, x⟩⟩⟩⟩
    · simp at hne
    all_goals rcases ht with rfl | ⟨rest, rfl⟩
    all_goals simp at hs
    · obtain ⟨-, -, -, rfl, -⟩ := hs
      decide
    all_goals obtain ⟨rfl, rfl, rfl, rfl, -⟩ := hs
    all_goals exact h _ _ rfl

/-! ### No comment closes early -/

theorem signatureText_singleton (op : Operand) : signatureText [op] = op.name.toList := by
  simp [signatureText]

theorem signatureText_cons_cons (op op' : Operand) (ops : List Operand) :
    signatureText (op :: op' :: ops) = op.name.toList ++ ' ' :: signatureText (op' :: ops) := by
  simp [signatureText]

/-- A signature is written with operand names and spaces only. -/
theorem mem_signatureText {sig : List Operand} {c : Char} (h : c ∈ signatureText sig) :
    c = ' ' ∨ isWordChar c = true := by
  induction sig with
  | nil => simp [signatureText] at h
  | cons op ops ih =>
    rcases ops with _ | ⟨op', ops⟩
    · rw [signatureText_singleton] at h
      exact Or.inr (Operand.isWordChar_of_mem_name h)
    · rw [signatureText_cons_cons, List.mem_append, List.mem_cons] at h
      rcases h with h | h | h
      · exact Or.inr (Operand.isWordChar_of_mem_name h)
      · exact Or.inl h
      · exact ih h

theorem no_close_append {x y : List Char} (hx : '*' ∉ x) (hy : ¬ ['*', '/'] <:+: y) :
    ¬ ['*', '/'] <:+: x ++ y := by
  induction x with
  | nil => simpa using hy
  | cons c x ih =>
    rw [List.cons_append, List.infix_cons_iff]
    rintro (h | h)
    · obtain ⟨t, ht⟩ := h
      simp only [List.cons_append, List.cons.injEq] at ht
      exact hx (ht.1 ▸ List.mem_cons_self)
    · exact ih (fun e => hx (List.mem_cons_of_mem c e)) h

theorem no_close_concat_tab {y : List Char} (hy : ¬ ['*', '/'] <:+: y) :
    ¬ ['*', '/'] <:+: y ++ ['\t'] := by
  rw [List.infix_concat_iff, List.suffix_concat_iff]
  rintro ((h | ⟨t, ht, -⟩) | h)
  · simp at h
  · -- the last character would be both `/` and the tab
    have := congrArg List.getLast? ht
    simp at this
  · exact hy h

theorem comment_no_close (sig : List Operand) {doc : List Char} (hdoc : ¬ ['*', '/'] <:+: doc) :
    ¬ ['*', '/'] <:+: comment sig doc := by
  have hsplit : comment sig doc = ('\t' :: signatureText sig ++ ['\t']) ++ (doc ++ ['\t']) := by
    simp [comment]
  have hstar : '*' ∉ '\t' :: signatureText sig ++ ['\t'] := by
    intro h
    simp only [List.cons_append, List.mem_cons, List.mem_append] at h
    rcases h with h | h | h
    · exact absurd h (by decide)
    · rcases mem_signatureText h with h' | h'
      · exact absurd h' (by decide)
      · exact absurd h' (by decide)
    · exact absurd h (by decide)
  rw [hsplit]
  exact no_close_append hstar (no_close_concat_tab hdoc)

/-! ### Reading the items back -/

/-- **One item, then the end of its line**: reading finds the item's entry, then goes on
at the next line. -/
theorem entries_render_append {it : Item} (hv : it.Valid) {tail : List Char} (ht : EndsLine tail) :
    entries (it.render ++ tail) = it.entry?.toList ++ entries (nextLine tail) := by
  cases it with
  | entry name sig doc comma =>
    obtain ⟨hn, -, hdoc, -⟩ := hv
    have h := entryAt_comment hn comma (comment_no_close sig hdoc) tail
    simp only [Item.render, List.append_assoc, List.cons_append, List.nil_append] at h ⊢
    rw [entries_of_entryAt_some h]
    rfl
  | bare name =>
    simp only [Item.render, List.append_assoc, List.cons_append, List.nil_append]
    rw [entries_of_entryAt_some (entryAt_bare hv ht)]
    rfl
  | filler line =>
    obtain ⟨hlf, hop⟩ := hv
    rw [Item.render, entries_of_entryAt_none (entryAt_filler hop ht), nextLine_append_of_not_mem hlf]
    rfl

theorem entries_intercalate (items : List Item) (hv : ∀ it ∈ items, it.Valid) :
    entries (['\n'].intercalate (items.map Item.render)) = items.filterMap Item.entry? := by
  induction items with
  | nil => simp [entries]
  | cons it items ih =>
    have hit := hv it List.mem_cons_self
    have hrest := ih (fun it' h => hv it' (List.mem_cons_of_mem it h))
    rcases items with _ | ⟨it', items⟩
    · rw [List.map_singleton, List.intercalate_singleton, ← List.append_nil it.render,
        entries_render_append hit (Or.inl rfl)]
      cases h : it.entry? <;> simp [h, nextLine, entries]
    · rw [List.map_cons, List.intercalate_cons_of_ne_nil (by simp), List.append_assoc,
        List.singleton_append, entries_render_append hit (Or.inr ⟨_, rfl⟩), nextLine_lf, hrest]
      cases h : it.entry? <;> simp [List.filterMap_cons, h]

/-- **The entries of a written text are those of its items, in order.** -/
theorem entries_render (items : List Item) (hv : ∀ it ∈ items, it.Valid) :
    entries (render items).toList = items.filterMap Item.entry? := by
  rw [render, String.toList_ofList, entries_intercalate items hv]

/-! ### Reading a signature -/

theorem findSome?_eq_of_unique {α β : Type} {l : List α} {f : α → Option β} {a : α} {b : β}
    (ha : a ∈ l) (hfa : f a = some b) (hu : ∀ a' b', f a' = some b' → a' = a) :
    l.findSome? f = some b := by
  cases h : l.findSome? f with
  | none => rw [List.findSome?_eq_none_iff.mp h a ha] at hfa; cases hfa
  | some b' =>
    obtain ⟨a', -, h'⟩ := List.exists_of_findSome?_eq_some h
    rw [hu a' b' h', hfa] at h'
    exact h'.symm

theorem takeWhile_of_endsName {w r : List Char} (hw : ∀ c ∈ w, isWordChar c = true)
    (hr : endsName r = true) : (w ++ r).takeWhile isWordChar = w := by
  rcases r with _ | ⟨x, r⟩
  · have h : (w ++ []).takeWhile isWordChar = w ++ ([] : List Char).takeWhile isWordChar :=
      List.takeWhile_append_of_pos hw
    simpa using h
  · have hx : isWordChar x = false := by
      simp only [endsName, Bool.not_eq_true', Bool.or_eq_false_iff] at hr
      exact hr.1.1
    exact takeWhile_name hw hx r

/-- An operand name followed by text that does not continue it is read as that operand:
any operand read there is the run of word characters the text starts with. -/
theorem signatureOperand?_name (op : Operand) {r : List Char} (hr : endsName r = true) :
    signatureOperand? (op.name.toList ++ r) = some (op, r) := by
  cases h : signatureOperand? (op.name.toList ++ r) with
  | none =>
    -- the operand itself is a candidate that the scan accepts
    unfold signatureOperand? at h
    have hop := List.findSome?_eq_none_iff.mp h op (by cases op <;> decide)
    simp [← String.length_toList, hr] at hop
  | some p =>
    obtain ⟨op', t⟩ := p
    obtain ⟨ht, he⟩ := signatureOperand?_eq_some h
    -- both names are the run of word characters the text starts with
    have h1 : (op'.name.toList ++ t).takeWhile isWordChar = op'.name.toList :=
      takeWhile_of_endsName (fun _ hc => Operand.isWordChar_of_mem_name hc) he
    have h2 : (op.name.toList ++ r).takeWhile isWordChar = op.name.toList :=
      takeWhile_of_endsName (fun _ hc => Operand.isWordChar_of_mem_name hc) hr
    rw [← ht] at h1
    obtain rfl := Operand.eq_of_name_toList (h1.symm.trans h2)
    rw [List.append_cancel_left ht]

theorem splitSignature_of_some {s r : List Char} {op : Operand}
    (h : signatureOperand? s = some (op, r)) :
    splitSignature s = (op :: (splitSignature (r.dropWhile isSpaceOrTab)).1,
      (splitSignature (r.dropWhile isSpaceOrTab)).2) := by
  rw [splitSignature]
  split
  · rename_i op' r' h'
    rw [h] at h'
    obtain ⟨rfl, rfl⟩ := Prod.mk.inj (Option.some.inj h'.symm)
    rfl
  · rename_i h'
    rw [h] at h'
    cases h'

theorem splitSignature_of_none {s : List Char} (h : signatureOperand? s = none) :
    splitSignature s = ([], s) := by
  rw [splitSignature]
  split
  · rename_i op' r' h'
    rw [h] at h'
    cases h'
  · rfl

theorem isSpaceOrTab_of_word {c : Char} (h : isWordChar c = true) : isSpaceOrTab c = false := by
  cases hc : isSpaceOrTab c
  · rfl
  · simp only [isSpaceOrTab, Bool.or_eq_true, beq_iff_eq] at hc
    rcases hc with rfl | rfl <;> simp_all [show isWordChar ' ' = false by decide,
      show isWordChar '\t' = false by decide]

theorem signatureText_cons (op : Operand) (ops : List Operand) :
    ∃ r, signatureText (op :: ops) = op.name.toList ++ r := by
  rcases ops with _ | ⟨op', ops⟩
  · exact ⟨[], by rw [signatureText_singleton, List.append_nil]⟩
  · exact ⟨_, signatureText_cons_cons op op' ops⟩

/-- A written signature starts with a word character. -/
theorem signatureText_head (op : Operand) (ops : List Operand) :
    ∃ c r, signatureText (op :: ops) = c :: r ∧ isWordChar c = true ∧ isBlankChar c = false := by
  obtain ⟨r, hr⟩ := signatureText_cons op ops
  obtain ⟨c, t, ht⟩ := List.exists_cons_of_ne_nil (Operand.name_toList_ne_nil op)
  have hc : c ∈ op.name.toList := ht ▸ List.mem_cons_self
  exact ⟨c, t ++ r, by rw [hr, ht, List.cons_append],
    Operand.isWordChar_of_mem_name hc, Operand.not_blank_of_mem_name hc⟩

/-- A written signature ends with a character that is not blank. -/
theorem signatureText_last (op : Operand) (ops : List Operand) :
    ∀ d ∈ (signatureText (op :: ops)).getLast?, isBlankChar d = false := by
  induction ops generalizing op with
  | nil =>
    intro d hd
    rw [signatureText_singleton] at hd
    exact Operand.not_blank_of_mem_name (List.mem_of_getLast? hd)
  | cons op' ops ih =>
    intro d hd
    obtain ⟨c, r, hcr, -⟩ := signatureText_head op' ops
    rw [signatureText_cons_cons, List.getLast?_append, List.getLast?_cons, hcr] at hd
    have hl : (signatureText (op' :: ops)).getLast? = some d := by
      rw [hcr]
      simpa [List.getLast?_cons] using hd
    exact ih op' d hl

/-- **A signature is read back**, up to spaces or tabs and what follows them. -/
theorem splitSignature_signatureText (op : Operand) (ops : List Operand) {tail : List Char}
    (ht : tail = [] ∨ ∃ c r, tail = c :: r ∧ isSpaceOrTab c = true) :
    splitSignature (signatureText (op :: ops) ++ tail) =
      (op :: ops ++ (splitSignature (tail.dropWhile isSpaceOrTab)).1,
        (splitSignature (tail.dropWhile isSpaceOrTab)).2) := by
  induction ops generalizing op with
  | nil =>
    have he : endsName tail = true := by
      rcases ht with rfl | ⟨c, r, rfl, hc⟩
      · rfl
      · simp only [isSpaceOrTab, Bool.or_eq_true, beq_iff_eq] at hc
        rcases hc with rfl | rfl <;> rfl
    rw [signatureText_singleton, splitSignature_of_some (signatureOperand?_name op he)]
    rfl
  | cons op' ops ih =>
    -- the operands are separated by one space, and the next one starts with a word character
    obtain ⟨c, r, hcr, hw, -⟩ := signatureText_head op' ops
    have hd : (' ' :: (signatureText (op' :: ops) ++ tail)).dropWhile isSpaceOrTab =
        signatureText (op' :: ops) ++ tail := by
      rw [List.dropWhile_cons_of_pos (by decide), hcr, List.cons_append,
        List.dropWhile_cons_of_neg (by simp [isSpaceOrTab_of_word hw])]
    rw [signatureText_cons_cons, List.append_assoc, List.cons_append,
      splitSignature_of_some (signatureOperand?_name op rfl), hd, ih op']
    rfl

/-- A formula that does not start with an operand name standing on its own has no
signature. -/
theorem splitSignature_doc {doc : List Char}
    (hd : ∀ (op : Operand) (rest : List Char), doc = op.name.toList ++ rest →
      ∃ x r, rest = x :: r ∧ (isWordChar x = true ∨ x = '(' ∨ x = '[')) :
    splitSignature doc = ([], doc) := by
  apply splitSignature_of_none
  cases h : signatureOperand? doc with
  | none => rfl
  | some p =>
    obtain ⟨op, t⟩ := p
    obtain ⟨ht, he⟩ := signatureOperand?_eq_some h
    obtain ⟨x, r, rfl, hx⟩ := hd op t ht
    simp only [endsName, Bool.not_eq_true', Bool.or_eq_false_iff, beq_eq_false_iff_ne] at he
    rcases hx with hx | rfl | rfl
    · rw [he.1.1] at hx
      cases hx
    · exact absurd rfl he.1.2
    · exact absurd rfl he.2

/-! ### Trimming a comment -/

/-- **A comment gives back its signature and formula.** -/
theorem splitSignature_trim_comment (sig : List Operand) {doc : List Char}
    (hh : ∀ c ∈ doc.head?, isBlankChar c = false) (hl : ∀ c ∈ doc.getLast?, isBlankChar c = false)
    (hd : ∀ (op : Operand) (rest : List Char), doc = op.name.toList ++ rest →
      ∃ x r, rest = x :: r ∧ (isWordChar x = true ∨ x = '(' ∨ x = '[')) :
    splitSignature (trim (comment sig doc)) = (sig, doc) := by
  have hc : comment sig doc = '\t' :: ((signatureText sig ++ '\t' :: doc) ++ ['\t']) := by
    simp [comment]
  rw [hc, trim_tab_cons, trim_concat_tab]
  rcases sig with _ | ⟨op, ops⟩
  · -- no signature: the comment is the formula
    rw [show signatureText [] = [] from rfl, List.nil_append, trim_tab_cons, trim_eq_self hh hl,
      splitSignature_doc hd]
  · obtain ⟨c, r, hcr, -, hcb⟩ := signatureText_head op ops
    have hlast := signatureText_last op ops
    rcases doc with _ | ⟨x, doc⟩
    · -- no formula: the comment is the signature
      rw [trim_concat_tab, trim_eq_self (by simp [hcr, hcb]) hlast,
        ← List.append_nil (signatureText (op :: ops)), splitSignature_signatureText op ops (Or.inl rfl)]
      simp [splitSignature_of_none (show signatureOperand? [] = none by rfl)]
    · have hx : isBlankChar x = false := hh x rfl
      have htrim : trim (signatureText (op :: ops) ++ '\t' :: x :: doc) =
          signatureText (op :: ops) ++ '\t' :: x :: doc := by
        apply trim_eq_self
        · simp [hcr, hcb]
        · intro d hd'
          obtain ⟨e, he⟩ : ∃ e, (x :: doc).getLast? = some e := ⟨_, List.getLast?_cons⟩
          rw [List.getLast?_append, List.getLast?_cons_cons, he, Option.some_or] at hd'
          exact hl d (he.trans hd')
      have hdrop : ('\t' :: x :: doc).dropWhile isSpaceOrTab = x :: doc := by
        rw [List.dropWhile_cons_of_pos (by decide),
          List.dropWhile_cons_of_neg (by simp [isSpaceOrTab_of_not_blank hx])]
      rw [htrim, splitSignature_signatureText op ops (Or.inr ⟨'\t', x :: doc, rfl, by decide⟩),
        hdrop, splitSignature_doc hd, List.append_nil]

/-! ### The table of a written text -/

/-- **An item's entry describes what the item stands for.** -/
theorem describe_entry? (indent : String) {it : Item} (hv : it.Valid) :
    it.entry?.map (describe indent) = it.info? indent := by
  cases it with
  | entry name sig doc comma =>
    obtain ⟨-, hnorm, -, hd⟩ := hv
    -- the formula is canonical, so neither of its ends is blank
    have hh : ∀ c ∈ doc.head?, isBlankChar c = false := by
      intro c hc
      apply Formula.head?_normalize (String.ofList doc) ""
      rw [hnorm, String.toList_ofList]
      exact hc
    have hl : ∀ c ∈ doc.getLast?, isBlankChar c = false := by
      intro c hc
      apply Formula.getLast?_normalize (String.ofList doc) ""
      rw [hnorm, String.toList_ofList]
      exact hc
    simp only [Item.entry?, Option.map_some, describe, splitSignature_trim_comment sig hh hl hd,
      Item.info?]
  | bare name => rfl
  | filler line => rfl

/-- **The table read from a written text**: its names are those of the entries in order of
first occurrence, and each name maps to what its last entry says. -/
theorem ofText_render (items : List Item) (hv : ∀ it ∈ items, it.Valid) (indent : String) :
    let table := OpcodeTable.ofText (render items) indent
    let infos := items.filterMap (Item.info? indent)
    table.names = (infos.map (·.name)).eraseDups ∧
      ∀ n, table.find? n = (infos.filter fun i => i.name == n).getLast? := by
  intro table infos
  have hinfos : (entries (render items).toList).map (describe indent) = infos := by
    rw [entries_render items hv, List.map_filterMap]
    exact List.filterMap_congr fun it hit => describe_entry? indent (hv it hit)
  have htable : table = infos.foldl OpcodeTable.insert OpcodeTable.empty := by
    rw [← hinfos, List.foldl_map]
    rfl
  rw [htable]
  exact ⟨OpcodeTable.names_foldl_insert infos, OpcodeTable.find?_foldl_insert infos⟩

/-- Two entries for `MOVE` around a comment line and an entry for `JMP` without a comment. -/
theorem ofText_render_move_jmp :
    let items : List Item :=
      [.entry ['M', 'O', 'V', 'E'] [.a, .b] ['R', '(', 'A', ')', ':', '=', 'R', '(', 'B', ')'] true,
        .filler ['/', '/', ' ', 'x'], .bare ['J', 'M', 'P'],
        .entry ['M', 'O', 'V', 'E'] [.a] ['R', '(', 'A', ')', ':', '=', 'n', 'i', 'l'] false]
    (∀ it ∈ items, it.Valid) ∧
      let table := OpcodeTable.ofText (render items) ""
      let infos := items.filterMap (Item.info? "")
      table.names = (infos.map (·.name)).eraseDups ∧
        ∀ n, table.find? n = (infos.filter fun i => i.name == n).getLast? := by
  intro items
  -- neither formula starts with an operand name: they start with `R`
  have hR : ∀ (doc : List Char), doc.head? = some 'R' → ∀ (op : Operand) (rest : List Char),
      doc = op.name.toList ++ rest → ∃ x r, rest = x :: r ∧
        (isWordChar x = true ∨ x = '(' ∨ x = '[') := by
    intro doc hdoc op rest h
    have hop : op.name.toList.head? ≠ some 'R' := by cases op <;> decide
    rw [h, List.head?_append_of_ne_nil _ (Operand.name_toList_ne_nil op)] at hdoc
    exact absurd hdoc hop
  have hv : ∀ it ∈ items, it.Valid := by
    simp only [items, List.mem_cons, List.not_mem_nil, or_false]
    rintro it (rfl | rfl | rfl | rfl)
    · exact ⟨⟨by decide, by simp [isWordChar]⟩,
        Formula.normalize_of_no_blank (by decide) (by simp [isBlankChar]) "", by decide, hR _ rfl⟩
    · refine ⟨by decide, fun w r h => ?_⟩
      simp [isSpaceOrTab] at h
    · exact ⟨by decide, by simp [isWordChar]⟩
    · exact ⟨⟨by decide, by simp [isWordChar]⟩,
        Formula.normalize_of_no_blank (by decide) (by simp [isBlankChar]) "", by decide, hR _ rfl⟩
  exact ⟨hv, ofText_render items hv ""⟩

end Definitions

end LuaListing
