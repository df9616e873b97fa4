import LuaListing.Listing.Lexeme

/-!
# Lines of a listing

`luac -l -l` prints, for each function, a header, its instructions and then its symbol
sections:

    main <hello.lua:0,0> (4 instructions, 16 bytes at 0x8064e68)
    	1	[1]	LOADK    	0 -1	; "hello"
    constants (1) for 0x8064e68:
    	1	"hello"

A line that does not start with a blank is a *function header* or a *section header*; an
indented line is an *instruction* or a *section entry*.  The readers below say exactly
which lines are which (blanks are the Unicode whitespace, digits are decimal digits of any
script):

* function header: `main` or `function`, blanks, `<source>` (no `>` inside), blanks, `(`,
  a summary on one line, then `at` (not preceded by a word character), blanks, and the
  address: a blank-free run ending in `)` that is followed only by blanks;
* section header: a name (an ASCII letter or `_`, then word characters), blanks,
  `(count)`, blanks, `for`, blanks, and the address, a blank-free run ending in `:`
  followed only by blanks;
* instruction: blanks, the pc, blanks, `[line]` or `[-]`, blanks, the opcode (an ASCII
  letter or `_`, then word characters), the operand text up to the first `;` and the
  comment after it, which holds no line feed except one at its very end;
* section entry: blanks, the index (optionally negative), blanks, a name on one line, and
  then blank-separated integers up to trailing blanks, the name being as short as that
  allows.

A line of one of these shapes is read only when each of its numerals has at most
`maxDigits` digits; the numerals are read in the order the fields are listed above, except
that an entry's trailing integers are read before its index, and the first one that is too
long is the error.

## Main definitions

* `FunctionHeader`, `SectionHeader`, `SectionEntry`, `Instruction`, `Token`.
* `FunctionHeader.read?`, `SectionHeader.read?`, `SectionEntry.read?`, `Instruction.read?` —
  `none` for a line of another shape, else the token or the numeral that is too long.
* `startsWithBlank`, `Token.classify` — what a line is.
-/

namespace LuaListing

/-- The header of a function's code. -/
structure FunctionHeader where
  /-- `main` or `function`. -/
  kind : String
  /-- The source between the angle brackets. -/
  source : List Glyph
  /-- The function's address, which its symbol sections name. -/
  address : List Glyph
  deriving DecidableEq, Repr, Inhabited

/-- The header of a symbol section of a function. -/
structure SectionHeader where
  /-- The section kind: `constants`, `locals`, `upvalues`, or another name. -/
  kind : String
  /-- The count the header announces. -/
  count : Nat
  /-- The address of the function the section belongs to. -/
  address : List Glyph
  deriving DecidableEq, Repr, Inhabited

/-- A row of a symbol section. -/
structure SectionEntry where
  /-- The row's index. -/
  index : Int
  /-- The symbol's name. -/
  name : List Glyph
  /-- The integers after the name. -/
  numbers : List Int
  deriving DecidableEq, Repr, Inhabited

/-- An instruction line. -/
structure Instruction where
  /-- Its position in the function's code. -/
  pc : Nat
  /-- Its source line, or `none` when the listing shows `-`. -/
  sourceLine : Option Nat
  /-- The opcode's name. -/
  opcode : String
  /-- The integers of the operand text, left to right. -/
  operands : List Int
  /-- The comment after `;`, when there is one. -/
  comment : Option (List Glyph)
  deriving DecidableEq, Repr, Inhabited

/-- What a listing line can be. -/
inductive Token where
  | functionHeader (h : FunctionHeader)
  | sectionHeader (h : SectionHeader)
  | sectionEntry (e : SectionEntry)
  | instruction (i : Instruction)
  deriving DecidableEq, Repr, Inhabited

/-- The text of glyphs that are all characters, such as a run of word characters. -/
def charsText (gs : List Glyph) : String := String.ofList (gs.filterMap Glyph.char?)

/-- The address that closes a header: a blank-free run whose last glyph is `close`,
followed only by blanks; the address is the run without its last glyph and is not empty. -/
def closedAddress (close : Char) (gs : List Glyph) : Option (List Glyph) :=
  let run := gs.takeWhile fun g => !g.isBlank
  if Lexeme.allBlank (gs.dropWhile fun g => !g.isBlank) && run.length ≥ 2 &&
      run.getLast? == some (.char close) then
    some run.dropLast
  else none

/-- The address of a function header, searched in the text after `(`: the first `at`
that no word character precedes and that is followed by blanks and a closing address.
The search stops at a line feed.  `prevWord` says whether a word character stands just
before the text. -/
def addressAfterAt (prevWord : Bool) : List Glyph → Option (List Glyph)
  | [] => none
  | g :: rest =>
    let here : Option (List Glyph) :=
      if !prevWord && g == .char 'a' then
        (Lexeme.literal "t" rest).bind fun r => (Lexeme.blanks1 r).bind (closedAddress ')')
      else none
    match here with
    | some a => some a
    | none => if g == .char '\n' then none else addressAfterAt g.isWord rest

namespace FunctionHeader

/-- Read a function header. -/
def read? (line : List Glyph) : Option FunctionHeader := do
  let (kind, r0) ← ((Lexeme.literal "main" line).map fun r => ("main", r)) <|>
    ((Lexeme.literal "function" line).map fun r => ("function", r))
  let r1 ← Lexeme.blanks1 r0
  let r2 ← Lexeme.literal "<" r1
  let source := r2.takeWhile (· != .char '>')
  let r3 ← Lexeme.literal ">" (r2.dropWhile (· != .char '>'))
  let r4 ← Lexeme.blanks1 r3
  let r5 ← Lexeme.literal "(" r4
  let address ← addressAfterAt false r5
  return ⟨kind, source, address⟩

end FunctionHeader

namespace SectionHeader

/-- Read a section header. -/
def read? (line : List Glyph) : Option (Except DigitLimitError SectionHeader) := do
  match line with
  | [] => none
  | g :: rest =>
    if !g.isIdentStart then none else
    let kind := g :: rest.takeWhile Glyph.isWord
    let r1 ← Lexeme.blanks1 (rest.dropWhile Glyph.isWord)
    let r2 ← Lexeme.literal "(" r1
    let (count, r3) ← Lexeme.natural r2
    let r4 ← Lexeme.literal ")" r3
    let r5 ← Lexeme.blanks1 r4
    let r6 ← Lexeme.literal "for" r5
    let r7 ← Lexeme.blanks1 r6
    let address ← closedAddress ':' r7
    return count.toNat.map fun n => ⟨charsText kind, n, address⟩

end SectionHeader

namespace SectionEntry

/-- The integers of a text made of blank-led integers and trailing blanks, or `none` when
the text has another shape. -/
def numberTail (r : List Glyph) : Option (List Numeral) :=
  if (r.dropWhile Glyph.isBlank).isEmpty then some []
  else if (r.takeWhile Glyph.isBlank).isEmpty then none
  else
    match h : Lexeme.integer (r.dropWhile Glyph.isBlank) with
    | some (n, rest) =>
      have := Lexeme.integer_length h
      have := length_dropWhile_le Glyph.isBlank r
      (numberTail rest).map (n :: ·)
    | none => none
  termination_by r.length

/-- Split the text after an entry's index into the name, as short as it can be without a
line feed, and the integers after it. -/
def nameAndNumbers (name : List Glyph) : List Glyph → Option (List Glyph × List Numeral)
  | [] => (numberTail []).map fun ns => (name, ns)
  | h :: rest =>
    match numberTail (h :: rest) with
    | some ns => some (name, ns)
    | none => if h == .char '\n' then none else nameAndNumbers (name ++ [h]) rest

/-- Read a section entry; the trailing integers are read before the index. -/
def read? (line : List Glyph) : Option (Except DigitLimitError SectionEntry) := do
  let r0 ← Lexeme.blanks1 line
  let (index, r1) ← Lexeme.integer r0
  let r2 ← Lexeme.blanks1 r1
  match r2 with
  | [] => none
  | g :: rest =>
    let (name, numbers) ← nameAndNumbers [g] rest
    return do
      let ns ← numbers.mapM Numeral.toInt
      let i ← index.toInt
      return ⟨i, name, ns⟩

end SectionEntry

namespace Instruction

/-- The operand text and the comment of an instruction: the text up to the first `;`
without trailing blanks, and the text after it, which may end in a line feed but hold no
other. -/
def operandsAndComment (gs : List Glyph) : Option (List Glyph × Option (List Glyph)) :=
  let before := gs.takeWhile (· != .char ';')
  match gs.dropWhile (· != .char ';') with
  | [] => some (Lexeme.trimEnd before, none)
  | _ :: after =>
    let comment := if after.getLast? == some (.char '\n') then after.dropLast else after
    if comment.contains (.char '\n') then none
    else some (Lexeme.trimEnd before, some comment)

/-- Read an instruction line. -/
def read? (line : List Glyph) : Option (Except DigitLimitError Instruction) := do
  let r0 ← Lexeme.blanks1 line
  let (pc, r1) ← Lexeme.natural r0
  let r2 ← Lexeme.blanks1 r1
  let r3 ← Lexeme.literal "[" r2
  let (sourceLine, r4) ← ((Lexeme.literal "-" r3).map fun r => (none, r)) <|>
    ((Lexeme.natural r3).map fun p => (some p.1, p.2))
  let r5 ← Lexeme.literal "]" r4
  let r6 ← Lexeme.blanks1 r5
  match r6 with
  | [] => none
  | g :: rest =>
    if !g.isIdentStart then none else
    let opcode := g :: rest.takeWhile Glyph.isWord
    let (operands, comment) ← operandsAndComment (rest.dropWhile Glyph.isWord)
    return do
      let p ← pc.toNat
      let l ← match sourceLine with
        | some n => n.toNat.map some
        | none => pure none
      let os ← (Lexeme.integers operands).mapM Numeral.toInt
      return ⟨p, l, charsText opcode, os, comment⟩

end Instruction

/-- Whether a line starts with a blank. -/
def startsWithBlank : List Glyph → Bool
  | g :: _ => g.isBlank
  | [] => false

namespace Token

/-- The first reading that matched a line's shape, or `none` when none did. -/
def firstOf {α : Type} : List (Option (Except DigitLimitError α)) → Except DigitLimitError (Option α)
  | [] => .ok none
  | some r :: _ => r.map some
  | none :: rest => firstOf rest

/-- What a line is: an indented line is an instruction or else a section entry, any other
line a function header or else a section header. -/
def classify (line : List Glyph) : Except DigitLimitError (Option Token) :=
  if startsWithBlank line then
    firstOf [(Instruction.read? line).map (·.map instruction),
      (SectionEntry.read? line).map (·.map sectionEntry)]
  else
    firstOf [(FunctionHeader.read? line).map (fun h => .ok (functionHeader h)),
      (SectionHeader.read? line).map (·.map sectionHeader)]

end Token

end LuaListing
