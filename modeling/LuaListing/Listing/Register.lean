import LuaListing.Text.Quoted

/-!
# Locals and registers

A local variable of a function lives in a register over a range of pcs `[start, end)`.
The listing numbers locals in declaration order, and at any pc the locals in scope occupy
the registers `0, 1, 2, …` in that order: register `r` holds the `r`-th local in scope.
A local counts as in scope from one instruction before its start, so that the instruction
that initialises it is attributed to it; on that instruction the register may still hold a
temporary, and the match is uncertain.

## Main definitions

* `LocalVar` — a name bound over `[start, end)`, with `start ≤ end`.
* `LocalVar.make?`, `LocalRangeError` — building a local, refused when it starts after it
  ends.
* `LocalVar.inScope` — `start - 1 ≤ pc < end`.
* `scanRegister` — the walk that numbers the locals in scope.
* `resolveRegister` — the local a register holds at a pc, and whether the match is
  uncertain.
-/

namespace LuaListing

/-- A local variable, bound to a register over the pcs `[start, stop)`. -/
structure LocalVar where
  /-- Its name. -/
  name : List Glyph
  /-- The first pc of its range. -/
  start : Int
  /-- The pc its range ends before. -/
  stop : Int
  /-- A range never ends before it starts. -/
  ordered : start ≤ stop
  deriving DecidableEq, Repr

/-- A local that would start after it ends. -/
structure LocalRangeError where
  /-- The local's name. -/
  name : List Glyph
  /-- The start asked for. -/
  start : Int
  /-- The end asked for. -/
  stop : Int
  deriving DecidableEq, Repr, Inhabited

/-- The text of the error, with the name quoted. -/
def LocalRangeError.message (e : LocalRangeError) : String :=
  "local " ++ Glyph.quote e.name ++ " has start " ++ toString e.start ++ " after end " ++
    toString e.stop

namespace LocalVar

/-- The local `name` over `[start, stop)`, refused when it starts after it ends. -/
def make? (name : List Glyph) (start stop : Int) : Except LocalRangeError LocalVar :=
  if h : start ≤ stop then .ok ⟨name, start, stop, h⟩ else .error ⟨name, start, stop⟩

/-- Whether the local is in scope at `pc`: from one instruction before its start to before
its end. -/
def inScope (l : LocalVar) (pc : Int) : Bool := decide (l.start - 1 ≤ pc) && decide (pc < l.stop)

end LocalVar

/-- The walk over locals in declaration order that numbers the locals in scope at `pc`,
the next one in scope getting `position`: the first local in scope whose number is
`register`, with whether the match is uncertain.  Locals out of scope take no number. -/
def scanRegister (register pc : Int) : List LocalVar → Nat → Option (LocalVar × Bool)
  | [], _ => none
  | l :: ls, position =>
    if !l.inScope pc then scanRegister register pc ls position
    else if (position : Int) = register then some (l, pc == l.start - 1)
    else scanRegister register pc ls (position + 1)

/-- The local that register `register` holds at `pc`, among locals in declaration order:
the walk from number `0`, after a quick refusal of a negative register and of one past the
number of locals.  The match is uncertain on the instruction before the local's start. -/
def resolveRegister (register : Int) (locals : List LocalVar) (pc : Int) :
    Option (LocalVar × Bool) :=
  if register < 0 || register ≥ locals.length then none
  else scanRegister register pc locals 0

end LuaListing
