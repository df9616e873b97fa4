import LuaListing.Listing.Token
import LuaListing.Listing.IndexMap
import LuaListing.Listing.Register
import LuaListing.Log

/-!
# Symbol tables

After a function's code, `luac -l -l` prints its symbol sections, each a header followed
by indented rows:

    constants (2) for 0x8064e68:
    	1	"print"
    	2	"hello"
    locals (1) for 0x8064e68:
    	0	x	2	5
    upvalues (0) for 0x8064e68:

The symbols are collected in a first pass by a machine with two states, outside a section
or inside one.  A line that does not start with a blank is either a section header, which
enters that section (of the function at its address), or leaves any section.  An indented
line inside a section is a row of it; elsewhere it is ignored.  Tables are kept by address
in the order addresses first appear, so the sections of one function may come in any order
and interleave with those of others.

Rows are stored by section kind: a constant or an upvalue under its index; a local under its
index with its first two integers as its range, unless it has fewer than two or its range is
inverted (which is warned about).  Rows of other kinds are skipped.  A later row of an index
replaces an earlier one.

## Main definitions

* `SymbolTable` — the constants, locals and upvalues of one function, and the kinds of
  section seen for it.
* `Collector`, `Collector.feed` — the first-pass machine, one line at a time, with the log
  records of each step.
* `Collector.run`, `collectSymbols` — the machine run over whole listings.
-/

namespace LuaListing

/-- The symbols of one function. -/
structure SymbolTable where
  /-- The function's address. -/
  address : List Glyph
  /-- Constant names by index. -/
  constants : IndexMap (List Glyph) := {}
  /-- Locals by index. -/
  locals : IndexMap LocalVar := {}
  /-- Upvalue names by index. -/
  upvalues : IndexMap (List Glyph) := {}
  /-- The kinds of section seen for the function, sorted and without repeats. -/
  sections : List String := []
  deriving DecidableEq, Repr

namespace SymbolTable

/-- Put a section kind into a sorted list of kinds, once. -/
def insertKind (k : String) : List String → List String
  | [] => [k]
  | k' :: rest => if k < k' then k :: k' :: rest else if k = k' then k' :: rest
    else k' :: insertKind k rest

/-- Note that a section of this kind was seen. -/
def addSection (t : SymbolTable) (kind : String) : SymbolTable :=
  { t with sections := insertKind kind t.sections }

/-- The constant with this index. -/
def constant? (t : SymbolTable) (i : Int) : Option (List Glyph) := t.constants.get? i

/-- The upvalue with this index. -/
def upvalue? (t : SymbolTable) (i : Int) : Option (List Glyph) := t.upvalues.get? i

/-- The locals in declaration order, that is by index. -/
def orderedLocals (t : SymbolTable) : List LocalVar := t.locals.values

/-- Store a row of a section of the given kind, with the records it gives rise to. -/
def store (t : SymbolTable) (kind : String) (e : SectionEntry) : SymbolTable × List Record :=
  if kind = "constants" then ({ t with constants := t.constants.insert e.index e.name }, [])
  else if kind = "upvalues" then ({ t with upvalues := t.upvalues.insert e.index e.name }, [])
  else if kind = "locals" then
    match e.numbers with
    | start :: stop :: _ =>
      match LocalVar.make? e.name start stop with
      | .ok l => ({ t with locals := t.locals.insert e.index l }, [])
      | .error _ =>
        (t, [Record.warning (Glyph.ofString "Local " ++ e.name ++ Glyph.ofString
          (" at " ++ toString e.index ++ " has inverted live range [" ++ toString start ++
            ", " ++ toString stop ++ "]"))])
    | _ =>
      (t, [Record.debug (Glyph.ofString "Local " ++ e.name ++ Glyph.ofString
        (" at " ++ toString e.index ++ " has no live range"))])
  else (t, [Record.debug (Glyph.ofString ("Skipping entry of unknown section " ++ kind))])

end SymbolTable

/-- The first-pass machine: the tables so far and the section being read, if any. -/
structure Collector where
  /-- The tables, in the order their addresses first appeared. -/
  tables : List SymbolTable := []
  /-- The kind and address of the section being read. -/
  current : Option (String × List Glyph) := none
  deriving DecidableEq, Repr

namespace Collector

/-- The table for an address. -/
def table? (c : Collector) (address : List Glyph) : Option SymbolTable :=
  c.tables.find? fun t => t.address == address

/-- Change the table for an address, adding an empty one at the end if there is none. -/
def update (tables : List SymbolTable) (address : List Glyph) (f : SymbolTable → SymbolTable) :
    List SymbolTable :=
  if tables.any (·.address == address) then
    tables.map fun t => if t.address == address then f t else t
  else tables ++ [f { address := address }]

/-- Whether a section is being read. -/
def inSection (c : Collector) : Bool := c.current.isSome

/-- The table of the section being read. -/
def currentTable? (c : Collector) : Option SymbolTable :=
  c.current.bind fun cur => c.table? cur.2

/-- Advance by one line, with the log records of the step; a header or row holding a
numeral that is too long stops the machine. -/
def feed (c : Collector) (line : List Glyph) : Except DigitLimitError (Collector × List Record) :=
  if !startsWithBlank line then
    match SectionHeader.read? line with
    | none => .ok ({ c with current := none }, [])
    | some (.error e) => .error e
    | some (.ok h) =>
      .ok ({ tables := update c.tables h.address (·.addSection h.kind),
             current := some (h.kind, h.address) }, [])
  else
    match c.current with
    | none => .ok (c, [])
    | some (kind, address) =>
      match SectionEntry.read? line with
      | none =>
        .ok (c, [Record.debug (Glyph.ofString ("Ignoring malformed " ++ kind ++ " row: " ++
          Glyph.quote line))])
      | some (.error e) => .error e
      | some (.ok e) =>
        match c.table? address with
        | none => .ok (c, [])
        | some t =>
          let stored := t.store kind e
          .ok ({ c with tables := update c.tables address fun _ => stored.1 }, stored.2)

/-- Run the machine over lines from a state, collecting the records in order. -/
def run (c : Collector) : List (List Glyph) → Except DigitLimitError (Collector × List Record)
  | [] => .ok (c, [])
  | l :: ls => do
    let (c', records) ← c.feed l
    let (c'', more) ← run c' ls
    return (c'', records ++ more)

end Collector

/-- The symbol tables of a whole listing, in first-appearance order of address, with the
records of collecting them. -/
def collectSymbols (lines : List (List Glyph)) :
    Except DigitLimitError (List SymbolTable × List Record) := do
  let (c, records) ← Collector.run {} lines
  return (c.tables, records ++ [Record.debug (Glyph.ofString
    ("Collected symbol tables for " ++ toString c.tables.length ++ " function(s)"))])

end LuaListing
