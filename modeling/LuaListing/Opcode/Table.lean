import LuaListing.Opcode.Info

/-!
# Opcode tables

An opcode table maps names to descriptions and remembers the order in which names first
appeared.  Inserting a name that is already present replaces its description in place;
a new name goes to the end.  Merging tables inserts every description of each table in
turn, so a later table's description of a name wins while the name keeps the position it
first had.

## Main definitions

* `OpcodeTable` — descriptions in first-appearance order, each name once.
* `OpcodeTable.insert`, `OpcodeTable.find?`, `OpcodeTable.union`, `OpcodeTable.merge`.
* `OpcodeTable.sortedByName` — the descriptions in order of name.
-/

namespace LuaListing

/-- Opcode descriptions in the order their names first appeared. -/
structure OpcodeTable where
  /-- The descriptions. -/
  entries : List OpcodeInfo
  /-- No name occurs twice. -/
  nodup_names : (entries.map (·.name)).Nodup
  deriving DecidableEq, Repr

namespace OpcodeTable

/-- The table with no opcode. -/
def empty : OpcodeTable := ⟨[], List.nodup_nil⟩

instance : Inhabited OpcodeTable := ⟨empty⟩

/-- The description of the opcode with this name. -/
def find? (t : OpcodeTable) (name : String) : Option OpcodeInfo :=
  t.entries.find? fun i => i.name == name

/-- Whether the table describes the opcode. -/
def contains (t : OpcodeTable) (name : String) : Bool := t.entries.any fun i => i.name == name

/-- Putting a description in place of those of its name keeps the names. -/
theorem map_name_replace (l : List OpcodeInfo) (info : OpcodeInfo) :
    (l.map fun i => if i.name == info.name then info else i).map (·.name) = l.map (·.name) := by
  rw [List.map_map]
  apply List.map_congr_left
  intro i _
  by_cases h : i.name = info.name <;> simp [h]

/-- A name that a table does not hold can go after its names. -/
theorem nodup_names_concat {l : List OpcodeInfo} (h : (l.map (·.name)).Nodup)
    {info : OpcodeInfo} (hn : ∀ i ∈ l, i.name ≠ info.name) :
    ((l ++ [info]).map (·.name)).Nodup := by
  rw [List.map_append, List.nodup_append]
  refine ⟨h, by simp, ?_⟩
  intro a ha b hb
  obtain ⟨i, hi, rfl⟩ := List.mem_map.mp ha
  rw [List.map_singleton, List.mem_singleton] at hb
  exact hb ▸ hn i hi

/-- Add a description: in place of the one with the same name, or at the end. -/
def insert (t : OpcodeTable) (info : OpcodeInfo) : OpcodeTable :=
  if h : t.contains info.name then
    ⟨t.entries.map fun i => if i.name == info.name then info else i,
      (map_name_replace t.entries info).symm ▸ t.nodup_names⟩
  else
    ⟨t.entries ++ [info],
      nodup_names_concat t.nodup_names fun i hi he => h (List.any_eq_true.mpr ⟨i, hi, by simp [he]⟩)⟩

/-- The number of opcodes described. -/
def size (t : OpcodeTable) : Nat := t.entries.length

/-- The names, in table order. -/
def names (t : OpcodeTable) : List String := t.entries.map (·.name)

/-- `t` updated with every description of `u`, in `u`'s order. -/
def union (t u : OpcodeTable) : OpcodeTable := u.entries.foldl insert t

/-- All tables merged in order, later descriptions winning. -/
def merge (ts : List OpcodeTable) : OpcodeTable := ts.foldl union empty

/-- The descriptions in increasing order of name. -/
def sortedByName (t : OpcodeTable) : List OpcodeInfo :=
  t.entries.mergeSort fun x y => decide (x.name ≤ y.name)

end OpcodeTable

end LuaListing
