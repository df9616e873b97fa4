import LuaListing.Opcode.Definitions
import LuaListing.Opcode.Bundled
import LuaListing.Text.Quoted

/-!
# Lua versions

Four instruction sets are bundled, one per Lua release from 5.0 to 5.3.  Each has the
command-line flag that selects it and the name of the header it was taken from.  Without a
selection the four tables are merged oldest first, so the newest description of an opcode
wins and every opcode keeps the place where it first appeared.

All four tables are read whatever the selection, so their log records always come first;
a version that is not bundled is refused only after that.

## Main definitions

* `LuaVersion` — the bundled versions, `LuaVersion.all` in merge order.
* `LuaVersion.load` — the table of one version, with its log records.
* `VersionError` — a version name that is not bundled.
* `mergedTable` — the merge of the tables a mapping gives the bundled versions.
* `selectTable` — the table of a version, or the merged table.
-/

namespace LuaListing

/-- A Lua release whose instruction set is bundled. -/
inductive LuaVersion where
  | v50
  | v51
  | v52
  | v53
  deriving DecidableEq, Repr, Inhabited

namespace LuaVersion

/-- The bundled versions, oldest first: the order tables are merged in. -/
def all : List LuaVersion := [v50, v51, v52, v53]

/-- The version's name. -/
def name : LuaVersion → String
  | v50 => "5.0"
  | v51 => "5.1"
  | v52 => "5.2"
  | v53 => "5.3"

/-- The command-line flag that selects the version. -/
def flag : LuaVersion → String
  | v50 => "--lua50"
  | v51 => "--lua51"
  | v52 => "--lua52"
  | v53 => "--lua53"

/-- Where the version's header lives among the bundled resources. -/
def resource (v : LuaVersion) : String := "data/lopcodes-" ++ v.name ++ ".h"

/-- The version's opcode enumeration. -/
def definitions : LuaVersion → String
  | v50 => Bundled.lua50
  | v51 => Bundled.lua51
  | v52 => Bundled.lua52
  | v53 => Bundled.lua53

/-- The version with this name. -/
def ofName? (s : String) : Option LuaVersion := all.find? fun v => v.name == s

/-- The version's table, with the records of reading it: a warning when the text describes
no opcode, then the number of opcodes.  The resource is named by its path in the versions
package. -/
def load (v : LuaVersion) : OpcodeTable × List Record :=
  let parsed := OpcodeTable.parse v.definitions
  (parsed.1, parsed.2 ++
    (if parsed.1.size = 0 then
      [Record.warning (Glyph.ofString ("No opcode definitions found in " ++ v.resource))]
    else []) ++
    [Record.debug (Glyph.ofString
      ("Loaded " ++ toString parsed.1.size ++ " opcodes for Lua " ++ v.name))])

end LuaVersion

/-- A version name that is not bundled. -/
structure VersionError where
  /-- The name asked for. -/
  requested : String
  deriving DecidableEq, Repr, Inhabited

/-- The text of the error: the name is shown quoted. -/
def VersionError.message (e : VersionError) : String :=
  "unknown Lua version " ++ Glyph.quote (Glyph.ofString e.requested)

/-- The merge of the tables a mapping from version names gives the bundled versions, oldest
version first.  The mapping's own order, and its names that are no bundled version, play no
part. -/
def mergedTable (tables : List (String × OpcodeTable)) : OpcodeTable :=
  OpcodeTable.merge (LuaVersion.all.filterMap fun v => tables.lookup v.name)

/-- All bundled tables in merge order, with the records of reading them. -/
def loadAll : List (LuaVersion × OpcodeTable) × List Record :=
  LuaVersion.all.foldl
    (fun acc v => let l := v.load; (acc.1 ++ [(v, l.1)], acc.2 ++ l.2)) ([], [])

/-- The table a selection names: the version's table, or with no version the merge of all
of them.  The records of reading every bundled table come first in any case. -/
def selectTable (version : Option String) : List Record × Except VersionError OpcodeTable :=
  let loaded := loadAll
  match version with
  | none => (loaded.2, .ok (OpcodeTable.merge (loaded.1.map (·.2))))
  | some name =>
    match LuaVersion.ofName? name with
    | some v =>
      match loaded.1.lookup v with
      | some t => (loaded.2, .ok t)
      | none => (loaded.2, .error ⟨name⟩)
    | none => (loaded.2, .error ⟨name⟩)

end LuaListing
