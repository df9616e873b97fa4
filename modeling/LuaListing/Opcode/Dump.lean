import LuaListing.Opcode.Table
import LuaListing.Text.Quoted

/-!
# The opcode table as JSON text

The command line can print the selected opcode table as a JSON object keyed by opcode
name, names in increasing order, each value holding the name, the signature, the formula
and the three slot types.  The text is indented by two spaces per level, one member or
element per line, with `": "` after keys; an empty list is `[]` and an empty object `{}`.
Strings are written in ASCII: `"` and `\` are escaped, the controls with a short escape
(`\b`, `\f`, `\n`, `\r`, `\t`) use it, and every other character outside the printable
ASCII range is `\uXXXX`, characters beyond the basic plane as a surrogate pair.

## Main definitions

* `Dump.string` — a JSON string in ASCII.
* `Dump.table` — the table as indented JSON text.
-/

namespace LuaListing

namespace Dump

/-- One UTF-16 unit as a `\uXXXX` escape. -/
def unitEscape (n : Nat) : String := "\\u" ++ hexPadded 4 n

/-- How one character is written inside a JSON string in ASCII. -/
def escapeChar (c : Char) : String :=
  if c == '"' then "\\\""
  else if c == '\\' then "\\\\"
  else if c == '\n' then "\\n"
  else if c == '\r' then "\\r"
  else if c == '\t' then "\\t"
  else if c.toNat == 8 then "\\b"
  else if c.toNat == 12 then "\\f"
  else if 0x20 ≤ c.toNat && c.toNat ≤ 0x7E then String.singleton c
  else if c.toNat < 0x10000 then unitEscape c.toNat
  else
    let v := c.toNat - 0x10000
    unitEscape (0xD800 + v / 1024) ++ unitEscape (0xDC00 + v % 1024)

/-- A JSON string in ASCII. -/
def string (s : String) : String :=
  "\"" ++ s.toList.foldl (fun acc c => acc ++ escapeChar c) "" ++ "\""

/-- Spaces for an indentation level. -/
def indent (level : Nat) : String := String.ofList (List.replicate (2 * level) ' ')

/-- A JSON array whose elements are already written, at an indentation level. -/
def array (level : Nat) (items : List String) : String :=
  if items.isEmpty then "[]"
  else "[\n" ++ String.intercalate ",\n" (items.map (indent (level + 1) ++ ·)) ++ "\n" ++
    indent level ++ "]"

/-- A JSON object whose members are already written, at an indentation level. -/
def object (level : Nat) (members : List (String × String)) : String :=
  if members.isEmpty then "\x7b\x7d"
  else "\x7b\n" ++ String.intercalate ",\n"
      (members.map fun (k, v) => indent (level + 1) ++ string k ++ ": " ++ v) ++ "\n" ++
    indent level ++ "\x7d"

/-- A slot type, or `null`. -/
def optString : Option String → String
  | some s => string s
  | none => "null"

/-- One opcode's description as a JSON object at an indentation level. -/
def info (level : Nat) (i : OpcodeInfo) : String :=
  object level [("name", string i.name),
    ("signature", array (level + 1) (i.signature.map fun op => string op.name)),
    ("doc", string i.doc),
    ("operand_types", array (level + 1) (i.types.toList.map optString))]

/-- The table as JSON text, keyed by name in increasing order. -/
def table (t : OpcodeTable) : String :=
  object 0 (t.sortedByName.map fun i => (i.name, info 1 i))

end Dump

end LuaListing
