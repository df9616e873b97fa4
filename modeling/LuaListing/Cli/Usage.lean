import LuaListing.Cli.Args

/-!
# Usage, help and version texts

The texts the command line prints: the usage summary that starts every error report, the
full help, and the version line.  Errors in the command line are reported as the usage
followed by `luac-annotate: error: ` and the message.

The help lists the listing path, then the general options, then the version options under
their own heading; each option's description starts at column 24, on the next line when
the option's spelling does not leave room.

## Main definitions

* `Cli.usage`, `Cli.help`, `Cli.versionText`.
* `Cli.errorText` — the report of a command-line error.
-/

namespace LuaListing

namespace Cli

/-- The program's name. -/
def programName : String := "luac-annotate"

/-- The program's version. -/
def programVersion : String := "0.3.0"

/-- The version line. -/
def versionText : String := programName ++ " " ++ programVersion ++ "\n"

/-- The usage summary. -/
def usage : String :=
  String.intercalate "\n"
    ["usage: luac-annotate [-h] [--lua50] [--lua51] [--lua52] [--lua53] [-o OUTPUT]",
     "                     [--column COLUMN] [--list-opcodes] [--trace TRACE]",
     "                     [--log-file LOG_FILE] [--verbose] [--version]",
     "                     [input]"] ++ "\n"

/-- One line of an option list: the spelling, then the description from column 24. -/
def optionLine (spelling description : String) : List String :=
  let lead := "  " ++ spelling
  if lead.length + 2 ≤ 24 then
    [lead ++ String.ofList (List.replicate (24 - lead.length) ' ') ++ description]
  else [lead, String.ofList (List.replicate 24 ' ') ++ description]

/-- The full help. -/
def help : String :=
  String.intercalate "\n"
    ([usage, "Annotate a 'luac -l -l' listing with opcode formulas and symbol names.", "",
      "positional arguments:"] ++
     optionLine "input" "Listing to annotate. Default reads standard input." ++
     ["", "options:"] ++
     optionLine "-h, --help" "show this help message and exit" ++
     optionLine "-o OUTPUT, --output OUTPUT" "Optional destination file. Default prints to stdout." ++
     optionLine "--column COLUMN" "Column annotations are aligned to (default: 24)" ++
     optionLine "--list-opcodes" "Print the selected opcode table as JSON and exit" ++
     optionLine "--trace TRACE" "Write an operand resolution trace to this file" ++
     optionLine "--log-file LOG_FILE" "Also write log records to this file" ++
     optionLine "--verbose" "Enable verbose colourised logging" ++
     optionLine "--version" "show program's version number and exit" ++
     ["", "opcode definitions:",
      "  Select one Lua version. Default merges all versions, newest definitions",
      "  winning.", ""] ++
     LuaVersion.all.flatMap (fun v =>
       optionLine v.flag ("use the Lua " ++ v.name ++ " opcode definitions"))) ++ "\n"

/-- The report of a command-line error. -/
def errorText (message : String) : String :=
  usage ++ programName ++ ": error: " ++ message ++ "\n"

end Cli

end LuaListing
