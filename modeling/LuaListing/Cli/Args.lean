import LuaListing.Opcode.Version
import LuaListing.Text.Blank
import LuaListing.Text.Numeral
import LuaListing.Cli.Path

/-!
# Command-line arguments

The command line takes at most one listing path and these options:

    -h, --help            show the help and exit
    --lua50 … --lua53     select one version's opcode table (the last one given wins)
    -o, --output OUTPUT   write the annotated listing to a file
    --column COLUMN       the column annotations start at (default 24)
    --list-opcodes        print the selected opcode table and exit
    --trace TRACE         write the operand-resolution trace to a file
    --log-file LOG_FILE   also write log records to a file
    --verbose             show every log record, coloured
    --version             show the version and exit

Words are read with the usual conventions of option parsers.  A long option may be
abbreviated to any prefix that no other option shares, and given its value after `=`; a
short option may have its value attached (`-oFILE`).  The word `--` ends the options.
A word that starts with `-` but is no option is an unknown option, unless it is a negative
number or holds a space.

Every word is first read for what it is, so an ambiguous abbreviation is reported before
anything else.  Then the words are taken in order: an option that needs a value takes the
next word, which must not be an option; the first run of plain words gives the listing
path (one word, after an optional `--`), and every other plain word is left over.  Help
and version end the reading as soon as they are taken; errors end it with a message; words
left over are reported at the end.

An option's value given in the same word as `--` (`--output=--`) is dropped like the word
`--` itself, which leaves the option with no value at all (`Supplied.nothing`).

## Main definitions

* `Cli.Action`, `Cli.optionTable` — the options and their spellings.
* `Cli.Word`, `Cli.readWord` — what one word is.
* `Cli.parseInt?` — an integer as the column option reads it.
* `Cli.Supplied` — an option's value, or none when it was given `--`.
* `Cli.Options`, `Cli.Parsed`, `Cli.parseArgs` — the reading of a whole command line.
-/

namespace LuaListing

namespace Cli

/-- What an option does. -/
inductive Action where
  | help
  | version
  | useVersion (v : LuaVersion)
  | output
  | column
  | listOpcodes
  | trace
  | logFile
  | verbose
  deriving DecidableEq, Repr, Inhabited

/-- The option spellings in the order the options are declared. -/
def optionTable : List (String × Action) :=
  [("-h", .help), ("--help", .help)] ++ LuaVersion.all.map (fun v => (v.flag, .useVersion v)) ++
  [("-o", .output), ("--output", .output), ("--column", .column),
   ("--list-opcodes", .listOpcodes), ("--trace", .trace), ("--log-file", .logFile),
   ("--verbose", .verbose), ("--version", .version)]

namespace Action

/-- Whether the option takes a value. -/
def takesValue : Action → Bool
  | output | column | trace | logFile => true
  | _ => false

/-- How errors name the option: its spellings joined by `/`. -/
def display (a : Action) : String :=
  String.intercalate "/" ((optionTable.filter (·.2 == a)).map (·.1))

end Action

/-- What one word of the command line is. -/
inductive Word where
  /-- A plain word. -/
  | plain (text : String)
  /-- `--`: the words after it are all plain. -/
  | separator
  /-- An option, or a word that looks like one (`action` is `none` for an unknown option),
  with the value given in the same word. -/
  | option (action : Option Action) (spelling : String) (attached : Option String)
  deriving DecidableEq, Repr, Inhabited

/-- The spelling of an option, if the word is exactly one. -/
def lookupOption (s : String) : Option Action := optionTable.lookup s

/-- Whether the word is a negative number: `-` and digits, or `-`, digits, `.`, digits; a
final newline is allowed. -/
def isNegativeNumber (s : String) : Bool :=
  let cs := s.toList
  let body := if cs.getLast? == some '\n' then cs.dropLast else cs
  let isDigit := fun c => (digitValue? c).isSome
  match body with
  | '-' :: rest =>
    (!rest.isEmpty && rest.all isDigit) ||
      (match rest.dropWhile isDigit with
       | '.' :: frac => !frac.isEmpty && frac.all isDigit
       | _ => false)
  | _ => false

/-- The options a word may abbreviate, with the value it carries. -/
def prefixMatches (s : String) : List (Action × String × Option String) :=
  if s.startsWith "--" then
    let (pre, attached) := match s.splitOn "=" with
      | [whole] => (whole, none)
      | first :: rest => (first, some (String.intercalate "=" rest))
      | [] => (s, none)
    optionTable.filterMap fun (o, a) => if o.startsWith pre then some (a, o, attached) else none
  else
    let short := String.ofList (s.toList.take 2)
    let rest := String.ofList (s.toList.drop 2)
    optionTable.filterMap fun (o, a) =>
      if o == short then some (a, o, some rest)
      else if o.startsWith s then some (a, o, none)
      else none

/-- What a word is; an abbreviation that fits several options is an error. -/
def readWord (s : String) : Except String Word :=
  if s.isEmpty || !s.startsWith "-" then .ok (.plain s)
  else match lookupOption s with
  | some a => .ok (.option (some a) s none)
  | none =>
    if s.length == 1 then .ok (.plain s)
    else
      let exactWithValue : Option Word :=
        match s.splitOn "=" with
        | first :: rest@(_ :: _) =>
          (lookupOption first).map fun a => .option (some a) first (some (String.intercalate "=" rest))
        | _ => none
      match exactWithValue with
      | some w => .ok w
      | none =>
        match prefixMatches s with
        | [(a, o, v)] => .ok (.option (some a) o v)
        | _ :: _ :: _ =>
          .error ("ambiguous option: " ++ s ++ " could match " ++
            String.intercalate ", " ((prefixMatches s).map (·.2.1)))
        | [] =>
          if isNegativeNumber s || s.contains ' ' then .ok (.plain s)
          else .ok (.option none s none)

/-- Read the words in order; after `--` every word is plain. -/
def readWords : List String → Except String (List Word)
  | [] => .ok []
  | w :: ws =>
    if w == "--" then .ok (.separator :: ws.map Word.plain)
    else do
      let first ← readWord w
      let rest ← readWords ws
      return first :: rest

/-- Decimal digits of any script with single underscores between them: their value and
how many digits there are. -/
def digitGroups : List Char → Option (Nat × Nat)
  | [] => none
  | c :: rest => (digitValue? c).bind fun d => moreGroups d 1 rest
where
  /-- The digits after a digit. -/
  moreGroups (acc count : Nat) : List Char → Option (Nat × Nat)
    | [] => some (acc, count)
    | '_' :: c :: rest => (digitValue? c).bind fun d => moreGroups (10 * acc + d) (count + 1) rest
    | c :: rest => (digitValue? c).bind fun d => moreGroups (10 * acc + d) (count + 1) rest

/-- The blanks an integer may have around it: the ASCII blanks space, tab, line feed,
vertical tab, form feed and carriage return, and every blank beyond ASCII.  The ASCII
separators `\x1c` to `\x1f` are not among them. -/
def isIntegerBlank (c : Char) : Bool :=
  if c.toNat < 128 then c == ' ' || (9 ≤ c.toNat && c.toNat ≤ 13) else isBlankChar c

/-- An integer as the column option reads it: blanks around it (`isIntegerBlank`), an
optional sign, decimal digits of any script with single underscores between them, and no
more than `maxDigits` digits. -/
def parseInt? (s : String) : Option Int :=
  let body := ((s.toList.dropWhile isIntegerBlank).reverse.dropWhile isIntegerBlank).reverse
  let signed : Option (Bool × Nat × Nat) :=
    match body with
    | '-' :: rest => (digitGroups rest).map fun (n, k) => (true, n, k)
    | '+' :: rest => (digitGroups rest).map fun (n, k) => (false, n, k)
    | cs => (digitGroups cs).map fun (n, k) => (false, n, k)
  match signed with
  | some (negative, n, count) =>
    if count > maxDigits then none else some (if negative then -(n : Int) else n)
  | none => none

/-- What an option that takes a value was given: a value, or the word `--`, which the
reading drops and so leaves the option with no value at all. -/
inductive Supplied (α : Type) where
  /-- A value. -/
  | value (a : α)
  /-- No value. -/
  | nothing
  deriving DecidableEq, Repr, Inhabited

/-- The settings a command line asks for. -/
structure Options where
  /-- The selected version, if any. -/
  version : Option LuaVersion := none
  /-- The output file, if any. -/
  output : Option (Supplied String) := none
  /-- The annotation column. -/
  column : Supplied Int := .value 24
  /-- Print the opcode table and stop. -/
  listOpcodes : Bool := false
  /-- The trace file, if any. -/
  trace : Option (Supplied String) := none
  /-- The log file, if any. -/
  logFile : Option (Supplied String) := none
  /-- Show every log record. -/
  verbose : Bool := false
  /-- The listing to read; standard input when none. -/
  input : Option String := none
  deriving DecidableEq, Repr, Inhabited

/-- How reading a command line ends. -/
inductive Parsed where
  /-- Run with these settings. -/
  | run (o : Options)
  /-- Show the help. -/
  | help
  /-- Show the version. -/
  | version
  /-- Stop with this error. -/
  | error (message : String)
  deriving DecidableEq, Repr, Inhabited

/-- The error of an option. -/
def optionError (a : Action) (msg : String) : Parsed :=
  .error ("argument " ++ a.display ++ ": " ++ msg)

/-- The error of a value given to an option that takes none. -/
def ignoredValue (a : Action) (v : String) : Parsed :=
  optionError a ("ignored explicit argument " ++ Glyph.quote (Glyph.ofString v))

/-- The state of reading: the settings so far, whether the listing path may still come,
and the words nothing took. -/
structure Reading where
  /-- The settings so far. -/
  options : Options := {}
  /-- Whether the listing path may still be given. -/
  pathPending : Bool := true
  /-- Words that nothing took. -/
  extras : List String := []
  deriving DecidableEq, Repr, Inhabited

/-- A path given to an option: `--` leaves the option with no value. -/
def suppliedPath (p : String) : Supplied String :=
  if p == "--" then .nothing else .value (Path.normalize p)

/-- Take an option with its value, if it takes one; help and version end the reading. -/
def take (r : Reading) (a : Action) (value : Option String) : Except Parsed Reading :=
  let o := r.options
  match a, value with
  | .help, _ => .error .help
  | .version, _ => .error .version
  | .useVersion v, _ => .ok { r with options := { o with version := some v } }
  | .listOpcodes, _ => .ok { r with options := { o with listOpcodes := true } }
  | .verbose, _ => .ok { r with options := { o with verbose := true } }
  | .output, some p => .ok { r with options := { o with output := some (suppliedPath p) } }
  | .trace, some p => .ok { r with options := { o with trace := some (suppliedPath p) } }
  | .logFile, some p => .ok { r with options := { o with logFile := some (suppliedPath p) } }
  | .column, some s =>
    if s == "--" then .ok { r with options := { o with column := .nothing } }
    else
      match parseInt? s with
      | some n => .ok { r with options := { o with column := .value n } }
      | none => .error (optionError .column ("invalid int value: " ++ Glyph.quote (Glyph.ofString s)))
  | _, none => .ok r

/-- Take options in order. -/
def takeAll (r : Reading) : List (Action × Option String) → Except Parsed Reading
  | [] => .ok r
  | (a, v) :: rest => do takeAll (← take r a v) rest

/-- Single-letter options sharing one word, as in `-hoFILE`: after an option that takes
no value, each further letter is another option, until one that takes the rest of the word
as its value.  Returns the options with their values and the last option when it ends the
word and may take the next word. -/
def cluster (a : Action) : List Char →
    Except Parsed (List (Action × Option String) × Option Action)
  | [] => .ok ([(a, none)], none)
  | c :: more =>
    match lookupOption (String.ofList ['-', c]) with
    | none => .error (ignoredValue a (String.ofList (c :: more)))
    | some next =>
      match more with
      | [] => .ok ([(a, none)], some next)
      | d :: ds =>
        if next.takesValue then .ok ([(a, none), (next, some (String.ofList (d :: ds)))], none)
        else do
          let (taken, last) ← cluster next (d :: ds)
          return ((a, none) :: taken, last)

/-- The listing path, or the next word nothing takes. -/
def takePlain (r : Reading) (p : String) : Reading :=
  let o := r.options
  if r.pathPending then
    { r with options := { o with input := some (Path.normalize p) }, pathPending := false }
  else { r with extras := r.extras ++ [p] }

/-- Read the words in order. -/
def consume (r : Reading) : List Word → Except Parsed Reading
  | [] => .ok r
  | .option none spelling _ :: rest => consume { r with extras := r.extras ++ [spelling] } rest
  | .option (some a) spelling (some v) :: rest =>
    if a.takesValue then do consume (← take r a (some v)) rest
    else if spelling.length == 2 && v != "" then do
      let (taken, last) ← cluster a v.toList
      match last with
      | none => consume (← takeAll r taken) rest
      | some next =>
        if next.takesValue then
          match rest with
          | .plain value :: more => consume (← takeAll r (taken ++ [(next, some value)])) more
          | _ => .error (optionError next "expected one argument")
        else consume (← takeAll r (taken ++ [(next, none)])) rest
    else .error (ignoredValue a v)
  | .option (some a) _ none :: rest =>
    if a.takesValue then
      match rest with
      | .plain value :: more => do consume (← take r a (some value)) more
      | _ => .error (optionError a "expected one argument")
    else do consume (← take r a none) rest
  | .plain p :: .separator :: more =>
    if r.pathPending then consume (takePlain r p) more
    else consume (takePlain r p) (.separator :: more)
  | .plain p :: rest => consume (takePlain r p) rest
  | .separator :: .plain p :: more =>
    if r.pathPending then consume (takePlain r p) more
    else consume { r with extras := r.extras ++ ["--"] } (.plain p :: more)
  | .separator :: rest =>
    if r.pathPending then consume { r with pathPending := false } rest
    else consume { r with extras := r.extras ++ ["--"] } rest
termination_by words => words.length

/-- Read a command line. -/
def parseArgs (argv : List String) : Parsed :=
  match readWords argv with
  | .error msg => .error msg
  | .ok words =>
    match consume {} words with
    | .error p => p
    | .ok r =>
      if r.extras.isEmpty then .run r.options
      else .error ("unrecognized arguments: " ++ String.intercalate " " r.extras)

end Cli

end LuaListing
