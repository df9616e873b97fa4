import LuaListing.Cli.Usage
import LuaListing.Opcode.Dump
import LuaListing.Listing.Annotator
import LuaListing.Text.Utf8
import LuaListing.Text.Ansi
import LuaListing.Text.Lines
import LuaListing.Cli.WriteBuffer

/-!
# Running the command line

`Cli.run` carries out one invocation: it reads the command line, selects the opcode table,
reads the listing from a file or standard input, collects the symbols, annotates every
line and writes the result to standard output or a file.  It talks to the system through
a `Host`, so the same definition runs against the real file system and against a file
system held in memory.

The steps and their failures, in order:

* a command-line error prints the usage and the error and exits with 2; help and version
  print their text and exit with 0;
* `--log-file` creates the log file (and its directory);
* a negative column is a command-line error;
* `--list-opcodes` prints the selected table as JSON and exits with 0;
* `--trace` creates the trace file (and its directory) before anything is read;
* a listing that cannot be read is reported as `cannot read PATH: REASON`, exit 1;
* the symbols of all lines are collected;
* an output file that cannot be created is reported as `Unable to write output: REASON`,
  exit 1;
* the lines are annotated one by one; otherwise the exit code is 0, after a note of how
  many instructions had unknown opcodes.

Some failures are not handled and end the invocation with a `Fault` where they happen: a
log or trace file that cannot be created, a path holding a NUL character, a numeral with
too many digits in the listing, and an option that needs a value but was given `--`.

Log records go to standard error as `LEVEL: message`: only warnings and errors normally,
every record with `--verbose`, each then coloured by its level.  The log file gets the same
records, uncoloured.  Trace records go to the trace file when there is one, one message a
line, and are ordinary debug records otherwise.  Every record is written to its files as it
is logged, before the lines of its step are written; the output file receives the lines
through a `WriteBuffer`.

## Main definitions

* `Cli.Host`, `Cli.Fault`, `Cli.Outcome`.
* `Cli.Sinks`, `Cli.Sinks.emit` — where records go.
* `Cli.Destination`, `Cli.annotateSteps` — where annotated lines go, step by step.
* `Cli.run` — one invocation.
-/

namespace LuaListing

namespace Cli

/-- What an invocation needs from the system it runs on; `handle` is the type of files open
for writing. -/
structure Host (m : Type → Type) (handle : Type) where
  /-- Everything on standard input. -/
  stdinBytes : m (List UInt8)
  /-- The contents of a file. -/
  fileBytes : String → m (Except OsError (List UInt8))
  /-- Create a directory with its missing parents. -/
  createDirs : String → m (Except OsError Unit)
  /-- Open a file for writing, creating or emptying it. -/
  openOutput : String → m (Except OsError handle)
  /-- Write bytes to an open file. -/
  putBytes : handle → List UInt8 → m Unit

/-- A failure the program does not handle: it stops where the failure happens. -/
inductive Fault where
  /-- A log, trace or output file could not be used. -/
  | file (e : FsError)
  /-- A line of the listing holds a numeral with too many digits. -/
  | digits (e : DigitLimitError)
  /-- An option that needs a value was left with none (it was given `--`). -/
  | noValue (a : Action)
  deriving DecidableEq, Repr, Inhabited

/-- The text of a fault. -/
def Fault.message : Fault → String
  | .file e => e.message
  | .digits e => e.message
  | .noValue a => "argument " ++ a.display ++ " has no value"

/-- How an invocation ends: with an exit code, or with a failure it does not handle. -/
inductive Ending where
  /-- The program exits with this code. -/
  | exit (code : Nat)
  /-- The program stops at this failure. -/
  | fault (f : Fault)
  deriving DecidableEq, Repr, Inhabited

/-- What an invocation printed and how it ended. -/
structure Outcome where
  /-- The bytes written to standard output. -/
  stdout : List UInt8 := []
  /-- The text written to standard error. -/
  stderr : String := ""
  /-- How it ended. -/
  ending : Ending
  deriving DecidableEq, Repr, Inhabited

/-- A record from plain text. -/
def note (level : Level) (text : String) : Record := { level := level, message := Glyph.ofString text }

/-- Where the records of a run go. -/
structure Sinks (handle : Type) where
  /-- Show every record, coloured. -/
  verbose : Bool := false
  /-- The log file, if any. -/
  log : Option handle := none
  /-- The trace file, if any. -/
  trace : Option handle := none

namespace Sinks

variable {handle : Type}

/-- Whether a record goes to the trace file. -/
def toTrace (s : Sinks handle) (r : Record) : Bool := s.trace.isSome && r.channel == .trace

/-- Whether a record is logged: with `--verbose` every record is, otherwise warnings and
errors; records for the trace file are not. -/
def logs (s : Sinks handle) (r : Record) : Bool :=
  !s.toTrace r && (s.verbose || Level.warning.rank ≤ r.level.rank)

/-- How a logged record shows on standard error. -/
def shown (s : Sinks handle) (r : Record) : String :=
  if s.verbose then Ansi.colourise r.line r.level.colour ++ "\n" else r.line ++ "\n"

/-- Standard error for some records. -/
def render (s : Sinks handle) (records : List Record) : String :=
  String.join ((records.filter s.logs).map s.shown)

/-- Send records to the files they go to, in order; returns what they show on standard
error. -/
def emit {m : Type → Type} [Monad m] (host : Host m handle) (s : Sinks handle) :
    List Record → m String
  | [] => return ""
  | r :: rs => do
    if s.toTrace r then
      if let some h := s.trace then
        host.putBytes h (Utf8.encode (Glyph.ofString (Glyph.logText r.message ++ "\n")))
    else if s.logs r then
      if let some h := s.log then
        host.putBytes h (Utf8.encode (Glyph.ofString (r.line ++ "\n")))
    let rest ← s.emit host rs
    return (if s.logs r then s.shown r else "") ++ rest

end Sinks

/-- Refuse a path holding a NUL character, else ask the host. -/
def checked {m : Type → Type} [Monad m] {α : Type} (path : String)
    (act : m (Except OsError α)) : m (Except FsError α) := do
  if Path.hasNul path then return .error .nullByte
  else
    match ← act with
    | .ok a => return .ok a
    | .error e => return .error (.os e)

/-- Open a file for writing after creating its directory. -/
def openWithDirs {m : Type → Type} [Monad m] {handle : Type} (host : Host m handle)
    (path : String) : m (Except FsError handle) := do
  let dir := Path.parent path
  match ← checked dir (host.createDirs dir) with
  | .error e => return .error e
  | .ok () => checked path (host.openOutput path)

/-- Open the file an option names, after creating its directory: nothing when the option
is absent, a fault when it was left with no value or the file cannot be opened. -/
def openOptional {m : Type → Type} [Monad m] {handle : Type} (host : Host m handle)
    (a : Action) : Option (Supplied String) → m (Except Fault (Option handle))
  | none => return .ok none
  | some .nothing => return .error (.noValue a)
  | some (.value path) => do
    match ← openWithDirs host path with
    | .ok h => return .ok (some h)
    | .error e => return .error (.file e)

/-- Read the listing from a file or standard input, with the record of reading it. -/
def readListing {m : Type → Type} [Monad m] {handle : Type} (host : Host m handle) :
    Option String → m (Except FsError (List UInt8 × Record))
  | some path => do
    match ← checked path (host.fileBytes path) with
    | .ok bytes =>
      return .ok (bytes, note .debug ("Read " ++ toString bytes.length ++ " bytes from " ++ path))
    | .error e => return .error e
  | none => do
    let bytes ← host.stdinBytes
    return .ok (bytes, note .debug ("Read " ++ toString bytes.length ++ " bytes from stdin"))

/-- Where annotated lines go: gathered for standard output, or written to a file through a
`WriteBuffer`. -/
inductive Destination (handle : Type) where
  /-- Standard output; the chunks written so far, last first. -/
  | stdout (chunks : List (List UInt8))
  /-- A file open for writing, and its buffer. -/
  | file (h : handle) (buffer : WriteBuffer)

/-- Send writes that reach a file to it. -/
def putAll {m : Type → Type} [Monad m] {handle : Type} (host : Host m handle) (h : handle) :
    List (List UInt8) → m Unit
  | [] => return ()
  | w :: ws => do host.putBytes h w; putAll host h ws

/-- Write one piece of text to a destination. -/
def Destination.writePiece {m : Type → Type} [Monad m] {handle : Type} (host : Host m handle) :
    Destination handle → List UInt8 → m (Destination handle)
  | .stdout chunks, piece => return .stdout (piece :: chunks)
  | .file h buffer, piece => do
    let (buffer', writes) := buffer.write piece
    putAll host h writes
    return .file h buffer'

/-- Write lines to a destination: each line, then its line feed. -/
def Destination.writeLines {m : Type → Type} [Monad m] {handle : Type} (host : Host m handle) :
    Destination handle → List (List Glyph) → m (Destination handle)
  | d, [] => return d
  | d, l :: ls => do
    let d ← d.writePiece host (Utf8.encode l)
    let d ← d.writePiece host [10]
    Destination.writeLines host d ls

/-- Finish writing: a file's buffer is emptied into it; returns standard output. -/
def Destination.finish {m : Type → Type} [Monad m] {handle : Type} (host : Host m handle) :
    Destination handle → m (List UInt8)
  | .stdout chunks => return chunks.reverse.flatten
  | .file h buffer => do putAll host h buffer.close; return []

/-- What annotating the lines did: the annotator after the last step taken, the destination,
standard error, and the numeral that stopped it, if one did. -/
structure Steps (handle : Type) where
  /-- The annotator after the last step. -/
  annotator : Annotator
  /-- Where the lines went. -/
  destination : Destination handle
  /-- Standard error so far. -/
  stderr : String
  /-- The numeral that stopped the annotation. -/
  stopped : Option DigitLimitError := none

/-- Annotate lines one after another: the records of each step are sent as they are logged,
then the step's lines are written. -/
def annotateSteps {m : Type → Type} [Monad m] {handle : Type} (host : Host m handle)
    (s : Sinks handle) : Annotator → Destination handle → List (List Glyph) → m (Steps handle)
  | a, d, [] => return { annotator := a, destination := d, stderr := "" }
  | a, d, l :: ls => do
    match a.step l with
    | .error e => return { annotator := a, destination := d, stderr := "", stopped := some e }
    | .ok (a', w) =>
      let err ← s.emit host w.records
      let d' ← d.writeLines host w.lines
      let rest ← annotateSteps host s a' d' ls
      return { rest with stderr := err ++ rest.stderr }

/-- Annotate with settings already read: select the table, read, collect the symbols,
annotate, write. -/
def annotateWith {m : Type → Type} [Monad m] {handle : Type} (host : Host m handle)
    (s : Sinks handle) (o : Options) (column : Int) : m Outcome := do
  let (tableRecords, selected) := selectTable (o.version.map LuaVersion.name)
  let err ← s.emit host tableRecords
  match selected with
  | .error e =>
    let err' ← s.emit host [note .error e.message]
    return { stderr := err ++ err', ending := .exit 1 }
  | .ok table =>
    match ← readListing host o.input with
    | .error (.os e) =>
      let err' ← s.emit host [note .error ("cannot read " ++ e.path ++ ": " ++ e.message)]
      return { stderr := err ++ err', ending := .exit 1 }
    | .error .nullByte => return { stderr := err, ending := .fault (.file .nullByte) }
    | .ok (bytes, readRecord) =>
      let err := err ++ (← s.emit host [readRecord])
      let lines := Lines.split (Lines.normalize (Utf8.decode bytes))
      match collectSymbols lines with
      | .error e => return { stderr := err, ending := .fault (.digits e) }
      | .ok (symbols, symbolRecords) =>
        let err := err ++ (← s.emit host symbolRecords)
        let start : Annotator := { opcodes := table, symbols := symbols, layout := { column := column } }
        let destination ← match o.output with
          | none => pure (Except.ok (Destination.stdout []))
          | some .nothing => pure (Except.error (Fault.noValue .output))
          | some (.value path) => do
            match ← openWithDirs host path with
            | .ok h => pure (Except.ok (Destination.file h {}))
            | .error (.os e) => pure (Except.error (Fault.file (.os e)))
            | .error .nullByte => pure (Except.error (Fault.file .nullByte))
        match destination with
        | .error (.file (.os e)) =>
          let err' ← s.emit host [note .error ("Unable to write output: " ++ e.message)]
          return { stderr := err ++ err', ending := .exit 1 }
        | .error f => return { stderr := err, ending := .fault f }
        | .ok d =>
          let steps ← annotateSteps host s start d lines
          let out ← steps.destination.finish host
          let err := err ++ steps.stderr
          match steps.stopped with
          | some e => return { stdout := out, stderr := err, ending := .fault (.digits e) }
          | none =>
            let wrote := match o.output with
              | some (.value path) => [note .info ("Wrote annotated listing to " ++ path)]
              | _ => []
            let unknown := steps.annotator.unknownOpcodes
            let summary :=
              if unknown > 0 then
                [note .info (toString unknown ++ " instruction(s) used unknown opcodes")]
              else []
            let err' ← s.emit host (wrote ++ summary)
            return { stdout := out, stderr := err ++ err', ending := .exit 0 }

/-- One invocation with the given command line. -/
def run {m : Type → Type} [Monad m] {handle : Type} (host : Host m handle)
    (argv : List String) : m Outcome := do
  match parseArgs argv with
  | .help => return { stdout := Utf8.encode (Glyph.ofString help), ending := .exit 0 }
  | .version => return { stdout := Utf8.encode (Glyph.ofString versionText), ending := .exit 0 }
  | .error msg => return { stderr := errorText msg, ending := .exit 2 }
  | .run o =>
    match ← openOptional host .logFile o.logFile with
    | .error f => return { ending := .fault f }
    | .ok log =>
      let s : Sinks handle := { verbose := o.verbose, log := log }
      match o.column with
      | .nothing => return { ending := .fault (.noValue .column) }
      | .value column =>
        if column < 0 then
          return { stderr := errorText "--column must not be negative", ending := .exit 2 }
        else if o.listOpcodes then
          let (records, selected) := selectTable (o.version.map LuaVersion.name)
          let err ← s.emit host records
          match selected with
          | .error e =>
            let err' ← s.emit host [note .error e.message]
            return { stderr := err ++ err', ending := .exit 1 }
          | .ok table =>
            return { stdout := Utf8.encode (Glyph.ofString (Dump.table table ++ "\n")),
                     stderr := err, ending := .exit 0 }
        else
          match ← openOptional host .trace o.trace with
          | .error f => return { ending := .fault f }
          | .ok trace => annotateWith host { s with trace := trace } o column

end Cli

end LuaListing
