import LuaListing.Text.Glyph

/-!
# Log records

While it works the program reports what it does as log records: a level and a message.
Messages may quote listing text, so they are glyph lists.  A record goes either to the
diagnostics, which the command line shows on standard error, or to the operand-resolution
trace, which the command line writes to a file when asked and otherwise shows as
diagnostics.

## Main definitions

* `Level` — debug, info, warning, error, in increasing severity.
* `Channel` — diagnostics or trace.
* `Record` — one log record; `Record.debug`, `Record.warning`, ... build them.
* `Record.line` — `LEVEL: message`, the way records are shown.
-/

namespace LuaListing

/-- The severity of a log record. -/
inductive Level where
  | debug
  | info
  | warning
  | error
  deriving DecidableEq, Repr, Inhabited

namespace Level

/-- The severity as a number, higher is more severe. -/
def rank : Level → Nat
  | debug => 10
  | info => 20
  | warning => 30
  | error => 40

/-- The name a record's level is shown with. -/
def name : Level → String
  | debug => "DEBUG"
  | info => "INFO"
  | warning => "WARNING"
  | error => "ERROR"

/-- The terminal colour of a level: blue, green, yellow and red. -/
def colour : Level → String
  | debug => "blue"
  | info => "green"
  | warning => "yellow"
  | error => "red"

end Level

/-- Where a record is sent. -/
inductive Channel where
  /-- The program's own diagnostics. -/
  | diagnostics
  /-- The trace of how operands were resolved. -/
  | trace
  deriving DecidableEq, Repr, Inhabited

/-- One log record. -/
structure Record where
  /-- Where the record goes. -/
  channel : Channel := .diagnostics
  /-- Its severity. -/
  level : Level
  /-- Its text. -/
  message : List Glyph
  deriving DecidableEq, Repr, Inhabited

namespace Record

/-- A diagnostic at debug level. -/
def debug (m : List Glyph) : Record := { level := .debug, message := m }

/-- A diagnostic at info level. -/
def info (m : List Glyph) : Record := { level := .info, message := m }

/-- A diagnostic at warning level. -/
def warning (m : List Glyph) : Record := { level := .warning, message := m }

/-- A diagnostic at error level. -/
def error (m : List Glyph) : Record := { level := .error, message := m }

/-- A trace record; traces are always at debug level. -/
def trace (m : List Glyph) : Record := { channel := .trace, level := .debug, message := m }

/-- The record as shown: `LEVEL: message`, raw bytes of the message escaped. -/
def line (r : Record) : String := r.level.name ++ ": " ++ Glyph.logText r.message

/-- Whether the record is a diagnostic at warning level or above. -/
def isWarning (r : Record) : Bool :=
  r.channel == .diagnostics && Level.warning.rank ≤ r.level.rank

end Record

end LuaListing
