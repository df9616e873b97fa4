import LuaListing.Cli.Run

/-!
# The command-line program

Reads the command line, runs `Cli.run` against the real file system, prints what it
printed and exits with its exit code.
-/

namespace LuaListing

namespace Cli

/-- The error number an IO failure carries. -/
def errorCode : IO.Error → Nat
  | .alreadyExists _ c _ | .otherError c _ | .resourceBusy c _ | .resourceVanished c _
  | .unsupportedOperation c _ | .hardwareFault c _ | .unsatisfiedConstraints c _
  | .illegalOperation c _ | .protocolError c _ | .timeExpired c _ | .interrupted _ c _
  | .noFileOrDirectory _ c _ | .invalidArgument _ c _ | .permissionDenied _ c _
  | .resourceExhausted _ c _ | .inappropriateType _ c _ | .noSuchThing _ c _ => c.toNat
  | .unexpectedEof | .userError _ => 5

/-- An IO failure at a path as a file-system error. -/
def osError (path : String) (e : IO.Error) : OsError :=
  let errno : Errno :=
    match errorCode e with
    | 2 => .noEntry
    | 17 => .fileExists
    | 20 => .notDirectory
    | 21 => .isDirectory
    | 36 => .nameTooLong
    | n => .other n (toString e)
  ⟨errno, path⟩

/-- Run an IO action on a path, catching its failure. -/
def attempt {α : Type} (path : String) (act : IO α) : IO (Except OsError α) := do
  try return .ok (← act) catch e => return .error (osError path e)

/-- The real file system and standard input. -/
def systemHost : Host IO IO.FS.Handle where
  stdinBytes := do return (← (← IO.getStdin).readBinToEnd).toList
  fileBytes p := attempt p do return (← IO.FS.readBinFile p).toList
  createDirs p := attempt p (IO.FS.createDirAll p)
  openOutput p := attempt p (IO.FS.Handle.mk p .write)
  putBytes h bs := do
    h.write (ByteArray.mk bs.toArray)
    h.flush

end Cli

end LuaListing

/-- Annotate a listing as the command line asks. -/
def main (args : List String) : IO UInt32 := do
  let outcome ← LuaListing.Cli.run LuaListing.Cli.systemHost args
  let out ← IO.getStdout
  out.write (ByteArray.mk outcome.stdout.toArray)
  out.flush
  let err ← IO.getStderr
  err.putStr outcome.stderr
  match outcome.ending with
  | .exit code =>
    err.flush
    return code.toUInt32
  | .fault e =>
    err.putStrLn (LuaListing.Cli.programName ++ ": " ++ e.message)
    err.flush
    return 1
