import LuaListing.Text.Quoted

/-!
# Paths and file-system failures

The command line names files by paths.  A path is put in normal form before use: empty
components and `.` components are dropped (`a//./b` is `a/b`), a trailing `/` goes, the
empty path is `.`, a path starting with exactly two slashes keeps them, and `..` components stay as they are, since what they lead to depends
on the directories on the way.  The parent of a path drops its last component, whatever it
is (the parent of `x/..` is `x`); `.` and `/` are their own parents.

Failures of the file system are reported the way the operating system numbers them:
`[Errno 2] No such file or directory: 'x'`, with the path quoted.  A path holding a NUL
character names no file at all and is refused before the file system is asked.

## Main definitions

* `Path.normalize`, `Path.parent`, `Path.lineage`.
* `Errno`, `OsError`, `FsError` and their messages.
-/

namespace LuaListing

namespace Path

/-- The components of a path, without empty and `.` components. -/
def components (p : String) : List String :=
  (p.splitOn "/").filter fun c => c != "" && c != "."

/-- The root a path starts from: `//` when it starts with exactly two slashes, which POSIX
lets name a root of its own, `/` when it starts with one or more than two, and nothing for a
relative path. -/
def root (p : String) : String :=
  if p.startsWith "//" && !p.startsWith "///" then "//"
  else if p.startsWith "/" then "/" else ""

/-- Whether the path starts at a root. -/
def isAbsolute (p : String) : Bool := p.startsWith "/"

/-- A path from its root and components. -/
def ofComponents (root : String) (cs : List String) : String :=
  let body := String.intercalate "/" cs
  if root.isEmpty then (if body.isEmpty then "." else body) else root ++ body

/-- The normal form of a path. -/
def normalize (p : String) : String := ofComponents (root p) (components p)

/-- The parent of a path: without its last component. -/
def parent (p : String) : String := ofComponents (root p) (components p).dropLast

/-- A path followed by its parent, the parent's parent and so on, up to `.` or the root. -/
def lineage (p : String) : List String :=
  let cs := components p
  (List.range (cs.length + 1)).reverse.map fun k => ofComponents (root p) (cs.take k)

/-- Whether the path holds a NUL character. -/
def hasNul (p : String) : Bool := p.contains (Char.ofNat 0)

end Path

/-- A kind of file-system failure, by its error number. -/
inductive Errno where
  /-- Nothing exists at the path. -/
  | noEntry
  /-- A component of the path is not a directory. -/
  | notDirectory
  /-- The path is a directory. -/
  | isDirectory
  /-- Something already exists at the path. -/
  | fileExists
  /-- The path, or one of its components, is too long. -/
  | nameTooLong
  /-- Any other failure, by its number and description. -/
  | other (code : Nat) (description : String)
  deriving DecidableEq, Repr, Inhabited

namespace Errno

/-- The error number. -/
def code : Errno → Nat
  | noEntry => 2
  | notDirectory => 20
  | isDirectory => 21
  | fileExists => 17
  | nameTooLong => 36
  | other n _ => n

/-- The operating system's description. -/
def description : Errno → String
  | noEntry => "No such file or directory"
  | notDirectory => "Not a directory"
  | isDirectory => "Is a directory"
  | fileExists => "File exists"
  | nameTooLong => "File name too long"
  | other _ d => d

end Errno

/-- A failure of the file system at a path. -/
structure OsError where
  /-- What went wrong. -/
  errno : Errno
  /-- The path it went wrong at. -/
  path : String
  deriving DecidableEq, Repr, Inhabited

/-- `[Errno N] description: 'path'`. -/
def OsError.message (e : OsError) : String :=
  "[Errno " ++ toString e.errno.code ++ "] " ++ e.errno.description ++ ": " ++
    Glyph.quote (Glyph.ofString e.path)

/-- Why a file operation failed: the file system refused it, or the path held a NUL
character. -/
inductive FsError where
  /-- The file system refused. -/
  | os (e : OsError)
  /-- The path held a NUL character. -/
  | nullByte
  deriving DecidableEq, Repr, Inhabited

/-- The text of a failure. -/
def FsError.message : FsError → String
  | .os e => e.message
  | .nullByte => "embedded null byte"

end LuaListing
