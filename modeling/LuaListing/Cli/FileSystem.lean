import LuaListing.Cli.Path

/-!
# A file system in memory

A `FileSystem` is a tree of directories and files, a working directory in it, and the files
opened for writing.  Its operations follow POSIX:

* a path is followed component by component from the root or the working directory; each
  `..` leads to the parent of the directory reached so far, so `x/..` needs `x` to be a
  directory, and the root is its own parent;
* a path of 4096 bytes or more, or a component of more than 255 bytes, is too long;
* reading a directory, or opening one for writing, is an error; creating a directory where
  something exists is an error;
* a file is created or emptied when opened for writing, and every opening keeps its own
  write position, so two openings of one file write over each other.

`FileSystem.makeDirs` creates a directory with the missing directories above it the way the
command line does it: it tries to create the directory, creates the parent first when the
parent is missing, and accepts a failure when a directory is there after all.

## Main definitions

* `Entry` — a file or a directory.
* `FileSystem.read`, `FileSystem.makeDir`, `FileSystem.makeDirs`, `FileSystem.openOutput`,
  `FileSystem.putBytes`, `FileSystem.namedFiles`.
-/

namespace LuaListing

/-- A file with its bytes, or a directory with its named entries in creation order. -/
inductive Entry where
  /-- A file. -/
  | file (bytes : List UInt8)
  /-- A directory. -/
  | dir (entries : List (String × Entry))
  deriving Inhabited

/-- The longest path, in bytes, that names a file. -/
def maxPathBytes : Nat := 4095

/-- The longest component of a path, in bytes. -/
def maxNameBytes : Nat := 255

/-- Set the entry of a name in a list of entries: replace it where it stands, or add it at
the end. -/
def setEntry (es : List (String × Entry)) (name : String) (e : Entry) : List (String × Entry) :=
  if es.any (·.1 == name) then es.map fun p => if p.1 == name then (name, e) else p
  else es ++ [(name, e)]

namespace Entry

/-- The entry at a path of names below this one. -/
def find? : Entry → List String → Option Entry
  | e, [] => some e
  | .dir es, n :: ns => (es.lookup n).bind fun e => e.find? ns
  | .file _, _ :: _ => none

/-- Put an entry at a path of names below this one, creating missing directories on the
way; a file on the way is left as it is. -/
def put : Entry → List String → Entry → Entry
  | _, [], e => e
  | .dir es, n :: ns, e => .dir (setEntry es n (((es.lookup n).getD (.dir [])).put ns e))
  | .file bs, _ :: _, _ => .file bs

/-- Whether the entry is a directory. -/
def isDir : Entry → Bool
  | .dir _ => true
  | .file _ => false

mutual
/-- The files below an entry, by their paths of names. -/
def files : Entry → List (List String × List UInt8)
  | .file bs => [([], bs)]
  | .dir es => filesOf es

/-- The files below a list of named entries. -/
def filesOf : List (String × Entry) → List (List String × List UInt8)
  | [] => []
  | (n, e) :: rest => (e.files.map fun f => (n :: f.1, f.2)) ++ filesOf rest
end

end Entry

/-- The name of the working directory in the root. -/
def workName : String := "work"

/-- Files and directories, the working directory, and the files opened for writing. -/
structure FileSystem where
  /-- The root directory. -/
  root : Entry := .dir [(workName, .dir [])]
  /-- The path of names from the root to the working directory. -/
  work : List String := [workName]
  /-- The files opened for writing: their paths from the root and write positions. -/
  outputs : List (List String × Nat) := []
  deriving Inhabited

namespace FileSystem

/-- The entry at a path of names from the root. -/
def entryAt? (fs : FileSystem) (loc : List String) : Option Entry := fs.root.find? loc

/-- Whether a component is too long. -/
def tooLong (name : String) : Bool := name.utf8ByteSize > maxNameBytes

/-- Follow components through directories; `here` is the path reached so far, innermost
name first, and `node` the directory there. -/
def walk (fs : FileSystem) : List String → Entry → List String → Except Errno (List String)
  | here, _, [] => .ok here
  | here, node, c :: cs =>
    if c == ".." then
      let up := here.drop 1
      fs.walk up ((fs.entryAt? up.reverse).getD (.dir [])) cs
    else if tooLong c then .error .nameTooLong
    else
      match node with
      | .dir es =>
        match es.lookup c with
        | some (.dir es') => fs.walk (c :: here) (.dir es') cs
        | some (.file _) => .error .notDirectory
        | none => .error .noEntry
      | .file _ => .error .notDirectory

/-- Where a normalised path leads, as a path of names from the root: every component but
the last must lead through directories, and the last must not be too long. -/
def locate (fs : FileSystem) (p : String) : Except Errno (List String) :=
  if p.utf8ByteSize > maxPathBytes then .error .nameTooLong
  else
    let start := if Path.isAbsolute p then [] else fs.work
    let cs := Path.components p
    match cs.getLast? with
    | none => .ok start
    | some last => do
      let here ← fs.walk start.reverse ((fs.entryAt? start).getD (.dir [])) cs.dropLast
      if last == ".." then return (here.drop 1).reverse
      else if tooLong last then throw .nameTooLong
      else return (last :: here).reverse

/-- The contents of the file at a path. -/
def read (fs : FileSystem) (path : String) : Except OsError (List UInt8) :=
  let p := Path.normalize path
  match fs.locate p with
  | .error e => .error ⟨e, p⟩
  | .ok loc =>
    match fs.entryAt? loc with
    | some (.file bytes) => .ok bytes
    | some (.dir _) => .error ⟨.isDirectory, p⟩
    | none => .error ⟨.noEntry, p⟩

/-- Whether a path leads to a directory. -/
def isDirPath (fs : FileSystem) (path : String) : Bool :=
  match fs.locate (Path.normalize path) with
  | .ok loc => ((fs.entryAt? loc).map Entry.isDir).getD false
  | .error _ => false

/-- Create one directory; its parent must exist and nothing may be at the path. -/
def makeDir (fs : FileSystem) (path : String) : Except OsError FileSystem :=
  let p := Path.normalize path
  match fs.locate p with
  | .error e => .error ⟨e, p⟩
  | .ok loc =>
    if (fs.entryAt? loc).isSome then .error ⟨.fileExists, p⟩
    else .ok { fs with root := fs.root.put loc (.dir []) }

/-- Create the first directory of a lineage: when its parent is missing, create the rest of
the lineage first and try again; a failure other than a missing parent is accepted when a
directory is there. -/
def makeDirsAlong (fs : FileSystem) : List String → Except OsError FileSystem
  | [] => .ok fs
  | p :: rest =>
    match fs.makeDir p with
    | .ok fs' => .ok fs'
    | .error e =>
      if e.errno == .noEntry && !rest.isEmpty then
        match fs.makeDirsAlong rest with
        | .error e' => .error e'
        | .ok fs' =>
          match fs'.makeDir p with
          | .ok fs'' => .ok fs''
          | .error e'' =>
            if e''.errno != .noEntry && fs'.isDirPath p then .ok fs' else .error e''
      else if e.errno != .noEntry && fs.isDirPath p then .ok fs
      else .error e

/-- Create a directory and the missing directories above it; an existing directory is fine. -/
def makeDirs (fs : FileSystem) (path : String) : Except OsError FileSystem :=
  fs.makeDirsAlong (Path.lineage (Path.normalize path))

/-- Open a file for writing, creating it or emptying it; returns the new opening's number. -/
def openOutput (fs : FileSystem) (path : String) : Except OsError (FileSystem × Nat) :=
  let p := Path.normalize path
  match fs.locate p with
  | .error e => .error ⟨e, p⟩
  | .ok loc =>
    match fs.entryAt? loc with
    | some (.dir _) => .error ⟨.isDirectory, p⟩
    | _ =>
      .ok ({ fs with root := fs.root.put loc (.file []), outputs := fs.outputs ++ [(loc, 0)] },
        fs.outputs.length)

/-- The bytes of a file after writing bytes at a position: the bytes before stay, a gap is
filled with zero bytes, the bytes after the written ones stay. -/
def overlay (content : List UInt8) (pos : Nat) (bs : List UInt8) : List UInt8 :=
  content.take pos ++ List.replicate (pos - content.length) 0 ++ bs ++
    content.drop (pos + bs.length)

/-- Write bytes through an opening, at its position, and move the position past them. -/
def putBytes (fs : FileSystem) (h : Nat) (bs : List UInt8) : FileSystem :=
  match fs.outputs[h]? with
  | none => fs
  | some (loc, pos) =>
    let content := match fs.entryAt? loc with
      | some (.file old) => old
      | _ => []
    { fs with root := fs.root.put loc (.file (overlay content pos bs)),
              outputs := fs.outputs.set h (loc, pos + bs.length) }

/-- A file system holding the given files, with the directories their paths need. -/
def ofFiles (files : List (String × List UInt8)) : FileSystem :=
  files.foldl (fun fs f =>
    match fs.makeDirs (Path.parent f.1) with
    | .error _ => fs
    | .ok fs' =>
      match fs'.openOutput f.1 with
      | .error _ => fs'
      | .ok (fs'', h) => fs''.putBytes h f.2) {}

/-- The files below the working directory, by path. -/
def namedFiles (fs : FileSystem) : List (String × List UInt8) :=
  match fs.entryAt? fs.work with
  | some e@(.dir _) => e.files.map fun f => (String.intercalate "/" f.1, f.2)
  | _ => []

end FileSystem

end LuaListing
