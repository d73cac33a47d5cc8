/-!
# A tree of files

The part of a file system that decides whether a device endpoint is there: regular files,
directories and symbolic links, how a path is followed through them, and the operations
that change them.

This file stands in for the file system, as far as the presence check of the device component
and the tests of it can tell.

* `FileTree.lookup` — where a path leads, or why it leads nowhere.  A path follows at
  most forty links.
* `FileTree.stat` — what is there once all links are followed.
* `FileTree.touch`, `remove`, `makeDirectory`, `removeDirectory`, `makeLink` — the changes.
* `FileTree.holding` — a tree with a single file.
-/

namespace Hotplug

/-- Why an operation on a path fails. -/
inductive FileFault where
  | notFound
  | permissionDenied
  | alreadyExists
  | notADirectory
  | isADirectory
  | directoryNotEmpty
  | invalidName
  | tooManyLinks
  | nulByte
  | invalidInput
  deriving DecidableEq, Repr, Inhabited

namespace FileFault

/-- The kind under which a failure is reported. -/
def kind : FileFault → String
  | notFound => "NotFound"
  | permissionDenied => "PermissionDenied"
  | alreadyExists => "AlreadyExists"
  | notADirectory => "NotADirectory"
  | isADirectory => "IsADirectory"
  | directoryNotEmpty => "DirectoryNotEmpty"
  | invalidName => "InvalidFilename"
  | tooManyLinks => "FilesystemLoop"
  | nulByte => "InvalidInput"
  | invalidInput => "InvalidInput"

/-- The text of a failure. -/
def message : FileFault → String
  | notFound => "No such file or directory (os error 2)"
  | permissionDenied => "Permission denied (os error 13)"
  | alreadyExists => "File exists (os error 17)"
  | notADirectory => "Not a directory (os error 20)"
  | isADirectory => "Is a directory (os error 21)"
  | directoryNotEmpty => "Directory not empty (os error 39)"
  | invalidName => "File name too long (os error 36)"
  | tooManyLinks => "Too many levels of symbolic links (os error 40)"
  | nulByte => "file name contained an unexpected NUL byte"
  | invalidInput => "Invalid argument (os error 22)"

end FileFault

/-- What a name in a directory stands for. -/
inductive FileNode where
  | file
  | directory
  | link (target : String)
  deriving DecidableEq, Repr, Inhabited

/-- The names from the root down to a place. -/
abbrev Place := List String

/-- The files of a machine, each at its place, and the directory that relative paths
start from.  The root is always a directory. -/
structure FileTree where
  nodes : List (Place × FileNode)
  workplace : Place
  deriving DecidableEq, Repr, Inhabited

namespace FileTree

/-- A machine with a device directory and an empty directory to work in. -/
def scratch : FileTree where
  nodes := [(["dev"], .directory), (["dev", "null"], .file), (["tmp"], .directory),
    (["tmp", "work"], .directory)]
  workplace := ["tmp", "work"]

/-- The same machine with a serial device plugged in. -/
def plugged : FileTree :=
  { scratch with nodes := (["dev", "ttyUSB0"], .file) :: scratch.nodes }

/-- What is at a place. -/
def node? (t : FileTree) (p : Place) : Option FileNode :=
  if p.isEmpty then some .directory else (t.nodes.find? (·.1 = p)).map (·.2)

/-- Whether a directory has anything in it. -/
def isOccupied (t : FileTree) (p : Place) : Bool :=
  t.nodes.any fun (q, _) => q.length = p.length + 1 && p.isPrefixOf q

/-- The tree with a node put at a place. -/
def put (t : FileTree) (p : Place) (n : FileNode) : FileTree :=
  { t with nodes := (p, n) :: t.nodes.filter (·.1 ≠ p) }

/-- The tree without what is at a place. -/
def erase (t : FileTree) (p : Place) : FileTree :=
  { t with nodes := t.nodes.filter (·.1 ≠ p) }

/-! ## Following a path -/

/-- A path may follow this many links. -/
def linkLimit : Nat := 40

/-- The longest name of a file, in bytes. -/
def nameLimit : Nat := 255

/-- A path is shorter than this, in bytes. -/
def pathLimit : Nat := 4096

/-- Whether a path ends with a slash, which asks for a directory. -/
def asksForDirectory (path : String) : Bool :=
  path.toList.getLast? = some '/'

/-- The names between the slashes of a path. -/
def names (path : String) : List String :=
  ((path.toList.splitOn '/').map String.ofList).filter (· ≠ "")

/-- The steps of a path.  A slash at the end asks for a directory, as a last step to the
place itself does. -/
def steps (path : String) : List String :=
  if asksForDirectory path then names path ++ ["."] else names path

/-- Where the first step of a path starts. -/
def origin (here : Place) (path : String) : Place :=
  if path.toList.head? = some '/' then [] else here

/-- Walks the steps from `here`.  A link is followed as `follow` says, one at the very end only if
`followLast` holds.  The node is `none` if all but the last step exist. -/
def walkSteps (t : FileTree) (followLast : Bool)
    (follow : Place → List String → Except FileFault (Place × Option FileNode)) (here : Place) :
    List String → Except FileFault (Place × Option FileNode)
  | [] => .ok (here, t.node? here)
  | name :: rest =>
    match t.node? here with
    | none => .error .notFound
    | some .file => .error .notADirectory
    | some (.link _) => .error .notADirectory
    | some .directory =>
      if name = "." then t.walkSteps followLast follow here rest
      else if name = ".." then t.walkSteps followLast follow here.dropLast rest
      else if nameLimit < name.utf8ByteSize then .error .invalidName
      else
        match t.node? (here ++ [name]) with
        | none => if rest.isEmpty then .ok (here ++ [name], none) else .error .notFound
        | some (.link target) =>
          if rest.isEmpty && !followLast then .ok (here ++ [name], some (.link target))
          else follow (origin here target) (steps target ++ rest)
        | some _ => t.walkSteps followLast follow (here ++ [name]) rest

/-- Walks some steps, following links while so many of them are left. -/
def walk (t : FileTree) (followLast : Bool) :
    Nat → Place → List String → Except FileFault (Place × Option FileNode)
  | 0 => t.walkSteps followLast fun _ _ => .error .tooManyLinks
  | links + 1 => t.walkSteps followLast (t.walk followLast links)

/-- What makes a path unusable before it is followed at all. -/
def pathFault? (path : String) : Option FileFault :=
  if path.toList.contains '\x00' then some .nulByte
  else if path.isEmpty then some .notFound
  else if pathLimit ≤ path.utf8ByteSize then some .invalidName
  else none

/-- Where a path leads, and what is there. -/
def lookup (t : FileTree) (followLast : Bool) (path : String) :
    Except FileFault (Place × Option FileNode) :=
  match pathFault? path with
  | some fault => .error fault
  | none => t.walk followLast linkLimit (origin t.workplace path) (steps path)

/-- Asks for what a path leads to, links followed. -/
def stat (t : FileTree) (path : String) : Except FileFault FileNode :=
  match t.lookup true path with
  | .error fault => .error fault
  | .ok (_, none) => .error .notFound
  | .ok (_, some n) => .ok n

/-! ## Changes -/

/-- Creates a regular file or empties it. -/
def touch (t : FileTree) (path : String) : Except FileFault FileTree := do
  if asksForDirectory path then
    let parent := steps path |>.dropLast |>.dropLast
    match pathFault? path with
    | some fault => throw fault
    | none =>
      let (_, n) ← t.walk true linkLimit (origin t.workplace path) parent
      match n with
      | none => throw .notFound
      | some .directory => throw .isADirectory
      | some _ => throw .notADirectory
  match ← t.lookup true path with
  | (p, none) => pure (t.put p .file)
  | (p, some .file) => pure (t.put p .file)
  | (_, some _) => throw .isADirectory

/-- The last step of a path, without a slash at its end. -/
def lastStep (path : String) : String :=
  (names path).getLastD "."

/-- The path without slashes at its end. -/
def withoutSlashes (path : String) : String :=
  String.ofList ((path.toList.reverse.dropWhile (· = '/')).reverse)

/-- Removes a file or a link, not a directory. -/
def remove (t : FileTree) (path : String) : Except FileFault FileTree := do
  if let some fault := pathFault? path then throw fault
  if lastStep path = "." ∨ lastStep path = ".." then
    let _ ← t.lookup true path
    throw .isADirectory
  match ← t.lookup false (withoutSlashes path) with
  | (_, none) => throw .notFound
  | (_, some .directory) => throw .isADirectory
  | (p, some _) => if asksForDirectory path then throw .notADirectory else pure (t.erase p)

/-- Makes an empty directory. -/
def makeDirectory (t : FileTree) (path : String) : Except FileFault FileTree := do
  if let some fault := pathFault? path then throw fault
  match ← t.lookup false (if withoutSlashes path = "" then "/" else withoutSlashes path) with
  | (p, none) => pure (t.put p .directory)
  | (_, some _) => throw .alreadyExists

/-- Removes an empty directory. -/
def removeDirectory (t : FileTree) (path : String) : Except FileFault FileTree := do
  if let some fault := pathFault? path then throw fault
  let (p, n) ← t.lookup false (if withoutSlashes path = "" then "/" else withoutSlashes path)
  match n with
  | none => throw .notFound
  | some .directory =>
    if lastStep path = "." then throw .invalidInput
    else if lastStep path = ".." then throw .directoryNotEmpty
    else if t.isOccupied p then throw .directoryNotEmpty
    else pure (t.erase p)
  | some _ => throw .notADirectory

/-- Makes a symbolic link to `target`, which need not exist. -/
def makeLink (t : FileTree) (path target : String) : Except FileFault FileTree := do
  if target.toList.contains '\x00' then throw .nulByte
  if let some fault := pathFault? path then throw fault
  if target.isEmpty then throw .notFound
  if pathLimit ≤ target.utf8ByteSize then throw .invalidName
  match ← t.lookup false path with
  | (p, none) => pure (t.put p (.link target))
  | (_, some _) => throw .alreadyExists

/-- A tree with nothing but a regular file where `path` leads, and the directories on the
way. -/
def holding (path : String) : FileTree :=
  let empty : FileTree := { nodes := [], workplace := [] }
  let names := steps path
  let directories := (List.range names.length).map fun n => "/".intercalate (names.take n)
  let t := directories.foldl (fun t p => (t.makeDirectory p).toOption.getD t) empty
  (t.touch path).toOption.getD t

end FileTree

end Hotplug
