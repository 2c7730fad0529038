/-
**A directory: a tree of folders and files.**

* `Directory`: the files and folders below a root, by their path.
* `Directory.read`, `Directory.createFolders`, `Directory.writeFile`, `Directory.rename`,
  `Directory.remove`, `Directory.entries?`: file operations. A path that leads through a file
  cannot be followed, which differs from a path that leads nowhere.
-/
import ObjectLedger.Table

namespace ObjectLedger

/-- The names on the way from the root to a file or a folder. -/
abbrev FilePath := List String

/-- The files and folders below a root folder. -/
structure Directory where
  files : Table FilePath (List UInt8) := {}
  /-- The folders other than the root. -/
  folders : List FilePath := []
  deriving Inhabited

/-- Why a file cannot be reached. -/
inductive PathProblem where
  /-- A folder on the way, or the file itself, does not exist. -/
  | notFound
  /-- There is a file in the place of a folder, or a folder in the place of a file. -/
  | wrongKind
  deriving DecidableEq, Repr

namespace Directory

/-- There is a folder at the path. -/
def isFolder (directory : Directory) (path : FilePath) : Bool :=
  path.isEmpty || directory.folders.contains path

/-- There is a file at the path. -/
def isFile (directory : Directory) (path : FilePath) : Bool :=
  directory.files.contains path

/-- There is something at the path. -/
def isPresent (directory : Directory) (path : FilePath) : Bool :=
  directory.isFolder path || directory.isFile path

/-- The folders on the way to a path, the outermost first, and at last the path itself. -/
def ancestry (path : FilePath) : List FilePath :=
  (List.range path.length).map fun count => path.take (count + 1)

/-- What stands in the way to the parent of a path, looking from the root. -/
def obstacle? (directory : Directory) (path : FilePath) : Option PathProblem :=
  ((ancestry path.dropLast).find? fun folder => !directory.isFolder folder).map fun folder =>
    if directory.isFile folder then .wrongKind else .notFound

/-- The bytes of a file. -/
def read (directory : Directory) (path : FilePath) : Except PathProblem (List UInt8) :=
  match directory.obstacle? path with
  | some problem => .error problem
  | none =>
    if directory.isFolder path then .error .wrongKind
    else
      match directory.files.get? path with
      | some bytes => .ok bytes
      | none => .error .notFound

/-- Makes the folder and all folders on the way to it, unless a file is in the way. -/
def createFolders (directory : Directory) (path : FilePath) : Except PathProblem Directory :=
  if (ancestry path).any directory.isFile then .error .wrongKind
  else
    let missing := (ancestry path).filter fun folder => !directory.isFolder folder
    .ok { directory with folders := directory.folders ++ missing }

/-- Writes a file whose folder exists. -/
def writeFile (directory : Directory) (path : FilePath) (bytes : List UInt8) :
    Except PathProblem Directory :=
  match directory.obstacle? path with
  | some problem => .error problem
  | none =>
    if directory.isFolder path then .error .wrongKind
    else .ok { directory with files := directory.files.insert path bytes }

/-- Gives a file another path, in the place of a file there. -/
def rename (directory : Directory) (source target : FilePath) :
    Except PathProblem Directory :=
  match directory.read source with
  | .error problem => .error problem
  | .ok bytes =>
    match directory.writeFile target bytes with
    | .error problem => .error problem
    | .ok written =>
      if source = target then .ok written
      else .ok { written with files := written.files.erase source }

/-- Removes a file, or a folder with all that is in it. -/
def remove (directory : Directory) (path : FilePath) : Directory where
  files := ⟨directory.files.entries.filter fun entry => !path.isPrefixOf entry.1⟩
  folders := directory.folders.filter fun folder => !path.isPrefixOf folder

/-- The names of what is in a folder. -/
def entries? (directory : Directory) (path : FilePath) : Except PathProblem (List String) :=
  match directory.obstacle? path with
  | some problem => .error problem
  | none =>
    if directory.isFile path then .error .wrongKind
    else if !directory.isFolder path then .error .notFound
    else
      let inside := (directory.files.keys ++ directory.folders).filter fun candidate =>
        candidate.dropLast = path && !candidate.isEmpty
      .ok (inside.filterMap List.getLast?)

end Directory

end ObjectLedger
