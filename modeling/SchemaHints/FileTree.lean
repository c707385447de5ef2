/-
File trees: files and directories held in memory, which answer as a file system without links does.
Every component of a path must exist, a path goes on only below directories, and a directory cannot
be read.
-/
import SchemaHints.Files

namespace SchemaHints

/-- Files and directories by the components of their paths, and the current directory. -/
structure FileTree where
  files : List (List Bytes × Bytes)
  directories : List (List Bytes)
  current : List Bytes

namespace FileTree

/-- What stands at a place of a tree. -/
inductive Node
  | file (content : Bytes)
  | directory

/-- The node at a place; every place above a file or directory is a directory. -/
def node? (t : FileTree) (place : List Bytes) : Option Node :=
  if (t.current :: t.directories).any place.isPrefixOf then some .directory
  else match t.files.lookup place with
    | some content => some (.file content)
    | none =>
      if t.files.any fun f => place.isPrefixOf f.1.dropLast then some .directory else none

/-- The place that one component of a path names at another place. -/
def next (place : List Bytes) (component : Bytes) : List Bytes :=
  if component = [] ∨ component = [0x2E] then place
  else if component = [0x2E, 0x2E] then place.dropLast
  else place ++ [component]

/-- The place where a path starts. -/
def startOf (t : FileTree) (path : Path) : List Bytes := if path.isAbsolute then [] else t.current

/-- The place that one component of a path leads to from a place. -/
def goDown (t : FileTree) (place : List Bytes) (component : Bytes) : Except FileFault (List Bytes) :=
  match t.node? place with
  | some .directory =>
    if 255 < component.length then .error .nameTooLong
    else if (t.node? (next place component)).isSome then .ok (next place component)
    else .error .missing
  | some (.file _) => .error .notDirectory
  | none => .error .missing

/-- The place that a path leads to. -/
def place (t : FileTree) (path : Path) : Except FileFault (List Bytes) :=
  if path.bytes = [] then .error .missing
  else if path.bytes.contains 0 then .error .nulInPath
  else path.components.foldlM t.goDown (t.startOf path)

/-- The most bytes that the path of a file to open may have. -/
def longestPath : Nat := 4095

/-- The content of the file that a path leads to; a path to open is limited in length, whatever it
leads to. -/
def read (t : FileTree) (path : Path) : Except FileFault Bytes :=
  if path.bytes.contains 0 then .error .nulInPath
  else if longestPath < path.bytes.length then .error .nameTooLong
  else do
    match t.node? (← t.place path) with
    | some (.file content) => .ok content
    | some .directory => .error .isDirectory
    | none => .error .missing

/-- The canonical form of a path. -/
def canonicalize (t : FileTree) (path : Path) : Except FileFault Path :=
  Path.ofComponents <$> t.place path

/-- The file system of a tree. -/
def toFiles (t : FileTree) : Files := fun path => do
  let canonical ← t.canonicalize path
  .ok ⟨canonical, t.read canonical⟩

/-- The file system of a tree by what it does. -/
def fileSystem (t : FileTree) : FileSystem := ⟨t.canonicalize, t.read⟩

/-- The tree of a root directory, also the current one, with files under these names. -/
def ofFiles (files : List (String × Bytes)) : FileTree :=
  ⟨files.map fun f => ([Bytes.ofString f.1], f.2), [], []⟩

/-- The place that a path names, whether or not anything is there. -/
def named (t : FileTree) (path : Path) : List Bytes := path.components.foldl next (t.startOf path)

/-- The tree with a file written. -/
def write (t : FileTree) (path : Path) (content : Bytes) : FileTree :=
  let place := t.named path
  { t with files := t.files.filter (·.1 ≠ place) ++ [(place, content)] }

/-- The tree with a file deleted; the directories stay. -/
def delete (t : FileTree) (path : Path) : FileTree :=
  let place := t.named path
  { t with files := t.files.filter (·.1 ≠ place), directories := t.directories ++ [place.dropLast] }

/-- The tree with a directory made. -/
def makeDirectory (t : FileTree) (path : Path) : FileTree :=
  { t with directories := t.directories ++ [t.named path] }

end FileTree

end SchemaHints
