import FlowGraph.Storage.Basic
import FlowGraph.Storage.Path
import FlowGraph.Table

/-!
# `FlowGraph.Storage.FileTree`: a tree of files as a value

A `FileTree` maps the names on the way to a file, from the working directory down, to the
bytes of the file. Directories are the beginnings of such ways, the working directory among
them. Paths are followed name by name, and only from directories. What lies above the working
directory is a directory in which nothing is found. Paths and the names on them have a length
that must not be passed; a name counts only when a directory is asked for it.
-/

set_option autoImplicit false

namespace FlowGraph

/-- The files below a working directory, each under the names that lead to it. -/
structure FileTree where
  files : Table (List String) ByteArray

namespace FileTree

/-- Where a path leads. -/
inductive Place where
  /-- To the given names below the working directory, whether something is there or not. -/
  | inside (names : List String)
  /-- Above the working directory. -/
  | above
deriving DecidableEq

/-- What is found in a place. -/
inductive Entry where
  | file (bytes : ByteArray)
  | directory
  | nothing

/-- What is found in a place. -/
def entryAt (t : FileTree) : Place → Entry
  | .above => .directory
  | .inside names =>
      match t.files.get? names with
      | some bytes => .file bytes
      | none =>
          if names = [] ∨ t.files.keys.any (fun way => names.isPrefixOf way) then .directory
          else .nothing

/-- The number of bytes that one name on a path may have. -/
def nameLimit : Nat := 255

/-- The number of bytes that a path may have. -/
def pathLimit : Nat := 4095

/-- Whether names can be looked for in a place: only in a directory. -/
def enter (t : FileTree) (p : Place) : Except FileFault Unit :=
  match t.entryAt p with
  | .nothing => .error .noSuchFile
  | .file _ => .error .notDirectory
  | .directory => .ok ()

/-- The place that one part of a path leads to from another place, which must be a
directory. -/
def step (t : FileTree) (p : Place) (part : String) : Except FileFault Place := do
  t.enter p
  if part = "" ∨ part = "." then return p
  else if nameLimit < part.utf8ByteSize then throw .tooLong
  else
    match p with
    | .above => if part = ".." then return .above else throw .noSuchFile
    | .inside names =>
        if part = ".." then return if names = [] then .above else .inside names.dropLast
        else return .inside (names ++ [part])

/-- The place where a path starts: a slash at its front leaves the working directory. -/
def start (path : String) : Place :=
  if path.toList.head? = some '/' then .above else .inside []

/-- Whether a text can be a path at all, whatever files there are. It is not empty, not too
long, and holds no zero. -/
def checkPath (path : String) : Except FileFault Unit :=
  if '\x00' ∈ path.toList then .error .zeroInPath
  else if path = "" then .error .noSuchFile
  else if pathLimit < path.utf8ByteSize then .error .tooLong
  else .ok ()

/-- The place that a path leads to. -/
def follow (t : FileTree) (path : String) : Except FileFault Place := do
  checkPath path
  (Path.parts path).foldlM t.step (start path)

/-- The bytes of the file under a path. -/
def read (t : FileTree) (path : String) : Except FileFault ByteArray := do
  match t.entryAt (← t.follow path) with
  | .file bytes => .ok bytes
  | .directory => .error .isDirectory
  | .nothing => .error .noSuchFile

/-- A path without the slashes at its end. -/
def withoutEndSlashes (path : String) : String :=
  String.ofList (path.toList.reverse.dropWhile (· == '/')).reverse

/-- The names under which a text written to a path is kept. A path that ends with a slash can
only be that of a directory, also where there is nothing yet: its last name is not even looked
for, but the way to it must be there. -/
def target (t : FileTree) (path : String) : Except FileFault (List String) := do
  if path.toList.getLast? = some '/' then
    checkPath path
    let way := (Path.parts (withoutEndSlashes path)).dropLast
    t.enter (← way.foldlM t.step (start path))
    throw .isDirectory
  else
    let p ← t.follow path
    match t.entryAt p, p with
    | .directory, _ | _, .above => .error .isDirectory
    | _, .inside names => .ok names

/-- The tree with a text as the content of the file under a path. -/
def write (t : FileTree) (path content : String) : Except FileFault FileTree := do
  return ⟨t.files.set (← t.target path) content.toUTF8⟩

/-- Files kept in the state of a program. -/
instance : Storage (StateM FileTree) where
  read path := return (← get).read path
  write path content := do
    match (← get).write path content with
    | .ok t =>
        set t
        return .ok ()
    | .error f => return .error f

end FileTree

end FlowGraph
