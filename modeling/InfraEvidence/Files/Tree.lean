/-
  InfraEvidence — trees of files.

  * `Node`: a file with its bytes, or a folder with named nodes;
  * `FileSystem`: a tree and the working folder in it;
  * `FileSystem.resolve`: the place that a path leads to; every part of it but
    the last has to lead to a folder;
  * `FileSystem.read`, `FileSystem.write`: reading and replacing a file, with
    the failure (`PathFailure`) that a path meets.
-/
import InfraEvidence.Fault
import InfraEvidence.Files.Path

namespace InfraEvidence

/-- A file or a folder. -/
inductive Node where
  | file (bytes : List UInt8)
  | folder (children : List (String × Node))

namespace Node

/-- The folder without children. -/
def emptyFolder : Node := .folder []

/-- The nodes of a folder; a file has none. -/
def children : Node → List (String × Node)
  | file _ => []
  | folder cs => cs

/-- The node is a file. -/
def isFile : Node → Bool
  | file _ => true
  | folder _ => false

/-- The node that some names lead to. -/
def at? : Node → List String → Option Node
  | n, [] => some n
  | n, name :: names => (n.children.lookup name).bind fun c => at? c names

/-- The nodes of a folder, where `name` is now `n`. -/
def setChild (name : String) (n : Node) : List (String × Node) → List (String × Node)
  | [] => [(name, n)]
  | c :: cs => if c.1 = name then (name, n) :: cs else c :: setChild name n cs

/-- The tree in which the names lead to `new`; folders on the way are made. -/
def set : Node → List String → Node → Node
  | _, [], new => new
  | n, name :: names, new =>
    .folder (setChild name (set ((n.children.lookup name).getD emptyFolder) names new) n.children)

end Node

/-- Why a path does not lead where it should. -/
inductive PathFailure where
  /-- A name is not there -/
  | notFound
  /-- A file stands where a folder is needed -/
  | notFolder
  /-- A folder stands where a file is needed -/
  | isFolder
deriving DecidableEq

/-- The wording of a failure. -/
def PathFailure.text : PathFailure → String
  | notFound => "No such file or directory (os error 2)"
  | notFolder => "Not a directory (os error 20)"
  | isFolder => "Is a directory (os error 21)"

/-- The kind of a failure. -/
def PathFailure.kind : PathFailure → FileFailure
  | notFound => .notFound
  | notFolder | isFolder => .other

/-- The fault of a path that fails. -/
def PathFailure.fault (path : String) (f : PathFailure) : Fault := .file path f.kind f.text

/-- A tree, and the folder in it that relative paths start from. -/
structure FileSystem where
  /-- The tree -/
  root : Node
  /-- The names that lead to the working folder -/
  working : List String

namespace FileSystem

/-- Follows the parts of a path from the place `place`. -/
def follow (root : Node) (place : List String) : List String → Except PathFailure (List String)
  | [] => .ok place
  | part :: parts =>
    match root.at? place with
    | some (.folder children) =>
      if part = "" ∨ part = "." then follow root place parts
      else if part = ".." then follow root place.dropLast parts
      else if (children.lookup part).isSome then follow root (place ++ [part]) parts
      else .error .notFound
    | some (.file _) => .error .notFolder
    | none => .error .notFound

/-- The place that a path starts from. -/
def startOf (fs : FileSystem) (path : String) : List String :=
  if path.toList.head? = some '/' then [] else fs.working

/-- The place that a path leads to. -/
def resolve (fs : FileSystem) (path : String) : Except PathFailure (List String) :=
  if path = "" then .error .notFound else follow fs.root (fs.startOf path) (Path.parts path)

/-- The node that a path leads to. -/
def node (fs : FileSystem) (path : String) : Except PathFailure Node := do
  match fs.root.at? (← fs.resolve path) with
  | some n => .ok n
  | none => .error .notFound

/-- The path leads somewhere. -/
def hasPath (fs : FileSystem) (path : String) : Bool := (fs.node path).isOk

/-- The bytes of the file that a path leads to. -/
def read (fs : FileSystem) (path : String) : Except PathFailure (List UInt8) := do
  match ← fs.node path with
  | .file bytes => .ok bytes
  | .folder _ => .error .isFolder

/-- The place of the file that a path leads to or would lead to.  A path with a
    slash at the end never leads to a file. -/
def placeFor (fs : FileSystem) (path : String) : Except PathFailure (List String) := do
  if path = "" then throw .notFound
  let (last, folders) := (Path.parts path).reverse.span (· = "")
  match folders with
  | [] => throw .isFolder
  | name :: folders => do
    let place ← follow fs.root (fs.startOf path) folders.reverse
    match fs.root.at? place with
    | some (.folder children) =>
      if last ≠ [] ∨ name = "." ∨ name = ".." then throw .isFolder
      match children.lookup name with
      | some (.folder _) => throw .isFolder
      | _ => return place ++ [name]
    | some (.file _) => throw .notFolder
    | none => throw .notFound

/-- The tree in which a path leads to a file with the bytes given. -/
def write (fs : FileSystem) (path : String) (bytes : List UInt8) : Except PathFailure FileSystem :=
  (fs.placeFor path).map fun place => { fs with root := fs.root.set place (.file bytes) }

end FileSystem

end InfraEvidence
