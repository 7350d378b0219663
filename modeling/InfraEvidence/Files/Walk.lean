/-
  InfraEvidence — finding the files to read.

  * `FileMatcher`: globs for files.  A file has to match an include glob, no
    exclude glob and, if there are any, one of the further globs; a glob with
    a `/` is matched against the whole relative path, any other one against
    the name;
  * `Node.filesBelow`: the files of a tree down to a depth, hidden and skipped
    names passed over (`isSkipped`);
  * `Walk.collect`: the files below one root, in order; a root that is a file
    is itself the only one;
  * `Walk.collectAll`: the files below several roots, each path once.
-/
import InfraEvidence.Files.Tree
import InfraEvidence.Settings.Basic
import InfraEvidence.Text.Search

namespace InfraEvidence

/-! ## Globs for files -/

/-- Globs for the files to read. -/
structure FileMatcher where
  /-- A file matches one of these -/
  includes : List Glob
  /-- A file matches none of these -/
  excludes : List Glob
  /-- A file matches one of these, unless there are none -/
  further : List Glob

namespace FileMatcher

/-- Reads the globs of the settings and the further ones. -/
def ofSettings (s : ScanSettings) (further : List String) : Except Fault FileMatcher :=
  return {
    includes := ← s.includes.mapM Glob.read
    excludes := ← s.excludes.mapM Glob.read
    further := ← further.mapM Glob.read }

/-- A path in which every backslash is a slash. -/
def withSlashes (path : String) : String :=
  String.ofList (path.toList.map fun c => if c = '\\' then '/' else c)

/-- The glob matches a path: as a whole if the glob has a `/`, else its name. -/
def hits (path : String) (g : Glob) : Bool :=
  if g.text.toList.contains '/' then g.admits (withSlashes path)
  else g.admits ((Path.fileName? path).getD "")

/-- The matcher selects a path. -/
def selects (m : FileMatcher) (path : String) : Bool :=
  m.includes.any (hits path) && !m.excludes.any (hits path) &&
    (m.further.isEmpty || m.further.any (hits path))

end FileMatcher

/-! ## Walking -/

/-- The names of folders that are never entered. -/
def skippedNames : List String := [".terraform", ".terragrunt-cache", "vendor", "node_modules"]

/-- A hidden name, or one of the skipped ones. -/
def isSkipped (name : String) : Bool :=
  name.toList.head? == some '.' || skippedNames.contains name

mutual

/-- The relative paths of the files of a tree, of at most `depth` names. -/
def Node.filesBelow (depth : Nat) : Node → List (List String)
  | .file _ => [[]]
  | .folder children =>
    match depth with
    | 0 => []
    | depth + 1 => filesAmong depth children

/-- The relative paths of the files of named trees, of at most `depth` names
    after the first one. -/
def filesAmong (depth : Nat) : List (String × Node) → List (List String)
  | [] => []
  | (name, n) :: rest =>
    (if isSkipped name then [] else (n.filesBelow depth).map (name :: ·)) ++
      filesAmong depth rest

end

namespace Walk

/-- The order of relative paths: by their first different names, a path before
    those below it. -/
def comesBefore : List String → List String → Bool
  | [], _ => true
  | _ :: _, [] => false
  | a :: as, b :: bs => a < b || (a == b && comesBefore as bs)

/-- The files below a folder that a matcher selects, in order. -/
def selected (m : FileMatcher) (depth : Nat) (n : Node) : List (List String) :=
  ((n.filesBelow depth).filter fun names => m.selects (Path.ofNames names)).mergeSort comesBefore

/-- The files below one root. -/
def collect (fs : FileSystem) (s : ScanSettings) (further : List String) (root : String) :
    Except Fault (List String) :=
  match fs.node root with
  | .error _ => .error (.missingRoot root)
  | .ok n => do
    let m ← FileMatcher.ofSettings s further
    match n with
    | .file _ => return if m.selects root then [root] else []
    | .folder _ => return (selected m s.maxDepth n).map (Path.below root)

/-- Paths after those of another list, each one once. -/
def addPaths (acc new : List String) : List String :=
  new.foldl (fun acc p => if acc.any (Path.same p) then acc else acc ++ [p]) acc

/-- The files below several roots. -/
def collectAll (fs : FileSystem) (s : ScanSettings) (further : List String)
    (roots : List String) : Except Fault (List String) :=
  roots.foldlM (fun acc root => (collect fs s further root).map (addPaths acc)) []

end Walk

end InfraEvidence
