/-
  InfraEvidence — paths.

  A path is a text with `/` between its components.

  * `Path.components`: what a path says, however it is spelled: repeated and
    final slashes and inner `.` say nothing;
  * `Path.same`: two spellings of one path;
  * `Path.fileName?`: the name at the end;
  * `Path.join`: a name below a path;
  * `Path.below`: the relative path `names` below a path.
-/
namespace InfraEvidence

namespace Path

/-- A component of a path. -/
inductive Component where
  /-- The `/` of an absolute path -/
  | root
  /-- A `.` at the beginning -/
  | here
  /-- A `..` -/
  | up
  /-- A name -/
  | name (s : String)
deriving DecidableEq

/-- What stands between the slashes of a path. -/
def parts (path : String) : List String := (path.toList.splitOn '/').map String.ofList

/-- The component that a part stands for, at the beginning or later. -/
def component? (isFirst : Bool) (part : String) : Option Component :=
  if part = "" then none
  else if part = "." then if isFirst then some .here else none
  else if part = ".." then some .up
  else some (.name part)

/-- The components of a path. -/
def components (path : String) : List Component :=
  match parts path with
  | [] => []
  | first :: rest =>
    let start := if first = "" ∧ rest ≠ [] then [.root] else (component? true first).toList
    start ++ rest.filterMap (component? false)

/-- Two spellings of one path. -/
def same (a b : String) : Bool := components a == components b

/-- The name at the end of a path. -/
def fileName? (path : String) : Option String :=
  match (components path).getLast? with
  | some (.name s) => some s
  | _ => none

/-- The name below the path, with one slash between them. -/
def join (path name : String) : String :=
  if path = "" ∨ path.toList.getLast? = some '/' then path ++ name else path ++ "/" ++ name

/-- A relative path as text. -/
def ofNames (names : List String) : String := String.intercalate "/" names

/-- The relative path `names` below a path. -/
def below (path : String) (names : List String) : String := names.foldl join path

end Path

end InfraEvidence
