/-
  InfraEvidence — lists of admitted resource types.

  * `AllowList.parse?`: reads the globs of a list, the blanks around each one
    aside; the first malformed one is a fault;
  * `AllowList.admits`: the type matches one of the globs; an empty list
    admits every type.
-/
import InfraEvidence.Fault
import InfraEvidence.Glob
import InfraEvidence.Text.Blank

namespace InfraEvidence

/-- A string without the blanks around it. -/
def Text.trimmed (s : String) : String := String.ofList (Text.trim s.toList)

/-- Reads a glob, or tells the fault with its text. -/
def Glob.read (text : String) : Except Fault Glob :=
  match Glob.parse? text with
  | .ok glob => .ok glob
  | .error e => .error (.badGlob text e.message)

/-- Globs for resource types. -/
abbrev AllowList := List Glob

namespace AllowList

/-- Reads the globs of a list. -/
def parse? (texts : List String) : Except Fault AllowList :=
  texts.mapM fun t => Glob.read (Text.trimmed t)

/-- The list admits a resource type. -/
def admits (l : AllowList) (type : String) : Bool := l.isEmpty || l.any (·.admits type)

end AllowList

end InfraEvidence
