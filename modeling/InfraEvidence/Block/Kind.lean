/-
  InfraEvidence — the kinds of blocks.

  * `BlockKind`: resources, module calls, data sources and locals;
  * `BlockKind.keyword`: the word that opens a block of the kind;
  * `BlockKind.parse?`: the kind that a word names, blanks around it and the
    case of its ASCII letters aside.
-/
import InfraEvidence.Fault
import InfraEvidence.Text.Blank
import InfraEvidence.Text.Lowercase

namespace InfraEvidence

/-- A kind of block. -/
inductive BlockKind where
  /-- `resource "type" "name" { … }` -/
  | resource
  /-- `module "name" { … }` -/
  | moduleCall
  /-- `data "type" "name" { … }` -/
  | dataSource
  /-- `locals { … }` -/
  | locals
deriving DecidableEq

/-- The word that opens a block. -/
def BlockKind.keyword : BlockKind → String
  | resource => "resource"
  | moduleCall => "module"
  | dataSource => "data"
  | locals => "locals"

/-- A name without the blanks around it, its ASCII letters in lower case. -/
def Text.plainName (s : String) : String :=
  String.ofList (Text.asciiLower (Text.trim s.toList))

/-- The kind that a word names. -/
def BlockKind.parse? (name : String) : Except Fault BlockKind :=
  match Text.plainName name with
  | "resource" => .ok .resource
  | "module" => .ok .moduleCall
  | "data" => .ok .dataSource
  | "locals" => .ok .locals
  | _ => .error (.unknownKind name)

end InfraEvidence
