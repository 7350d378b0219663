/-
  InfraEvidence — the modes of analysis.

  A mode chooses the kind of blocks to find and what of them to keep.

  * `Mode.name`, `Mode.all`: the words for the modes;
  * `Mode.parse?`: the mode that a word names, blanks around it aside; no word
    names the first mode;
  * `Mode.blockKind`: the kind of blocks to find.
-/
import InfraEvidence.Block.Kind
import InfraEvidence.Control.AllowList

namespace InfraEvidence

/-- A mode of analysis. -/
inductive Mode where
  /-- Resources with the requested security controls -/
  | securityControls
  /-- Resources of admitted types -/
  | resourceTypes
  /-- Resources relevant to a compliance standard -/
  | complianceCheck
  /-- Resources with risky names or settings -/
  | securityIssues
  /-- Module calls -/
  | modules
  /-- Data sources -/
  | dataSources
  /-- Local values -/
  | locals
deriving DecidableEq

namespace Mode

/-- The word for a mode. -/
def name : Mode → String
  | securityControls => "security_controls"
  | resourceTypes => "resource_types"
  | complianceCheck => "compliance_check"
  | securityIssues => "security_issues"
  | modules => "modules"
  | dataSources => "data_sources"
  | locals => "locals"

/-- All modes. -/
def all : List Mode :=
  [securityControls, resourceTypes, complianceCheck, securityIssues, modules, dataSources, locals]

/-- The mode that a word names. -/
def parse? (text : String) : Except Fault Mode :=
  let word := Text.trimmed text
  if word = "" then .ok securityControls
  else
    match all.find? fun m => m.name == word with
    | some m => .ok m
    | none => .error (.unknownMode word)

/-- The kind of blocks to find. -/
def blockKind : Mode → BlockKind
  | modules => .moduleCall
  | dataSources => .dataSource
  | locals => .locals
  | securityControls | resourceTypes | complianceCheck | securityIssues => .resource

/-- The name of a mode is read back. -/
theorem parse?_name (m : Mode) : parse? m.name = .ok m := by cases m <;> rfl

end Mode

end InfraEvidence
