/-
  InfraEvidence — the settings of the program.

  * `Settings`: what to scan and how, how to write reports, and which resource
    types evidence a control;
  * `Settings.validate`: the constraints that settings have to meet: a depth
    above zero, an include glob, well-formed globs, and types for each control;
  * `Settings.typesFor`: the types for some control codes, each once, in the
    order of their first occurrence.
-/
import InfraEvidence.Control.AllowList
import InfraEvidence.Order.Dict
import InfraEvidence.Report.Format

namespace InfraEvidence

/-- What to scan. -/
structure ScanSettings where
  /-- The roots that are scanned if no others are given -/
  paths : List String := []
  /-- Globs one of which a file has to match -/
  includes : List String := ["*.tf", "*.tfvars"]
  /-- Globs none of which a file may match -/
  excludes : List String := ["*.secret", ".terraform/**"]
  /-- Go on when a file cannot be read -/
  continueOnError : Bool := true
  /-- The greatest number of components below a root -/
  maxDepth : Nat := 100
deriving DecidableEq

/-- How to write reports. -/
structure OutputSettings where
  /-- Posture reports for terminals are in colours -/
  colored : Bool := true
  /-- Structured reports are written on many lines -/
  pretty : Bool := true
  /-- The format of evidence if no other is given -/
  format : EvidenceFormat := .csv
deriving DecidableEq

/-- The resource types that evidence a control. -/
structure ControlMapping where
  /-- What the control is -/
  description : String := ""
  /-- The globs for the types -/
  types : List String := []
deriving DecidableEq

/-- The settings of the program. -/
structure Settings where
  /-- What to scan -/
  scan : ScanSettings := {}
  /-- How to write reports -/
  output : OutputSettings := {}
  /-- The controls by their codes -/
  controls : Dict ControlMapping := Dict.empty

namespace Settings

/-- The mapping of a control has types, and their globs are well formed. -/
def validateMapping (e : String × ControlMapping) : Except Fault Unit :=
  if e.2.types.isEmpty then
    .error (.badSetting ("controls." ++ e.1 ++ ".terraform_resources")
      "must list at least one resource type")
  else (AllowList.parse? e.2.types).map fun _ => ()

/-- Checks the settings. -/
def validate (s : Settings) : Except Fault Unit := do
  if s.scan.maxDepth = 0 then
    throw (.badSetting "scan.max_depth" "must be greater than zero")
  if s.scan.includes.isEmpty then
    throw (.badSetting "scan.include_patterns" "at least one include pattern is required")
  (s.scan.includes ++ s.scan.excludes).forM fun g => (Glob.read g).map fun _ => ()
  s.controls.entries.forM validateMapping

/-- The elements of a list after those of another one, each once. -/
def addNew (acc new : List String) : List String :=
  new.foldl (fun acc x => if acc.contains x then acc else acc ++ [x]) acc

/-- The types after `acc` for some control codes. -/
def typesAfter (s : Settings) (acc : List String) : List String → Except Fault (List String)
  | [] => .ok acc
  | code :: codes =>
    match s.controls.get? (Text.trimmed code) with
    | some m => typesAfter s (addNew acc m.types) codes
    | none => .error (.missingSetting ("controls." ++ Text.trimmed code))

/-- The types for some control codes. -/
def typesFor (s : Settings) (codes : List String) : Except Fault (List String) :=
  s.typesAfter [] codes

end Settings

end InfraEvidence
