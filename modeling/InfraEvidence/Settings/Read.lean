/-
  InfraEvidence — reading settings.

  * `Settings.ofDocument?`: the settings of a document.  What is left out has
    its default, keys that are not known do not count, and a known key comes at
    most once;
  * `Settings.read`: the settings of a text, after its variables are expanded;
    a text of blank lines and comments has the default ones;
  * `Settings.exampleText`: an example, as a text.
-/
import InfraEvidence.Settings.Basic
import InfraEvidence.Settings.Expansion
import InfraEvidence.Text.Lines
import InfraEvidence.Yaml.Value

namespace InfraEvidence

namespace Settings

open Yaml Document

/-- What to scan. -/
def scanOf? (d : Document) (v : Value) : Option ScanSettings := do
  let fs ← d.fields? ["scan_paths", "include_patterns", "exclude_patterns", "continue_on_error",
    "max_depth"] v
  let default : ScanSettings := {}
  return {
    paths := ← field? d.texts? fs "scan_paths" default.paths
    includes := ← field? d.texts? fs "include_patterns" default.includes
    excludes := ← field? d.texts? fs "exclude_patterns" default.excludes
    continueOnError := ← field? d.flag? fs "continue_on_error" default.continueOnError
    maxDepth := ← field? d.number? fs "max_depth" default.maxDepth }

/-- A format: its name as a scalar, or as a tag before nothing. -/
def formatOf? (d : Document) (v : Value) : Option EvidenceFormat := do
  let name ← match d.follow v with
    | some (.scalar (some tag) style text) =>
      match tag.toList with
      | '!' :: c :: name =>
        if style = .plain ∧ ["", "null", "Null", "NULL", "~"].contains text then
          some (String.ofList (c :: name))
        else none
      | _ => some text
    | some (.scalar none _ text) => some text
    | _ => none
  EvidenceFormat.all.find? fun f => f.name == name

/-- How to write reports. -/
def outputOf? (d : Document) (v : Value) : Option OutputSettings := do
  let fs ← d.fields? ["colored", "pretty", "default_format"] v
  let default : OutputSettings := {}
  return {
    colored := ← field? d.flag? fs "colored" default.colored
    pretty := ← field? d.flag? fs "pretty" default.pretty
    format := ← field? (formatOf? d) fs "default_format" default.format }

/-- The types that evidence a control. -/
def mappingOf? (d : Document) (v : Value) : Option ControlMapping := do
  let fs ← d.fields? ["description", "terraform_resources"] v
  return {
    description := ← field? d.text? fs "description" ""
    types := ← field? d.texts? fs "terraform_resources" [] }

/-- The controls by their codes; a repeated code keeps its last mapping. -/
def controlsOf? (d : Document) (v : Value) : Option (Dict ControlMapping) := do
  let es ← (← d.entries? v).mapM fun e => (mappingOf? d e.2).map (e.1, ·)
  return Dict.ofList es

/-- The settings of a document. -/
def ofDocument? (d : Document) : Option Settings := do
  let fs ← d.fields? ["scan", "output", "controls"] d.value
  return {
    scan := ← field? (scanOf? d) fs "scan" {}
    output := ← field? (outputOf? d) fs "output" {}
    controls := ← field? (controlsOf? d) fs "controls" Dict.empty }

/-- A line without content. -/
def isEmptyLine (line : List Char) : Bool :=
  let line := Text.trim line
  line.isEmpty || line.head? == some '#'

/-- The settings of a text. -/
def read (env : Environment) (text : String) : Except Fault Settings :=
  let expanded := Expansion.expand env text.toList
  if (Text.lines expanded).all isEmptyLine then .ok {}
  else
    match (Document.parse? (String.ofList expanded)).bind ofDocument? with
    | some s => .ok s
    | none => .error .unreadableSettings

/-- The lines of an example of settings. -/
def exampleLines : List String := [
  "# tfevidence configuration file",
  "",
  "# Scanning options",
  "scan:",
  "  # Paths scanned when none are given on the command line",
  "  scan_paths:",
  "    - terraform",
  "",
  "  # File name patterns to include (glob patterns)",
  "  include_patterns:",
  "    - \"*.tf\"",
  "    - \"*.tfvars\"",
  "",
  "  # Patterns to exclude from scanning (glob patterns)",
  "  exclude_patterns:",
  "    - \"*.secret\"",
  "    - \".terraform/**\"",
  "",
  "  # Continue scanning even if some files cannot be read",
  "  continue_on_error: true",
  "",
  "  # Maximum depth for recursive directory scanning",
  "  max_depth: 100",
  "",
  "# Output options",
  "output:",
  "  # Use colored output in terminal",
  "  colored: true",
  "",
  "  # Pretty-print JSON output",
  "  pretty: true",
  "",
  "  # Evidence format when --format is not given (csv, markdown, json)",
  "  default_format: csv",
  "",
  "# Control code mappings used by `scan --control-code`",
  "controls:",
  "  CC6.1:",
  "    description: Logical access controls",
  "    terraform_resources:",
  "      - aws_iam_*",
  "  CC6.8:",
  "    description: Encryption of data at rest",
  "    terraform_resources:",
  "      - aws_kms_key",
  "      - aws_s3_bucket*",
  "  CC7.2:",
  "    description: Security event logging and monitoring",
  "    terraform_resources:",
  "      - aws_cloudtrail",
  "      - aws_cloudwatch_log_group"]

/-- An example of settings, as a text. -/
def exampleText : String := String.join (exampleLines.map (· ++ "\n"))

end Settings

end InfraEvidence
