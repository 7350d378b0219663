/-
  InfraEvidence — the formats of reports.

  * `EvidenceFormat`: the formats of evidence reports;
  * `PostureFormat`: the formats of posture reports;
  * `parse?`: the format that a word names, blanks around it and the case of
    its ASCII letters aside; `name`: the word for a format.
-/
import InfraEvidence.Block.Kind

namespace InfraEvidence

/-- A format of evidence reports. -/
inductive EvidenceFormat where
  | csv
  | markdown
  | json
deriving DecidableEq

/-- The word for a format. -/
def EvidenceFormat.name : EvidenceFormat → String
  | csv => "csv"
  | markdown => "markdown"
  | json => "json"

/-- All formats of evidence reports. -/
def EvidenceFormat.all : List EvidenceFormat := [.csv, .markdown, .json]

/-- The format that a word names. -/
def EvidenceFormat.parse? (text : String) : Except Fault EvidenceFormat :=
  match Text.plainName text with
  | "csv" => .ok .csv
  | "markdown" | "md" => .ok .markdown
  | "json" => .ok .json
  | _ => .error (.unknownFormat text)

/-- A format of posture reports. -/
inductive PostureFormat where
  /-- Tables for a terminal -/
  | text
  /-- Rows of category, metric and value -/
  | csv
  | markdown
deriving DecidableEq

/-- The word for a format. -/
def PostureFormat.name : PostureFormat → String
  | text => "text"
  | csv => "csv"
  | markdown => "markdown"

/-- All formats of posture reports. -/
def PostureFormat.all : List PostureFormat := [.text, .csv, .markdown]

/-- The format that a word names. -/
def PostureFormat.parse? (text : String) : Except Fault PostureFormat :=
  match Text.plainName text with
  | "text" => .ok .text
  | "csv" => .ok .csv
  | "markdown" | "md" => .ok .markdown
  | _ => .error (.unknownFormat text)

end InfraEvidence
