/-
  InfraEvidence — writing reports.

  * `Reporter`: the time and the commit that reports state, and how they are
    written;
  * `Reporter.render`: the evidence report on some blocks, in the order of
    reports, or a sentence if there are none;
  * `Reporter.renderPosture?`: the report on some analyses.
-/
import InfraEvidence.Calendar
import InfraEvidence.Report.Csv
import InfraEvidence.Report.Json
import InfraEvidence.Report.Markdown
import InfraEvidence.Report.Terminal
import InfraEvidence.Settings.Basic

namespace InfraEvidence

/-- How reports are written. -/
structure Reporter where
  /-- The time of the report -/
  time : Timestamp
  /-- The commit of the repository -/
  commit : Option String
  /-- Structured reports are written on many lines -/
  pretty : Bool
  /-- Posture reports for terminals are in colours -/
  colored : Bool

namespace Reporter

/-- The reporter that some settings ask for. -/
def ofSettings (s : Settings) (time : Timestamp) : Reporter where
  time := time
  commit := none
  pretty := s.output.pretty
  colored := s.output.colored

/-- States a commit in reports, unless it is blank. -/
def withCommit (r : Reporter) (commit : String) : Reporter :=
  { r with commit := if Text.trimmed commit = "" then none else some (Text.trimmed commit) }

/-- Chooses colours or none. -/
def withColors (r : Reporter) (colored : Bool) : Reporter := { r with colored := colored }

/-- The report on nothing. -/
def emptyReport : String := "No Terraform resources found matching the criteria."

/-- The report on some blocks in the order given. -/
def renderOrdered (r : Reporter) (format : EvidenceFormat) (bs : List Block) : String :=
  match format with
  | .csv => Csv.render r.commit bs
  | .markdown => Markdown.render r.time.render r.commit bs
  | .json => JsonReport.render r.pretty r.time.render r.commit bs

/-- The report on some blocks. -/
def render (r : Reporter) (format : EvidenceFormat) (bs : List Block) : String :=
  if bs.isEmpty then emptyReport else r.renderOrdered format (Report.inOrder bs)

/-- The report on some analyses. -/
def renderPosture? (r : Reporter) (format : PostureFormat) (as : List Posture.Analysis) :
    Except Fault String :=
  match format with
  | .text => .ok (Terminal.render r.colored as)
  | .csv | .markdown => PostureDocument.render? format r.time.render as

end Reporter

end InfraEvidence
