/-
  InfraEvidence — posture reports as documents.

  * `PostureDocument.metrics`: what is reported of an analysis, besides its
    score: lists of texts, each under a name;
  * `PostureDocument.csv`: records of category, metric and value; an empty
    list has no record, the items of a list are joined;
  * `PostureDocument.markdown`: a section for each analysis;
  * `PostureDocument.render?`: one of the two; the report for terminals is no
    document.
-/
import InfraEvidence.Number.Fixed
import InfraEvidence.Posture.Analysis
import InfraEvidence.Report.Csv
import InfraEvidence.Report.Format

namespace InfraEvidence

open Posture

namespace PostureDocument

/-- A score as it is reported. -/
def scoreText (score : Float) : String := Fixed.render 2 score

/-- What encrypts, with the number of resources each. -/
def methodSummaries (methods : Dict (List String)) (unit : String) : List String :=
  methods.entries.map fun e => e.1 ++ " (" ++ toString e.2.length ++ unit ++ ")"

/-! ## Records -/

/-- What is reported of an analysis besides its score. -/
def metrics : Analysis → List (String × List String)
  | .encryption a => [
    ("total_resources", [toString a.total]),
    ("encrypted_resources", a.encrypted),
    ("unencrypted_resources", a.unencrypted),
    ("encryption_methods", methodSummaries a.methods "")]
  | .access a => [
    ("total_resources", [toString a.total]),
    ("roles", a.roles),
    ("policies", a.policies),
    ("overly_permissive", a.permissive)]
  | .network a => [
    ("total_resources", [toString a.total]),
    ("security_groups", a.groups),
    ("open_to_internet", a.openRanges),
    ("restricted_access", a.restricted)]

/-- The record of a metric, if there is something in it. -/
def metricRecord (category : String) (m : String × List String) : String :=
  if m.2.isEmpty then ""
  else Csv.record [category, m.1, Csv.escape (Report.join "; " m.2)]

/-- The records of an analysis. -/
def records (a : Analysis) : String :=
  Csv.record [a.category, "security_score", scoreText a.score] ++
    Report.concat ((metrics a).map (metricRecord a.category))

/-- The analyses as records. -/
def csv (as : List Analysis) : String :=
  Csv.record ["category", "metric", "value"] ++ Report.concat (as.map records)

/-! ## Sections -/

/-- A list under a heading, if there is something in it. -/
def bulletList (heading : String) (items : List String) : String :=
  if items.isEmpty then ""
  else "\n**" ++ heading ++ "**\n\n" ++ Report.concat (items.map fun i => "- " ++ i ++ "\n")

/-- An item with a count. -/
def countItem (label : String) (n : Nat) : String := "- " ++ label ++ ": " ++ toString n ++ "\n"

/-- A title and a score. -/
def sectionHead (title : String) (score : Float) : String :=
  "## " ++ title ++ "\n\n" ++ "- Security score: " ++ scoreText score ++ "\n"

/-- The section of an analysis. -/
def sectionOf : Analysis → String
  | .encryption a =>
    sectionHead "Encryption Controls" a.score ++
      countItem "Total resources evaluated" a.total ++
      bulletList "Encrypted Resources" a.encrypted ++
      bulletList "Unencrypted Resources (Action Needed)" a.unencrypted ++
      bulletList "Encryption Methods" (methodSummaries a.methods " resources")
  | .access a =>
    sectionHead "Identity and Access Management" a.score ++
      countItem "IAM roles discovered" a.roles.length ++
      countItem "IAM policies discovered" a.policies.length ++
      bulletList "Overly Permissive Resources (Review Required)" a.permissive
  | .network a =>
    sectionHead "Network Security" a.score ++
      countItem "Security groups analysed" a.groups.length ++
      bulletList "Open to Internet (0.0.0.0/0 or ::/0)" a.openRanges ++
      bulletList "Restricted Access Resources" a.restricted

/-- The analyses as sections. -/
def markdown (time : String) (as : List Analysis) : String :=
  "# Terraform Security Analysis\n\n" ++ "_Generated at " ++ time ++ "_\n" ++
    Report.concat (as.map fun a => "\n" ++ sectionOf a)

/-- The analyses as a document. -/
def render? (format : PostureFormat) (time : String) (as : List Analysis) : Except Fault String :=
  match format with
  | .csv => .ok (csv as)
  | .markdown => .ok (markdown time as)
  | .text => .error (.unknownFormat (format.name ++ " (posture document)"))

end PostureDocument

end InfraEvidence
