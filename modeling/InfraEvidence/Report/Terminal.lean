/-
  InfraEvidence — the posture report for terminals.

  * `Terminal.Style`: the ways to set off a text, each by codes around it;
  * `Terminal.styled`: a text set off, if the report is in colours;
  * `Terminal.render`: a heading, a table of the scores with their mean, and,
    if there are gaps, a table of them.  The cells of tables are always plain.
-/
import InfraEvidence.Posture.Gap
import InfraEvidence.Posture.Score
import InfraEvidence.Report.PostureDocument
import InfraEvidence.Report.Table

namespace InfraEvidence

open Posture

namespace Terminal

/-- The version that the heading shows. -/
def version : String := "0.1.0"

/-- A way to set off a text. -/
inductive Style where
  | title
  | faint
  | rule
  | heading
  | strong
deriving DecidableEq

/-- The parameters of the code of a style. -/
def Style.parameters : Style → String
  | title => "1;97"
  | faint => "2"
  | rule => "94"
  | heading => "1;96"
  | strong => "1"

/-- The control sequence with some parameters. -/
def sequence (parameters : String) : String :=
  String.ofList [Char.ofNat 0x1B, '['] ++ parameters ++ "m"

/-- A text set off in colours, and as it is without. -/
def styled (colored : Bool) (style : Style) (s : String) : String :=
  if colored then sequence style.parameters ++ s ++ sequence "0" else s

/-- A line over the whole width of the report. -/
def line (c : Char) : String := "".pushn c 80

/-- The heading of the report. -/
def header (colored : Bool) : String :=
  "\n" ++ styled colored .title "Terraform Security Posture" ++ " " ++
    styled colored .faint ("v" ++ version) ++ "\n" ++ styled colored .rule (line '=') ++ "\n"

/-- The title of a part of the report. -/
def partTitle (colored : Bool) (title : String) : String :=
  "\n" ++ styled colored .heading title ++ "\n" ++ line '-' ++ "\n"

/-- What an analysis counts. -/
def details : Analysis → String
  | .encryption a =>
    toString a.encrypted.length ++ " encrypted, " ++ toString a.unencrypted.length ++
      " unencrypted of " ++ toString a.total ++ " resources"
  | .access a =>
    toString a.roles.length ++ " roles, " ++ toString a.policies.length ++ " policies, " ++
      toString a.permissive.length ++ " overly permissive"
  | .network a =>
    toString a.total ++ " network resources, " ++ toString a.openRanges.length ++
      " open to internet"

/-- The table of the scores. -/
def scoreTable (as : List Analysis) : Table where
  header := ["Category", "Score", "Details"]
  rows := as.map fun a => [a.category, PostureDocument.scoreText a.score, details a]

/-- The scores and their mean. -/
def scores (colored : Bool) (as : List Analysis) : String :=
  partTitle colored "Scores" ++ (scoreTable as).render ++ "\n" ++
    "\n  Overall compliance score: " ++
    styled colored .strong (PostureDocument.scoreText (complianceScore as).overall) ++ "\n"

/-- The row of a gap. -/
def gapRow (g : Gap) : List String :=
  [g.kind.severity.capitals, g.kind.name, g.resource, g.kind.description]

/-- The table of the gaps. -/
def gapTable (gs : List Gap) : Table where
  header := ["Severity", "Category", "Resource", "Description"]
  rows := gs.map gapRow

/-- The gaps, if there are any. -/
def gapPart (colored : Bool) (gs : List Gap) : String :=
  if gs.isEmpty then ""
  else partTitle colored "Security Gaps" ++ (gapTable gs).render ++ "\n"

/-- The report on some analyses. -/
def render (colored : Bool) (as : List Analysis) : String :=
  header colored ++ scores colored as ++ gapPart colored (gaps (Findings.ofAnalyses as) {})

end Terminal

end InfraEvidence
