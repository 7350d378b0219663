/-
  InfraEvidence — evidence as a Markdown document.

  * `Markdown.blockSection`: the section of a block: its place, its control
    codes, its settings, those of several lines in a code block;
  * `Markdown.typeSection`: a heading for a type, and the sections of its
    blocks;
  * `Markdown.render`: the title, what the report is about, and the types in
    order.
-/
import InfraEvidence.Report.Order
import InfraEvidence.Text.Search

namespace InfraEvidence

namespace Markdown

/-- A text as code. -/
def code (s : String) : String := "`" ++ s ++ "`"

/-- A setting, in a code block if it has several lines. -/
def settingItem (e : String × String) : String :=
  let key := "- **" ++ e.1 ++ ":**"
  if e.2.toList.contains '\n' then key ++ "\n\n```hcl\n" ++ e.2 ++ "\n```\n"
  else key ++ " " ++ code e.2 ++ "\n"

/-- The control codes of a block, if it has any. -/
def controlsPart (b : Block) : String :=
  if b.controls.isEmpty then ""
  else "**Security Controls:** " ++ Report.join ", " (b.controls.toList.map code) ++ "\n\n"

/-- The settings of a block, if it has any. -/
def settingsPart (b : Block) : String :=
  let shown := Report.shownSettings b
  if shown.isEmpty then ""
  else "**Configuration:**\n\n" ++ Report.concat (shown.map settingItem) ++ "\n"

/-- The section of a block. -/
def blockSection (b : Block) : String :=
  "### " ++ b.name ++ "\n\n" ++ "**File:** " ++ code b.file ++ " (lines " ++ b.lineRange ++
    ")\n\n" ++ controlsPart b ++ settingsPart b

/-- The heading of a type, and the sections of its blocks. -/
def typeSection (g : String × List Block) : String :=
  "## " ++ g.1 ++ "\n\n" ++ Report.concat (g.2.map blockSection)

/-- The commit of the repository. -/
def commitLine : Option String → String
  | some commit => "Terraform Repository Commit: " ++ code commit ++ "\n"
  | none => ""

/-- The title, and what the report is about. -/
def preamble (time : String) (commit : Option String) (bs : List Block) : String :=
  "# Terraform Security Configuration Evidence\n\n" ++ "Generated: " ++ time ++ "\n" ++
    commitLine commit ++ "Total Resources: " ++ toString bs.length ++ "\n\n"

/-- The report on some blocks. -/
def render (time : String) (commit : Option String) (bs : List Block) : String :=
  preamble time commit bs ++ Report.concat ((Report.byType bs).entries.map typeSection)

end Markdown

end InfraEvidence
