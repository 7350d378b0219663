/-
  InfraEvidence — evidence as comma-separated values.

  * `Csv.escape`: a field with a comma, a quote or a line feed is written
    between quotes, its own quotes twice;
  * `Csv.record`: fields separated by commas, with a line feed;
  * `Csv.render`: a comment with the commit, if there is one, the names of the
    columns, and one record for each block.
-/
import InfraEvidence.Report.Order
import InfraEvidence.Text.Search

namespace InfraEvidence

namespace Csv

/-- The text of a field with its quotes written twice. -/
def doubleQuotes (s : List Char) : List Char :=
  s.flatMap fun c => if c = '"' then ['"', '"'] else [c]

/-- The characters for which a field is written between quotes. -/
def isSpecial (c : Char) : Bool := c == ',' || c == '"' || c == '\n'

/-- A field as it is written. -/
def escape (s : String) : String :=
  if s.toList.any isSpecial then String.ofList ('"' :: doubleQuotes s.toList ++ ['"']) else s

/-- A record of fields that are written as they are. -/
def record (fields : List String) : String := Report.join "," fields ++ "\n"

/-- The names of the columns. -/
def columns : List String :=
  ["Resource Type", "Resource Name", "File Path", "Line Range", "Security Controls",
    "Key Configuration"]

/-- The settings of a block in one field. -/
def settingsField (b : Block) : String :=
  Report.join "; " ((Report.shownSettings b).map fun e => e.1 ++ "=" ++ e.2)

/-- The fields of a block. -/
def fields (b : Block) : List String :=
  [escape b.type, escape b.name, escape b.file, b.lineRange,
    escape (Report.join ";" b.controls.toList), escape (settingsField b)]

/-- The comment with the commit of the repository. -/
def commitLine : Option String → String
  | some commit => "# Terraform Repository Commit: " ++ commit ++ "\n"
  | none => ""

/-- The report on some blocks. -/
def render (commit : Option String) (bs : List Block) : String :=
  commitLine commit ++ record columns ++ Report.concat (bs.map fun b => record (fields b))

end Csv

end InfraEvidence
