/-
  InfraEvidence — evidence as structured values.

  * `JsonReport.blockValue`: a block; its assignments and its reference are
    left out where there are none;
  * `JsonReport.value`: all blocks, a summary, and the blocks of each type;
  * `JsonReport.render`: the report, compact or on many lines.
-/
import InfraEvidence.Report.JsonValue
import InfraEvidence.Report.Order

namespace InfraEvidence

namespace JsonReport

open JsonValue

/-- The assignments of a block, if it has any. -/
def assignmentsField (b : Block) : List (String × JsonValue) :=
  if b.assignments.isEmpty then []
  else [("assignments", list (b.assignments.map fun p => list [text p.1, text p.2]))]

/-- The reference to a block, if there is one. -/
def referenceField (b : Block) : List (String × JsonValue) :=
  (b.reference.map fun r => ("reference", text r)).toList

/-- A block. -/
def blockValue (b : Block) : JsonValue :=
  object ([
    ("file_path", text b.file),
    ("resource_type", text b.type),
    ("resource_name", text b.name),
    ("line_start", number b.firstLine),
    ("line_end", number b.lastLine),
    ("configuration", object (b.settings.entries.map fun e => (e.1, text e.2)))] ++
    assignmentsField b ++ [("raw_content", text b.rawText)] ++ referenceField b ++
    [("security_relevance", list (b.controls.toList.map text))])

/-- The summary of a report. -/
def summary (time : String) (commit : Option String) (bs : List Block) : JsonValue :=
  object ([
    ("total_resources", number bs.length),
    ("resource_types_count", number (Report.byType bs).size),
    ("total_files", number (NameSet.ofList (bs.map (·.file))).size),
    ("scanned_at", text time)] ++ (commit.map fun c => ("terraform_git_hash", text c)).toList)

/-- The report on some blocks as a value. -/
def value (time : String) (commit : Option String) (bs : List Block) : JsonValue :=
  object [
    ("results", list (bs.map blockValue)),
    ("scan_summary", summary time commit bs),
    ("resource_types",
      object ((Report.byType bs).entries.map fun g => (g.1, list (g.2.map blockValue))))]

/-- The report on some blocks. -/
def render (isPretty : Bool) (time : String) (commit : Option String) (bs : List Block) : String :=
  (value time commit bs).render isPretty

end JsonReport

end InfraEvidence
