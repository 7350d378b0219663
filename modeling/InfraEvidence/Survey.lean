/-
  InfraEvidence — surveys of a tree of files.

  * `Request`: what a survey is to find and to keep;
  * `Survey.applyMode`: what a mode keeps of the blocks found; a survey for
    security controls that reads only some files resolves no reference to
    blocks of other files;
  * `Survey.scanPaths`: the blocks of the files below some roots, the files
    that were read, and a fault for each one that could not be read;
  * `Survey.scanForControls`: the blocks of the types that the settings map to
    some control codes.
-/
import InfraEvidence.Block.Scan
import InfraEvidence.Files.Walk
import InfraEvidence.Mode
import InfraEvidence.Reference
import InfraEvidence.Selection

namespace InfraEvidence

/-- What a survey is to find and to keep. -/
structure Request where
  /-- The mode of analysis -/
  mode : Mode := .securityControls
  /-- The admitted resource types -/
  types : List String := []
  /-- The terms that blocks are selected by -/
  terms : List String := []
  /-- The control codes that blocks have to evidence -/
  codes : List String := []
  /-- The compliance standard -/
  standard : String := "soc2"
  /-- Further globs for the files to read -/
  files : List String := []
deriving DecidableEq

/-- The outcome of a survey. -/
structure Outcome where
  /-- The blocks, by file and line -/
  blocks : List Block
  /-- The files that were read -/
  files : List String
  /-- The faults of files that could not be read -/
  faults : List Fault

/-- The outcome of nothing. -/
def Outcome.empty : Outcome := ⟨[], [], []⟩

/-- Two outcomes, one after the other. -/
def Outcome.append (a b : Outcome) : Outcome :=
  ⟨a.blocks ++ b.blocks, a.files ++ b.files, a.faults ++ b.faults⟩

namespace Survey

/-- What the mode of a request keeps. -/
def keepByMode (r : Request) (bs : List Block) : List Block :=
  match r.mode with
  | .securityControls =>
    Selection.byControls r.terms (if r.files.isEmpty then bs else Reference.sanitize bs)
  | .complianceCheck => Selection.byTerms r.terms (bs.filter (Selection.isCompliant r.standard))
  | .securityIssues => Selection.byTerms r.terms (bs.filter Selection.hasIssues)
  | .resourceTypes | .modules | .dataSources | .locals => Selection.byTerms r.terms bs

/-- What a request keeps of the blocks found. -/
def applyMode (r : Request) (bs : List Block) : List Block :=
  Selection.byCodes r.codes (keepByMode r bs)

/-- The text of a file, or the fault of the path. -/
def readText (fs : FileSystem) (path : String) : Except Fault String :=
  match fs.read path with
  | .error f => .error (f.fault path)
  | .ok bytes =>
    match Text.decode? bytes with
    | some text => .ok (String.ofList text)
    | none => .error (.invalidUtf8 path)

/-- Scans one more file.  A fault ends the survey unless it goes on. -/
def scanFile (fs : FileSystem) (sc : BlockScanner) (goOn : Bool) (acc : Outcome)
    (path : String) : Except Fault Outcome :=
  match readText fs path with
  | .ok text => .ok (acc.append ⟨sc.scan path text, [path], []⟩)
  | .error fault =>
    if goOn && fault.isRecoverable then .ok (acc.append ⟨[], [], [fault]⟩) else .error fault

/-- Scans the files below some roots. -/
def scanPaths (fs : FileSystem) (s : Settings) (r : Request) (roots : List String) :
    Except Fault Outcome := do
  let files ← Walk.collectAll fs s.scan r.files roots
  let types ← AllowList.parse? r.types
  let found ← files.foldlM (scanFile fs ⟨r.mode.blockKind, types⟩ s.scan.continueOnError)
    Outcome.empty
  return { found with blocks := applyMode r found.blocks }

/-- Scans for the types that are mapped to some control codes. -/
def scanForControls (fs : FileSystem) (s : Settings) (codes : List String)
    (roots : List String) : Except Fault Outcome := do
  let types ← s.typesFor codes
  scanPaths fs s { mode := .resourceTypes, types := types, codes := codes } roots

end Survey

end InfraEvidence
