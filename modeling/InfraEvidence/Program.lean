/-
  InfraEvidence — what the program does.

  A run (`Program.run`) reads a command line, finds the settings, and carries
  the command out.  What it writes, its exit code and the one file that it may
  write are its outcome (`Ending`); everything that it depends on is given
  (`Surroundings`).

  * `Program.locate?`: the file with the settings: the one named on the command
    line, else one with a usual name in the working folder, else the user's;
  * `Program.scan`, `Program.posture`, `Program.writeExample`,
    `Program.validate`: the commands;
  * `Program.exitCode`: the exit code of a command line that is not carried
    out, 0 for help and the version, else 2.
-/
import InfraEvidence.CommandLine.Invocation
import InfraEvidence.Report.Reporter
import InfraEvidence.Settings.Read
import InfraEvidence.Survey

namespace InfraEvidence

/-- What a run depends on. -/
structure Surroundings where
  /-- The files -/
  files : FileSystem
  /-- The variables of the environment -/
  env : Environment
  /-- The folder with the user's settings -/
  settingsFolder : Option String
  /-- The time -/
  now : Timestamp
  /-- The output goes to a terminal -/
  terminal : Bool

/-- A text to write to a file. -/
structure NewFile where
  path : String
  text : String
deriving DecidableEq

/-- What a run leaves behind. -/
structure Ending where
  /-- The exit code -/
  code : Nat
  /-- The output -/
  output : String := ""
  /-- The line that tells an error -/
  error : Option String := none
  /-- The file that was written -/
  written : Option NewFile := none
deriving DecidableEq

/-- Why a run ends early. -/
inductive Failure where
  | fault (f : Fault)
  /-- The file for the output cannot be written -/
  | unwritable (f : PathFailure)
  /-- There are settings already -/
  | settingsExist (path : String)

/-- The wording of a failure. -/
def Failure.message : Failure → String
  | fault f => f.message
  | unwritable f => f.text
  | settingsExist path => "Configuration file already exists: " ++ path

/-- The outcome of work with faults. -/
def Failure.ofFault {α : Type} (r : Except Fault α) : Except Failure α := r.mapError .fault

namespace Program

/-! ## Finding the settings -/

/-- The usual names of a file with settings. -/
def usualNames : List String := ["tfevidence.yaml", "tfevidence.yml", ".tfevidence.yaml"]

/-- The file in the folder with the user's settings. -/
def userFile (folder : String) : String := Path.below folder ["tfevidence", "config.yaml"]

/-- The file with the settings, if there is one. -/
def locate? (fs : FileSystem) (folder : Option String) (named : Option String) : Option String :=
  named.or ((usualNames ++ (folder.map userFile).toList).find? fs.hasPath)

/-- The settings in a file. -/
def settingsIn (fs : FileSystem) (env : Environment) (path : String) : Except Fault Settings := do
  Settings.read env (← Survey.readText fs path)

/-- The settings of a run. -/
def settings (w : Surroundings) (named : Option String) : Except Fault Settings :=
  match locate? w.files w.settingsFolder named with
  | some path => settingsIn w.files w.env path
  | none => .ok {}

/-! ## Commands -/

/-- The roots: those of the command line, else those of the settings, else the
    working folder. -/
def rootsOf (paths : List String) (s : Settings) : List String :=
  if !paths.isEmpty then paths else if !s.scan.paths.isEmpty then s.scan.paths else ["."]

/-- The environment asks for colours everywhere. -/
def asksForColors (env : Environment) : Bool :=
  match env "CLICOLOR_FORCE" with
  | some v => v != "0"
  | none => false

/-- Colours go everywhere if the environment asks for it, else to a terminal
    unless the environment asks for none. -/
def allowsColors (env : Environment) (terminal : Bool) : Bool :=
  asksForColors env || ((env "NO_COLOR").isNone && terminal && env "CLICOLOR" != some "0")

/-- Puts a report out, or into a file. -/
def putOut (fs : FileSystem) (output : Option String) (report : String) (code : Nat) :
    Except Failure Ending :=
  match output with
  | none => .ok { code := code, output := report ++ "\n" }
  | some path =>
    match fs.placeFor path with
    | .ok _ => .ok { code := code, written := some ⟨path, report⟩ }
    | .error f => .error (.unwritable f)

/-- The outcome of the survey that `scan` asks for. -/
def surveyFor (fs : FileSystem) (s : Settings) (c : ScanCommand) : Except Fault Outcome :=
  let roots := rootsOf c.paths s
  if c.controls.isEmpty then Survey.scanPaths fs s c.request roots
  else Survey.scanForControls fs s c.controls roots

/-- The report that `scan` writes. -/
def scanReport (w : Surroundings) (s : Settings) (c : ScanCommand) : Except Fault String := do
  let s := c.adjust s
  s.validate
  let outcome ← surveyFor w.files s c
  let plain := Reporter.ofSettings s w.now
  let reporter := match c.commit with
    | some commit => plain.withCommit commit
    | none => plain
  return reporter.render (c.format.getD s.output.format) outcome.blocks

/-- Writes the evidence of some roots. -/
def scan (w : Surroundings) (s : Settings) (c : ScanCommand) : Except Failure Ending := do
  putOut w.files c.output (← Failure.ofFault (scanReport w s c)) 0

/-- The analyses of some roots. -/
def analysesFor (fs : FileSystem) (s : Settings) (paths : List String) :
    Except Fault (List Posture.Analysis) := do
  let outcome ← Survey.scanPaths fs s { mode := .resourceTypes } (rootsOf paths s)
  return Posture.analyzeAll outcome.blocks

/-- The posture report is in colours. -/
def usesColors (w : Surroundings) (s : Settings) (c : PostureCommand) : Bool :=
  s.output.colored && c.output.isNone && allowsColors w.env w.terminal

/-- The score of some analyses is less than the one that is required. -/
def missesScore (c : PostureCommand) (as : List Posture.Analysis) : Bool :=
  match c.minScore with
  | some required => (Posture.complianceScore as).overall < required
  | none => false

/-- Judges the posture of some roots.  The exit code tells when the score is
    less than the one that is required. -/
def posture (w : Surroundings) (s : Settings) (c : PostureCommand) : Except Failure Ending := do
  Failure.ofFault s.validate
  let analyses ← Failure.ofFault (analysesFor w.files s c.paths)
  let reporter := (Reporter.ofSettings s w.now).withColors (usesColors w s c)
  let report ← Failure.ofFault (reporter.renderPosture? c.format analyses)
  putOut w.files c.output report (if missesScore c analyses then 2 else 0)

/-- Writes an example of settings, unless there are settings already. -/
def writeExample (fs : FileSystem) : Except Failure Ending := do
  let path := CommandLine.defaultFile
  if fs.hasPath path then throw (.settingsExist path)
  let ending ← putOut fs (some path) Settings.exampleText 0
  return { ending with output := "Created example configuration: " ++ path ++ "\n" }

/-- Checks the settings in a file. -/
def validate (w : Surroundings) (path : String) : Ending :=
  match settingsIn w.files w.env path >>= Settings.validate with
  | .ok () => { code := 0, output := "Configuration is valid: " ++ path ++ "\n" }
  | .error f => { code := 1, error := some ("Configuration error: " ++ f.message) }

/-- Carries a command line out. -/
def carryOut (w : Surroundings) (i : Invocation) : Except Failure Ending := do
  let s ← Failure.ofFault (settings w i.config)
  match i.command with
  | .scan c => scan w s c
  | .posture c => posture w s c
  | .init => writeExample w.files
  | .validate path => return validate w path

/-! ## Runs -/

/-- The exit code of a command line that is not carried out. -/
def exitCode (f : CommandLine.UsageFault) : Nat :=
  match f with
  | .help | .version => 0
  | _ => 2

/-- What is put out instead. -/
def usageOutput (f : CommandLine.UsageFault) : String :=
  match f with
  | .version => "tfevidence " ++ Terminal.version ++ "\n"
  | _ => ""

/-- A run of the program; the first argument names it. -/
def run (w : Surroundings) (args : List String) : Ending :=
  match Invocation.parse? w.env args with
  | .error f => { code := exitCode f, output := usageOutput f }
  | .ok i =>
    match carryOut w i with
    | .ok ending => ending
    | .error f => { code := 1, error := some ("Error: " ++ f.message) }

/-- The files after a run. -/
def filesAfter (fs : FileSystem) (ending : Ending) : FileSystem :=
  match ending.written with
  | none => fs
  | some file => ((fs.write file.path (Text.encode file.text.toList)).toOption).getD fs

end Program

end InfraEvidence
