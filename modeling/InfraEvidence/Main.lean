/-
  InfraEvidence — the program on a machine.

  `main` copies what a run depends on into a value (`Surroundings`): the
  variables, the time, and the files below the paths that the run may look at.
  It leaves the run to `Program.run`, and then writes what it is told to write.
-/
import Std.Time.DateTime.Timestamp
import InfraEvidence.Program

namespace InfraEvidence

namespace Machine

/-- The values of some variables. -/
def valuesOf (names : List String) : IO Environment := do
  let values ← names.mapM fun name => return (name, ← IO.getEnv name)
  return fun name => (values.lookup name).join

/-- The variables that the program itself knows. -/
def knownVariables : List String := [
  "TFEVIDENCE_CONFIG", "TFEVIDENCE_COMMIT", "CLICOLOR", "CLICOLOR_FORCE", "NO_COLOR",
  "XDG_CONFIG_HOME", "HOME"]

/-- The variables that a text refers to. -/
def namesIn (text : String) : List String :=
  (Expansion.bracedNames text.toList ++ Expansion.bareNames text.toList).map String.ofList

/-- The path of a place. -/
def pathOf (place : List String) : String := "/" ++ Path.ofNames place

/-- The kind of what stands at a place; `none` if nothing does. -/
def kindAt (place : List String) : IO (Option IO.FS.FileType) := do
  try
    return some (← ((← IO.currentDir) / pathOf place).metadata).type
  catch _ => return none

/-- The file at a place; one that cannot be read is left out. -/
def readFile (place : List String) : IO (Option Node) := do
  try
    return some (.file (← IO.FS.readBinFile (pathOf place)).toList)
  catch _ => return none

/-- The tree at a place, without links and what no survey enters.  What `old`
    has besides stays there. -/
partial def readTree (place : List String) (old : Node) : IO Node := do
  let entries ← ((← IO.currentDir) / pathOf place).readDir
  let children ← entries.toList.filterMapM fun entry => do
    let name := entry.fileName
    if isSkipped name then return none
    match (← entry.path.symlinkMetadata).type with
    | .dir => do
      let below := (old.children.lookup name).getD .emptyFolder
      return some (name, ← readTree (place ++ [name]) below)
    | .file => return (← readFile (place ++ [name])).map (name, ·)
    | _ => return none
  let others := old.children.filter fun c => (children.lookup c.1).isNone
  return .folder (children ++ others)

/-- Copies what stands at a place, without what is below it, and says whether a
    path may go on there. -/
def copyPlace (root : Node) (place : List String) : IO (Node × Bool) := do
  match ← kindAt place with
  | some .dir => return (if (root.at? place).isSome then root else root.set place .emptyFolder, true)
  | some .file =>
    match ← readFile place with
    | some file => return (root.set place file, false)
    | none => return (root, false)
  | _ => return (root, false)

/-- Copies everything on the way along a path, and what is below its end if it
    is asked for. -/
def copyPath (withBelow : Bool) (fs : FileSystem) (path : String) : IO FileSystem := do
  let mut root := fs.root
  let mut place := fs.startOf path
  for part in "." :: Path.parts path do
    if part != "" && part != "." then
      place := if part = ".." then place.dropLast else place ++ [part]
    let (next, goesOn) ← copyPlace root place
    root := next
    if !goesOn then return { fs with root := root }
  if withBelow then
    root := root.set place (← readTree place ((root.at? place).getD .emptyFolder))
  return { fs with root := root }

/-- The folder for settings below the home folder. -/
def belowHome (env : Environment) : Option String :=
  (env "HOME").map fun folder => Path.join folder ".config"

/-- The user's folder for settings, below the home folder unless it is set. -/
def settingsFolder (env : Environment) : Option String :=
  match env "XDG_CONFIG_HOME" with
  | some folder => if folder.startsWith "/" then some folder else belowHome env
  | none => belowHome env

/-- The variables of the program, and those that its settings refer to. -/
def variablesFor (fs : FileSystem) (env : Environment) (i : Invocation) : IO Environment := do
  let checked := match i.command with
    | .validate file => [file]
    | _ => []
  let sources := (Program.locate? fs (settingsFolder env) i.config).toList ++ checked
  let texts := sources.filterMap fun path => (Survey.readText fs path).toOption
  valuesOf (knownVariables ++ texts.flatMap namesIn)

/-- The files that may hold the settings of a run, or take its output. -/
def filesOf (env : Environment) (i : Invocation) : List String :=
  let named := match i.command with
    | .scan c => c.output.toList
    | .posture c => c.output.toList
    | .init => []
    | .validate file => [file]
  Program.usualNames ++ ((settingsFolder env).map Program.userFile).toList ++ i.config.toList ++
    named

/-- The roots that a run surveys. -/
def rootsOf (s : Settings) : Command → List String
  | .scan c => Program.rootsOf c.paths s
  | .posture c => Program.rootsOf c.paths s
  | .init | .validate _ => []

/-- Copies what a run depends on. -/
def surroundings (args : List String) : IO Surroundings := do
  let env ← valuesOf knownVariables
  let working := (Path.parts (← IO.currentDir).toString).filter (· != "")
  let seconds := (← Std.Time.Timestamp.now).toSecondsSinceUnixEpoch.val
  let w : Surroundings := {
    files := ⟨.emptyFolder, working⟩
    env := env
    settingsFolder := settingsFolder env
    now := (Timestamp.ofSeconds? seconds).getD .epoch
    terminal := ← (← IO.getStdout).isTty }
  match Invocation.parse? env args with
  | .error _ => return w
  | .ok i => do
    let files ← (filesOf env i).foldlM (copyPath false) w.files
    let env ← variablesFor files env i
    let w := { w with files := files, env := env }
    match Program.settings w i.config with
    | .error _ => return w
    | .ok s => return { w with files := ← (rootsOf s i.command).foldlM (copyPath true) files }

/-- Writes what a run leaves behind. -/
def leave (ending : Ending) : IO UInt32 := do
  if let some file := ending.written then IO.FS.writeFile file.path file.text
  IO.print ending.output
  if let some line := ending.error then IO.eprintln line
  return ending.code.toUInt32

end Machine

end InfraEvidence

/-- Runs the program. -/
def main (args : List String) : IO UInt32 := do
  let args := "tfevidence" :: args
  InfraEvidence.Machine.leave (InfraEvidence.Program.run (← InfraEvidence.Machine.surroundings args) args)
