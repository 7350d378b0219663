/-
  InfraEvidence — the command line of the program.

  * `Invocation`: what a command line asks for: a command (`Command`) with its
    options, and the options that all commands share;
  * `Subcommand.grammar`, `mainGrammar`: how command lines are written;
  * `Invocation.parse?`: reads a command line.  An option that all commands
    share may stand before or after the name of the command; given at both
    places, the one after it counts;
  * `ScanCommand.adjust`: settings as a command line changes them.
-/
import InfraEvidence.CommandLine.Grammar
import InfraEvidence.Mode
import InfraEvidence.Number.Read
import InfraEvidence.Settings.Basic
import InfraEvidence.Survey

namespace InfraEvidence

/-! ## Commands -/

/-- Write the evidence of some roots. -/
structure ScanCommand where
  /-- The roots -/
  paths : List String
  /-- What to find and to keep -/
  request : Request
  /-- Control codes that choose the admitted types -/
  controls : List String
  /-- The format of the report -/
  format : Option EvidenceFormat
  /-- The file that takes the report -/
  output : Option String
  /-- The commit that the report states -/
  commit : Option String
  /-- Go on when a file cannot be read -/
  continueOnError : Bool
  /-- The greatest number of components below a root -/
  maxDepth : Option Nat
  /-- Further exclude globs -/
  excludes : List String

/-- Judge the posture of some roots. -/
structure PostureCommand where
  /-- The roots -/
  paths : List String
  /-- The format of the report -/
  format : PostureFormat
  /-- The file that takes the report -/
  output : Option String
  /-- The score that is required -/
  minScore : Option Float

/-- What the program is asked to do. -/
inductive Command where
  /-- Write evidence -/
  | scan (c : ScanCommand)
  /-- Judge the posture -/
  | posture (c : PostureCommand)
  /-- Write an example of settings -/
  | init
  /-- Check the settings in a file -/
  | validate (file : String)

/-- What a command line asks for. -/
structure Invocation where
  /-- The file with the settings -/
  config : Option String
  /-- How often more detail is asked for -/
  verbose : Nat
  /-- Only errors are told -/
  quiet : Bool
  /-- The command -/
  command : Command

/-- Settings as the command line changes them. -/
def ScanCommand.adjust (c : ScanCommand) (s : Settings) : Settings :=
  { s with
    scan := { s.scan with
      excludes := s.scan.excludes ++ c.excludes
      continueOnError := s.scan.continueOnError || c.continueOnError
      maxDepth := c.maxDepth.getD s.scan.maxDepth } }

namespace CommandLine

/-! ## Options -/

/-- The path of a file or folder is not empty. -/
def checkPath (value : String) : Option UsageFault :=
  if value = "" then some .invalidValue else none

/-- A value that is one of some words. -/
def checkWord (words : List String) (value : String) : Option UsageFault :=
  if words.contains value then none else some .invalidValue

/-- A value that can be read. -/
def checkRead {α : Type} (read : String → Option α) (value : String) : Option UsageFault :=
  if (read value).isSome then none else some .malformedValue

namespace Options

/-- The file with the settings. -/
def config : OptionSpec where
  name := "config"
  letter := some 'c'
  word := some "config"
  kind := .single
  check := checkPath
  environmentName := some "TFEVIDENCE_CONFIG"

/-- More detail, each time it is given. -/
def verbose : OptionSpec where
  name := "verbose"
  letter := some 'v'
  word := some "verbose"
  kind := .count

/-- Tell errors only. -/
def quiet : OptionSpec where
  name := "quiet"
  letter := some 'q'
  word := some "quiet"
  kind := .flag

/-- Tell how the program is used. -/
def help : OptionSpec where
  name := "help"
  letter := some 'h'
  word := some "help"
  kind := .help

/-- Tell the version of the program. -/
def version : OptionSpec where
  name := "version"
  letter := some 'V'
  word := some "version"
  kind := .version

/-- The roots of a survey. -/
def paths : OptionSpec where
  name := "paths"
  kind := .many
  check := checkPath

/-- What a scan looks for. -/
def mode : OptionSpec where
  name := "mode"
  letter := some 'm'
  word := some "mode"
  kind := .single
  check := checkWord (Mode.all.map Mode.name)

/-- Patterns of the types to keep. -/
def types : OptionSpec where
  name := "types"
  letter := some 't'
  word := some "resource-type"
  kind := .many

/-- Terms of which one has to apply. -/
def terms : OptionSpec where
  name := "terms"
  word := some "filter"
  kind := .many

/-- Control codes of which one has to apply. -/
def codes : OptionSpec where
  name := "codes"
  word := some "control-code"
  kind := .many

/-- Control codes whose types are kept; they stand in for `types`. -/
def controls : OptionSpec where
  name := "controls"
  word := some "control"
  kind := .many

/-- The standard that compliance is checked against. -/
def standard : OptionSpec where
  name := "standard"
  word := some "standard"
  kind := .single

/-- Patterns of the files to read. -/
def files : OptionSpec where
  name := "files"
  word := some "file-pattern"
  kind := .many

/-- The format of an evidence report. -/
def evidenceFormat : OptionSpec where
  name := "format"
  letter := some 'f'
  word := some "format"
  kind := .single
  check := checkWord (EvidenceFormat.all.map EvidenceFormat.name)

/-- The format of a posture report. -/
def postureFormat : OptionSpec where
  name := "format"
  letter := some 'f'
  word := some "format"
  kind := .single
  check := checkWord (PostureFormat.all.map PostureFormat.name)

/-- The file that takes the report. -/
def output : OptionSpec where
  name := "output"
  letter := some 'o'
  word := some "output"
  kind := .single
  check := checkPath

/-- The commit that the report states. -/
def commit : OptionSpec where
  name := "commit"
  word := some "commit"
  kind := .single
  environmentName := some "TFEVIDENCE_COMMIT"

/-- Go on when a file cannot be read. -/
def continueOnError : OptionSpec where
  name := "continue-on-error"
  word := some "continue-on-error"
  kind := .flag

/-- The greatest number of components below a root. -/
def maxDepth : OptionSpec where
  name := "max-depth"
  word := some "max-depth"
  kind := .single
  check := checkRead Number.natural?

/-- Patterns of the files to leave out. -/
def excludes : OptionSpec where
  name := "excludes"
  letter := some 'e'
  word := some "exclude"
  kind := .many

/-- The score below which a posture fails. -/
def minScore : OptionSpec where
  name := "min-score"
  word := some "min-score"
  kind := .single
  check := checkRead Number.real?

/-- The file to check; it stands in for the settings of the program. -/
def checkedFile : OptionSpec where
  name := "config"
  kind := .single
  check := checkPath

end Options

/-! ## Grammars -/

/-- The commands by their names. -/
inductive Subcommand where
  | scan
  | posture
  | init
  | validate
  | help
deriving DecidableEq

namespace Subcommand

/-- All names of commands, with the short ones. -/
def names : List (String × Subcommand) := [
  ("scan", scan), ("s", scan), ("posture", posture), ("p", posture), ("init", init),
  ("validate", validate), ("help", help)]

/-- The command with a name. -/
def ofName? (name : String) : Option Subcommand := names.lookup name

open Options

/-- The options that all commands share, and that for help. -/
def shared : List OptionSpec := [config, verbose, quiet, Options.help]

/-- How the arguments of a command are written. -/
def grammar : Subcommand → CommandSpec
  | scan => {
      options := [mode, types, terms, codes, controls, standard, files, evidenceFormat, output,
        commit, continueOnError, maxDepth, excludes] ++ shared
      plain := [paths]
      exclusive := [(controls.name, types.name)] }
  | posture => { options := [postureFormat, output, minScore] ++ shared, plain := [paths] }
  | init => { options := shared }
  | validate => { options := [verbose, quiet, Options.help], plain := [checkedFile] }
  | help => { options := [] }

end Subcommand

/-- How a command line is written up to the name of the command. -/
def mainGrammar : CommandSpec where
  options := Subcommand.shared ++ [Options.version]
  subcommands := Subcommand.names.map (·.1)

/-! ## Reading -/

/-- What is asked for with `help` and the arguments after it. -/
def helpFault : List String → UsageFault
  | [] => .help
  | [name] => if (Subcommand.ofName? name).isSome then .help else .invalidSubcommand
  | _ => .invalidSubcommand

/-- What has been given before and after the name of the command, together: the
    stronger source, and of equally strong ones the one after the name. -/
def stronger : Option Given → Option Given → Option Given
  | some before, some after =>
    if after.source.rank < before.source.rank then some before else some after
  | some before, none => some before
  | none, after => after

namespace Matches

/-- The values of an option. -/
def texts (ms : Matches) (spec : OptionSpec) : List String :=
  match ms.lookup spec.name with
  | some given => given.values
  | none => []

/-- The value of an option. -/
def text? (ms : Matches) (spec : OptionSpec) : Option String := (ms.texts spec).head?

/-- The option has been given. -/
def has (ms : Matches) (spec : OptionSpec) : Bool := (ms.lookup spec.name).isSome

/-- The value of an option that names one of some things. -/
def choice? {α : Type} (ms : Matches) (spec : OptionSpec) (all : List α) (name : α → String) :
    Option α :=
  (ms.text? spec).bind fun v => all.find? fun a => name a == v

/-- What has been given before and after the name of the command, together. -/
def merge (before after : Matches) (spec : OptionSpec) : Matches :=
  match stronger (before.lookup spec.name) (after.lookup spec.name) with
  | some given => [(spec.name, given)]
  | none => []

end Matches

open Options

/-- The file that is checked unless another one is named. -/
def defaultFile : String := "tfevidence.yaml"

/-- What is given for `validate`, where a file is always named. -/
def withCheckedFile (ms : Matches) : Matches :=
  if ms.has checkedFile then ms else (checkedFile.name, ⟨.default, [defaultFile]⟩) :: ms

/-- The options of `scan`. -/
def scanCommand (ms : Matches) : ScanCommand where
  paths := ms.texts paths
  request := {
    mode := (ms.choice? mode Mode.all Mode.name).getD .securityControls
    types := ms.texts types
    terms := ms.texts terms
    codes := ms.texts codes
    standard := (ms.text? standard).getD "soc2"
    files := ms.texts files }
  controls := ms.texts controls
  format := ms.choice? evidenceFormat EvidenceFormat.all EvidenceFormat.name
  output := ms.text? output
  commit := ms.text? commit
  continueOnError := ms.has continueOnError
  maxDepth := (ms.text? maxDepth).bind Number.natural?
  excludes := ms.texts excludes

/-- The options of `posture`. -/
def postureCommand (ms : Matches) : PostureCommand where
  paths := ms.texts paths
  format := (ms.choice? postureFormat PostureFormat.all PostureFormat.name).getD .text
  output := ms.text? output
  minScore := (ms.text? minScore).bind Number.real?

/-- A command with its options, and `config` as it is given. -/
def commandOf (sub : Subcommand) (config : Option String) (ms : Matches) :
    Except UsageFault Command :=
  match sub with
  | .scan => .ok (.scan (scanCommand ms))
  | .posture => .ok (.posture (postureCommand ms))
  | .init => .ok .init
  | .validate => .ok (.validate (config.getD defaultFile))
  | .help => .error .help

end CommandLine

open CommandLine

namespace Invocation

/-- A command line whose command is `sub`, from what has been given before and
    after the name of the command. -/
def ofMatches? (sub : Subcommand) (before after : Matches) : Except UsageFault Invocation := do
  let after := if sub = .validate then withCheckedFile after else after
  let config := (before.merge after Options.config).text? Options.config
  return {
    config := config
    verbose := ((before.merge after Options.verbose).texts Options.verbose).length
    quiet := (before.merge after Options.quiet).has Options.quiet
    command := ← commandOf sub config after }

/-- Reads what follows the name of a command. -/
def parseCommand? (env : String → Option String) (sub : Subcommand) (args : List String) :
    Except UsageFault Matches := do
  if sub = .help then throw (helpFault args)
  let (state, _) ← sub.grammar.arguments? args {}
  sub.grammar.finish? env false state

/-- Reads a command line; its first argument names the program. -/
def parse? (env : String → Option String) (args : List String) :
    Except UsageFault Invocation := do
  let (state, rest) ← mainGrammar.arguments? (args.drop 1) {}
  let command := rest.bind fun r => (Subcommand.ofName? r.1).map (·, r.2)
  match command with
  | none => do
    let _ ← mainGrammar.finish? env false state
    throw .missingSubcommand
  | some (sub, args) => do
    let after ← parseCommand? env sub args
    let before ← mainGrammar.finish? env true state
    ofMatches? sub before after

end Invocation

end InfraEvidence
