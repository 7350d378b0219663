/-
  InfraEvidence — the grammar of command lines.

  * `OptionSpec`: an option, how it is written, and the values it accepts;
  * `CommandSpec`: the options of a command, its plain arguments and its
    subcommands;
  * `Matches`: what has been given, and where it comes from (`Source`);
  * `CommandSpec.arguments?`: goes through the arguments of a command up to the
    end or to the name of a subcommand, or tells what is wrong (`UsageFault`);
  * `CommandSpec.finish?`: what has been given at the end.

  The value of an option may stand in the argument after it.  Then it is held
  back (`MatchState.held`), and is checked when the next option or plain
  argument is met, or at the end.
-/
namespace InfraEvidence

namespace CommandLine

/-- Why a command line is not carried out. -/
inductive UsageFault where
  | unknownArgument
  | invalidValue
  /-- A value that does not have the form of a number -/
  | malformedValue
  | tooManyValues
  | argumentConflict
  | invalidSubcommand
  | missingSubcommand
  /-- Nothing was given -/
  | helpOnMissing
  /-- Help was asked for -/
  | help
  /-- The version was asked for -/
  | version
deriving DecidableEq

/-- How an option is given, and how often. -/
inductive OptionKind where
  /-- Without a value, once -/
  | flag
  /-- Without a value, any number of times -/
  | count
  /-- With a value, once -/
  | single
  /-- With a value, any number of times -/
  | many
  /-- Asks for help -/
  | help
  /-- Asks for the version -/
  | version
deriving DecidableEq

/-- An option with a value. -/
def OptionKind.takesValue : OptionKind → Bool
  | single | many => true
  | flag | count | help | version => false

/-- An option, or a plain argument, which has no letter and no word. -/
structure OptionSpec where
  /-- Its name -/
  name : String
  /-- The letter after one hyphen -/
  letter : Option Char := none
  /-- The word after two hyphens -/
  word : Option String := none
  /-- How it is given -/
  kind : OptionKind
  /-- What is wrong with a value -/
  check : String → Option UsageFault := fun _ => none
  /-- The variable of the environment that stands in for it -/
  environmentName : Option String := none

/-- A command. -/
structure CommandSpec where
  /-- Its options -/
  options : List OptionSpec
  /-- Its plain arguments; a `many` one is the last -/
  plain : List OptionSpec := []
  /-- The names of its subcommands -/
  subcommands : List String := []
  /-- The names of options of which one of each pair excludes the other -/
  exclusive : List (String × String) := []

/-- Where something given comes from, the weaker sources first. -/
inductive Source where
  | default
  | environment
  | arguments
deriving DecidableEq

/-- The strength of a source. -/
def Source.rank : Source → Nat
  | default => 0
  | environment => 1
  | arguments => 2

/-- What has been given for an option: its values, or one for each time. -/
structure Given where
  source : Source
  values : List String
deriving DecidableEq

/-- What has been given, by the names of the options. -/
abbrev Matches := List (String × Given)

/-- How often an option that counts is counted at most. -/
def countLimit : Nat := 255

/-- Takes the values of an option. -/
def take? (ms : Matches) (spec : OptionSpec) (source : Source) (values : List String) :
    Except UsageFault Matches := do
  let before := ms.lookup spec.name
  let others := ms.filter (·.1 != spec.name)
  if spec.kind.takesValue ∧ values.isEmpty then throw .invalidValue
  match spec.kind with
  | .help => throw .help
  | .version => throw .version
  | .flag | .single =>
    if before.isSome then throw .argumentConflict
    match values.findSome? spec.check with
    | some fault => throw fault
    | none => return (spec.name, ⟨source, values⟩) :: others
  | .many =>
    match values.findSome? spec.check with
    | some fault => throw fault
    | none =>
      let old := match before with
        | some g => g.values
        | none => []
      return (spec.name, ⟨source, old ++ values⟩) :: others
  | .count =>
    let old := match before with
      | some g => g.values
      | none => []
    return (spec.name, ⟨source, (old ++ [""]).take countLimit⟩) :: others

/-! ## Going through the arguments -/

/-- The state between two arguments. -/
structure MatchState where
  /-- What has been taken -/
  taken : Matches := []
  /-- An option or plain argument with values that are not taken yet -/
  held : Option (OptionSpec × List String) := none
  /-- The next argument is a value of the held option -/
  awaiting : Bool := false
  /-- Only plain arguments follow -/
  onlyPlain : Bool := false
  /-- The number of plain arguments that have all their values -/
  filled : Nat := 0

/-- Takes the values that are held back. -/
def MatchState.release? (s : MatchState) : Except UsageFault MatchState :=
  match s.held with
  | none => .ok s
  | some (spec, values) =>
    (take? s.taken spec .arguments values).map fun ms => { s with taken := ms, held := none }

/-- Takes an option with the values that are given with it. -/
def MatchState.option? (s : MatchState) (spec : OptionSpec) (values : List String) :
    Except UsageFault MatchState := do
  let s ← s.release?
  return { s with taken := ← take? s.taken spec .arguments values, awaiting := false }

/-- Holds an option back until its value is there. -/
def MatchState.await? (s : MatchState) (spec : OptionSpec) : Except UsageFault MatchState := do
  let s ← s.release?
  return { s with held := some (spec, []), awaiting := true }

namespace CommandSpec

/-- An option with an attached value, or with its value in the next argument. -/
def valueOption? (spec : OptionSpec) (attached : Option (List Char)) (s : MatchState) :
    Except UsageFault MatchState :=
  match attached with
  | some v => s.option? spec [String.ofList v]
  | none => s.await? spec

/-- The argument after two hyphens: a word, and perhaps `=` and a value. -/
def word? (c : CommandSpec) (arg : List Char) (s : MatchState) : Except UsageFault MatchState :=
  let word := String.ofList (arg.takeWhile (· != '='))
  let attached := match arg.dropWhile (· != '=') with
    | _ :: v => some v
    | [] => none
  match c.options.find? fun o => o.word == some word with
  | none => .error .unknownArgument
  | some spec =>
    if spec.kind.takesValue then valueOption? spec attached s
    else if attached.isSome then .error .tooManyValues
    else s.option? spec []

/-- The letters after one hyphen, the last of them perhaps with its value. -/
def letters? (c : CommandSpec) : List Char → MatchState → Except UsageFault MatchState
  | [], s => .ok s
  | x :: rest, s =>
    match c.options.find? fun o => o.letter == some x with
    | none => .error .unknownArgument
    | some spec =>
      if spec.kind.takesValue then
        match rest with
        | [] => valueOption? spec none s
        | '=' :: v => valueOption? spec (some v) s
        | v => valueOption? spec (some v) s
      else do
        let s ← s.option? spec []
        letters? c rest s

/-- A plain argument. -/
def plain? (c : CommandSpec) (arg : String) (s : MatchState) : Except UsageFault MatchState :=
  match c.plain[s.filled]? with
  | none =>
    if c.subcommands.isEmpty || (s.onlyPlain && c.subcommands.contains arg) then
      .error .unknownArgument
    else .error .invalidSubcommand
  | some spec =>
    if spec.kind = .many then
      match s.held with
      | some (held, values) =>
        if held.name = spec.name then .ok { s with held := some (spec, values ++ [arg]) }
        else (s.release?).map fun s => { s with held := some (spec, [arg]) }
      | none => .ok { s with held := some (spec, [arg]) }
    else
      (s.release?).map fun s =>
        { s with held := some (spec, [arg]), filled := s.filled + 1 }

/-- One argument. -/
def argument? (c : CommandSpec) (arg : String) (s : MatchState) : Except UsageFault MatchState :=
  if s.onlyPlain then c.plain? arg s
  else
    match arg.toList with
    | ['-', '-'] => .ok { s with onlyPlain := true }
    | '-' :: '-' :: rest => c.word? rest s
    | '-' :: x :: rest => c.letters? (x :: rest) s
    | _ =>
      match s.awaiting, s.held with
      | true, some (spec, values) =>
        .ok { s with held := some (spec, values ++ [arg]), awaiting := false }
      | _, _ => c.plain? arg s

/-- Goes through the arguments.  Yields the state at the end, or at the name of
    a subcommand with the arguments after it. -/
def arguments? (c : CommandSpec) : List String → MatchState →
    Except UsageFault (MatchState × Option (String × List String))
  | [], s => .ok (s, none)
  | arg :: rest, s =>
    if !s.onlyPlain && !s.awaiting && c.subcommands.contains arg then .ok (s, some (arg, rest))
    else do
      let s ← c.argument? arg s
      arguments? c rest s

/-- Fills in from the environment what was not given. -/
def fromEnvironment? (env : String → Option String) :
    List OptionSpec → Matches → Except UsageFault Matches
  | [], ms => .ok ms
  | spec :: specs, ms => do
    let value := if (ms.lookup spec.name).isSome then none else spec.environmentName.bind env
    match value with
    | some v => fromEnvironment? env specs (← take? ms spec .environment [v])
    | none => fromEnvironment? env specs ms

/-- The end of the arguments of a command: what is held back and what the
    environment has, and whether it all goes together. -/
def finish? (c : CommandSpec) (env : String → Option String) (hasSubcommand : Bool)
    (s : MatchState) : Except UsageFault Matches := do
  let s ← s.release?
  let ms ← fromEnvironment? env c.options s.taken
  if !c.subcommands.isEmpty && !hasSubcommand then
    throw (if ms.isEmpty then .helpOnMissing else .missingSubcommand)
  if c.exclusive.any fun e => (ms.lookup e.1).isSome && (ms.lookup e.2).isSome then
    throw .argumentConflict
  return ms

end CommandSpec

end CommandLine

end InfraEvidence
