import ClusterClient.Command.Help
import ClusterClient.Config.Document
import ClusterClient.Config.Setting

/-!
# What a command line says

An `Invocation` is a command with its options and the settings of the client. The settings may stand
before or behind the name of the command, and two of them may come from the environment. What the
command line says wins over the environment and the environment over what holds otherwise; of two
places on the command line the one behind the command wins.
-/

namespace ClusterClient.Command

/-- The variables of the environment that are looked at. -/
structure Environment where
  hosts : Option String := none
  logFormat : Option String := none
  deriving DecidableEq, Repr, Inhabited

/-- The variables that are set. -/
def Environment.assigned (environment : Environment) : Assignments :=
  [(hostsVariable, environment.hosts), (logFormatVariable, environment.logFormat)].filterMap
    fun entry => entry.2.map fun value => (entry.1, value)

/-- The settings of the client. -/
structure Globals where
  hosts : List String
  config : Option String
  timeoutMs : Option Nat
  logFormat : LogFormat
  deriving DecidableEq, Repr

/-- A command with the settings of the client. -/
structure Invocation where
  task : Task
  globals : Globals
  deriving DecidableEq, Repr

/-- The parts of a text between commas. -/
def splitCommas (text : String) : List String :=
  go [] text.toList
where
  /-- The parts of the characters, the first of which starts with `seen`, held last first. -/
  go (seen : List Char) : List Char → List String
    | [] => [String.ofList seen.reverse]
    | c :: cs => if c = ',' then String.ofList seen.reverse :: go [] cs else go (c :: seen) cs

/-- Where a setting comes from, the weakest source first. -/
inductive Source where
  | otherwise
  | environment
  | commandLine
  deriving DecidableEq, Repr

/-- How strong a source is. -/
def Source.rank : Source → Nat
  | .otherwise => 0
  | .environment => 1
  | .commandLine => 2

/-- A setting with its source. -/
structure Sourced (α : Type) where
  source : Source
  value : α

/-- Of the settings of two levels the one from the stronger source, and of equally strong ones the
one behind the command. -/
def Sourced.merge {α : Type} (before behind : Sourced α) : Sourced α :=
  if behind.source.rank < before.source.rank then before else behind

/-- The settings that one level gives. -/
structure LevelGlobals where
  hosts : Sourced (List String)
  config : Sourced (Option String)
  timeoutMs : Sourced (Option Nat)
  logFormat : Sourced LogFormat

/-- The setting from the command line or the environment, or another one. -/
def sourced {α : Type} (given environment : Option α) (otherwise : α) : Sourced α :=
  match given, environment with
  | some value, _ => ⟨.commandLine, value⟩
  | none, some value => ⟨.environment, value⟩
  | none, none => ⟨.otherwise, otherwise⟩

/-- The log format of a level. The environment is looked at only if the level does not give one. -/
def levelLogFormat (environment : Environment) (scan : Scan) :
    Except Interruption (Sourced LogFormat) :=
  match (scan.value? "log-format").bind LogFormat.ofName?, environment.logFormat with
  | some format, _ => .ok ⟨.commandLine, format⟩
  | none, none => .ok ⟨.otherwise, .text⟩
  | none, some name =>
    match LogFormat.ofName? name with
    | none => .error .usage
    | some format => .ok ⟨.environment, format⟩

/-- The settings that a level gives. -/
def levelGlobals (environment : Environment) (scan : Scan) : Except Interruption LevelGlobals := do
  let logFormat ← levelLogFormat environment scan
  let hosts := (scan.valuesOf "hosts").flatMap splitCommas
  return {
    hosts := sourced (if hosts.isEmpty then none else some hosts)
      (environment.hosts.map splitCommas) []
    config := sourced ((scan.value? "config").map some) none none
    timeoutMs := sourced ((scan.value? "timeout-ms").map count?) none none
    logFormat }

/-- The settings of both levels. -/
def mergeGlobals (before behind : LevelGlobals) : Globals where
  hosts := (before.hosts.merge behind.hosts).value
  config := (before.config.merge behind.config).value
  timeoutMs := (before.timeoutMs.merge behind.timeoutMs).value
  logFormat := (before.logFormat.merge behind.logFormat).value

/-- What the command `help` leads to: it may be followed by the name of one command. -/
def helpOn : List String → Interruption
  | [] => .help none
  | [name] => if programLevel.hasCommand name then .help (some name) else .usage
  | _ => .usage

/-- What a level that is a command gives. -/
def readTask (environment : Environment) (name : String) (arguments : List String) :
    Except Interruption (Task × LevelGlobals) := do
  let level ← match taskLevel? name with
    | none => throw .usage
    | some level => pure level
  let (scan, _) ← (level.scan {} arguments).mapError (Interruption.behind name)
  let scan ← scan.settle
  let globals ← levelGlobals environment scan
  return (← scan.task name, globals)

/-- What a command line says. -/
def Invocation.ofArguments (environment : Environment) (arguments : List String) :
    Except Interruption Invocation := do
  let (scan, command) ← programLevel.scan {} arguments
  match command with
  | none => throw .usage
  | some (name, rest) =>
    if name = helpCommand.name then throw (helpOn rest)
    else
      let (task, behind) ← readTask environment name rest
      let before ← levelGlobals environment (← scan.settle)
      return { task, globals := mergeGlobals before behind }

/-- The configuration that the settings make up: that of a file, if one is named, with the nodes and
the time limit of the settings, if they give them. -/
def Globals.clientConfig (globals : Globals) (disk : Disk) : Except CommandError Config := do
  let config ← match globals.config with
    | none => pure { hosts := [] }
    | some path => (Config.load disk path).mapError (.unloadedConfig path)
  let config := if globals.hosts.isEmpty then config else { config with hosts := globals.hosts }
  match globals.timeoutMs with
  | none => return config
  | some limit => return config.set (.timeout (.ofMilliseconds limit))

end ClusterClient.Command
