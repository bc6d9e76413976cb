/-!
# Arguments of a command line

A command line has levels: the options of the program come before the name of a command, those of
the command behind it. `Level.scan` reads one level. An option is written `--name value`,
`--name=value`, `-n value`, `-nvalue` or `-n=value`; a value that stands alone must not look like an
option. Behind `--` everything is a word. What is wrong or asked for is found from left to right,
except that the value that stands before the name of a command is looked at after the command.
-/

namespace ClusterClient.Command

/-- Why a command line does not say what to do. -/
inductive Interruption where
  /-- Something is wrong with it. -/
  | usage
  /-- It asks how the program or a command of it is used. -/
  | help (command : Option String)
  /-- It asks which version the program is. -/
  | version
  deriving DecidableEq, Repr

/-- What an interruption behind the name of a command is: help is asked for on that command. -/
def Interruption.behind (command : String) : Interruption → Interruption
  | .help none => .help (some command)
  | other => other

/-- What an option is for. -/
inductive OptionKind where
  /-- It has a value and is given at most once. -/
  | single
  /-- It has a value and may be given many times. -/
  | multiple
  /-- It has no value and is given at most once. -/
  | switch
  | help
  | version
  deriving DecidableEq, Repr

/-- Whether an option of a kind has a value. -/
def OptionKind.hasValue (kind : OptionKind) : Bool := kind == .single || kind == .multiple

/-- An option. -/
structure OptionSpec where
  name : String
  short : Option Char := none
  kind : OptionKind := .single
  /-- Which values it takes. -/
  accepts : String → Bool := fun _ => true
  /-- Whether it must be given. -/
  required : Bool := false
  /-- What it says, in words. -/
  about : String
  /-- The variable of the environment that it is taken from if it is not given. -/
  setBy : Option String := none
  /-- The value that it has otherwise. -/
  otherwise : Option String := none
  /-- The values to choose from, if they are few. -/
  choices : List String := []

/-- What stands in one place of a command line: a word or the name of a command, and what it
says. -/
structure Place where
  name : String
  about : String := ""
  deriving DecidableEq, Repr

/-- One level of a command line. -/
structure Level where
  /-- What it is for, in words. -/
  about : String
  options : List OptionSpec
  /-- The words, all of which must be there. -/
  words : List Place := []
  /-- The commands that may follow. -/
  commands : List Place := []

/-- What was read of a level. -/
structure Scan where
  /-- The options with their values, in order. -/
  values : List (String × String) := []
  words : List String := []
  /-- The last option, if its value has not been looked at, and the value, if it has been read. -/
  pending : Option (OptionSpec × Option String) := none

namespace Scan

/-- All values of an option. -/
def valuesOf (scan : Scan) (name : String) : List String :=
  scan.values.filterMap fun entry => if entry.1 = name then some entry.2 else none

/-- The value of an option. -/
def value? (scan : Scan) (name : String) : Option String := (scan.valuesOf name).head?

/-- Whether an option was given. -/
def has (scan : Scan) (name : String) : Bool := scan.values.any fun entry => entry.1 == name

/-- Takes an option with its value. -/
def take (scan : Scan) (option : OptionSpec) (value : String) : Except Interruption Scan :=
  if (option.kind != .multiple && scan.has option.name) || !option.accepts value then
    .error .usage
  else .ok { scan with values := scan.values ++ [(option.name, value)], pending := none }

/-- Takes the last option, if it has not been looked at. -/
def settle (scan : Scan) : Except Interruption Scan :=
  match scan.pending with
  | none => .ok scan
  | some (_, none) => .error .usage
  | some (option, some value) => scan.take option value

/-- Reads an option, to which a value may be attached. -/
def readOption (scan : Scan) (option : OptionSpec) (attached : Option String) :
    Except Interruption Scan :=
  match option.kind, attached with
  | .help, none => scan.settle.bind fun _ => .error (.help none)
  | .version, none => scan.settle.bind fun _ => .error .version
  | .switch, none => scan.settle.bind fun scan => scan.take option ""
  | .single, none => scan.settle.map fun scan => { scan with pending := some (option, none) }
  | .multiple, none => scan.settle.map fun scan => { scan with pending := some (option, none) }
  | .single, some value => scan.settle.bind fun scan => scan.take option value
  | .multiple, some value => scan.settle.bind fun scan => scan.take option value
  | _, some _ => .error .usage

/-- Whether the value of the last option is still to come. -/
def awaitsValue (scan : Scan) : Bool :=
  match scan.pending with
  | some (_, none) => true
  | _ => false

end Scan

namespace Level

/-- Whether a command of the name may follow. -/
def hasCommand (level : Level) (name : String) : Bool :=
  level.commands.any fun command => command.name == name

/-- The option of a long name. -/
def long? (level : Level) (name : String) : Option OptionSpec :=
  level.options.find? fun option => option.name == name

/-- The option of a letter. -/
def short? (level : Level) (letter : Char) : Option OptionSpec :=
  level.options.find? fun option => option.short == some letter

/-- Reads an option that is written with its name; an equals sign attaches the value. -/
def readLong (level : Level) (scan : Scan) (text : List Char) : Except Interruption Scan :=
  let name := text.takeWhile (· != '=')
  match level.long? (String.ofList name) with
  | none => .error .usage
  | some option =>
    match text.drop name.length with
    | [] => scan.readOption option none
    | _ :: value => scan.readOption option (some (String.ofList value))

/-- Reads options that are written with their letters. The rest behind the letter of an option with
a value is the value, which an equals sign may precede. -/
def readShort (level : Level) (scan : Scan) : List Char → Except Interruption Scan
  | [] => .ok scan
  | letter :: rest =>
    match level.short? letter with
    | none => .error .usage
    | some option =>
      if option.kind.hasValue then
        match rest with
        | [] => scan.readOption option none
        | '=' :: value => scan.readOption option (some (String.ofList value))
        | value => scan.readOption option (some (String.ofList value))
      else (scan.readOption option none).bind fun scan => readShort level scan rest

/-- Reads a word, if there may be another one. -/
def readWord (level : Level) (scan : Scan) (word : String) : Except Interruption Scan :=
  scan.settle.bind fun scan =>
    if scan.words.length < level.words.length then .ok { scan with words := scan.words ++ [word] }
    else .error .usage

/-- Reads an argument that is no command and does not end the options. -/
def readArgument (level : Level) (scan : Scan) (argument : String) : Except Interruption Scan :=
  match argument.toList with
  | '-' :: '-' :: text => level.readLong scan text
  | '-' :: letter :: rest => level.readShort scan (letter :: rest)
  | _ =>
    match scan.pending with
    | some (option, none) => .ok { scan with pending := some (option, some argument) }
    | _ => level.readWord scan argument

/-- Reads words to the end. -/
def readWords (level : Level) : Scan → List String → Except Interruption Scan
  | scan, [] => .ok scan
  | scan, word :: rest => (level.readWord scan word).bind fun scan => readWords level scan rest

/-- Reads a level: what was read, and the name of a command with what follows it. -/
def scan (level : Level) :
    Scan → List String → Except Interruption (Scan × Option (String × List String))
  | held, [] => .ok (held, none)
  | held, argument :: rest =>
    if !held.awaitsValue && level.hasCommand argument then
      .ok (held, some (argument, rest))
    else if argument = "--" then (level.readWords held rest).map fun held => (held, none)
    else (level.readArgument held argument).bind fun held => scan level held rest

end Level
end ClusterClient.Command
