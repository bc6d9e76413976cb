import ClusterClient.Command.Task
import ClusterClient.Json.Printer
import ClusterClient.Text.Terminal

/-!
# Help

The text that tells how the program or a command of it is used: what it is for, how it is written,
and then its commands, words and options, a line for each, with what they say in one column.
-/

namespace ClusterClient.Command

/-- The variables of the environment that are set, with their values. -/
abbrev Assignments := List (String × String)

/-- The name that stands for a value. -/
def valueName (name : String) : String :=
  String.ofList (name.toList.map fun c => if c = '-' then '_' else c.toUpper)

/-- A text with blanks behind it up to a width. -/
def padded (width : Nat) (text : String) : String :=
  text ++ String.ofList (List.replicate (width - text.length) ' ')

/-- The greatest length of the texts. -/
def widest (texts : List String) : Nat := (texts.map String.length).foldl max 0

namespace Place

/-- How a word is written. -/
def form (place : Place) : String := "<" ++ valueName place.name ++ ">"

end Place

namespace OptionSpec

/-- How an option is written with its name. -/
def form (option : OptionSpec) : String :=
  "--" ++ option.name
    ++ if option.kind.hasValue then " <" ++ valueName option.name ++ ">" else ""

/-- The letter of an option, or the room for one. -/
def letterForm (option : OptionSpec) : String :=
  match option.short with
  | some letter => "-" ++ String.singleton letter ++ ", "
  | none => "    "

/-- A value as it is shown: a text with blanks in it stands in quotes. -/
def shownValue (value : String) : String :=
  if value.toList.any (· == ' ') then (Json.text value).compact else value

/-- Where the value of an option comes from if it is not given, and what it may be. -/
def notes (assigned : Assignments) (option : OptionSpec) : List String :=
  (option.setBy.map fun name =>
      "[env: " ++ name ++ "=" ++ ((assigned.lookup name).getD "") ++ "]").toList
    ++ (option.otherwise.map fun value => "[default: " ++ shownValue value ++ "]").toList
    ++ if option.choices.isEmpty then []
      else ["[possible values: " ++ ", ".intercalate option.choices ++ "]"]

end OptionSpec

namespace Level

/-- How a level is written behind the name of the program. -/
def usage (level : Level) (name : String) : String :=
  let required := level.options.filter (·.required)
  " ".intercalate
    ([name, "[OPTIONS]"] ++ required.map OptionSpec.form ++ level.words.map Place.form
      ++ if level.commands.isEmpty then [] else ["<COMMAND>"])

/-- The lines of a part with a heading, and a blank line in front, unless there are no lines. -/
def part (heading : String) : List String → List String
  | [] => []
  | lines => ["", heading ++ ":"] ++ lines

/-- A text whose further lines start in the given column. -/
def indented (column : Nat) (text : String) : String :=
  String.ofList <| text.toList.flatMap fun c =>
    if c = '\n' then c :: List.replicate column ' ' else [c]

/-- The text that tells how a level is used. What an option says starts eight columns behind its
form: two blanks, its letter or room for one, and two blanks behind it. -/
def help (level : Level) (assigned : Assignments) (name : String) : String :=
  let commandWidth := widest (level.commands.map Place.name)
  let wordWidth := widest (level.words.map Place.form)
  let optionWidth := widest (level.options.map OptionSpec.form)
  let lines :=
    [level.about, "", "Usage: " ++ level.usage name]
      ++ part "Commands" (level.commands.map fun command =>
        "  " ++ padded commandWidth command.name ++ "  " ++ command.about)
      ++ part "Arguments" (level.words.map fun word =>
        "  " ++ padded wordWidth word.form ++ "  " ++ word.about)
      ++ part "Options" (level.options.map fun option =>
        "  " ++ option.letterForm ++ padded optionWidth option.form ++ "  "
          ++ indented (optionWidth + 8) (" ".intercalate (option.about :: option.notes assigned)))
  String.join (lines.map (· ++ "\n"))

end Level

/-- The name of the program. -/
def programName : String := "searchlink"

/-- The text that tells how help is asked for. -/
def helpOnHelp : String :=
  helpCommand.about ++ "\n\nUsage: " ++ programName
    ++ " help [COMMAND]...\n\nArguments:\n  [COMMAND]...  Print help for the subcommand(s)\n"

/-- What is said if a command line is wrong. -/
def usageHint : String :=
  "error: the command line is not understood\n\nUsage: " ++ programLevel.usage programName
    ++ "\n\nFor more information, try '--help'.\n"

/-- The text that tells how the program, or a command of it, is used. Values of the environment
cannot steer the terminal that it is printed on. -/
def helpText (assigned : Assignments) (command : Option String) : String :=
  Terminal.visible <|
    match command with
    | none => programLevel.help assigned programName
    | some name =>
      match taskLevel? name with
      | some level => level.help assigned (programName ++ " " ++ name)
      | none => helpOnHelp

end ClusterClient.Command
