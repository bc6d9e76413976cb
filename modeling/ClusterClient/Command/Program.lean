import ClusterClient.Client
import ClusterClient.Command.Document
import ClusterClient.Command.Invocation

/-!
# The program

`Program.run` is a run of the whole program: it reads the command line, makes a client and carries
out the command. The exit code is zero for success, one if the command fails, two if the command
line does not say what to do, and 101 if the program ends on the spot.
-/

namespace ClusterClient.Program

open Command

/-- What the program answers when asked for its version. -/
def versionText : String := programName ++ " 0.3.1\n"

/-- What a command leads to. -/
structure Result where
  printed : String := ""
  disk : Disk
  outcome : Except CommandError Unit := .ok ()

/-- What a command on documents leads to. -/
def documentResult (disk : Disk) : Except CommandError String → Result
  | .ok printed => { printed, disk }
  | .error error => { disk, outcome := .error error }

/-- What a load leads to: a summary, if it is asked for, and a failure if documents were not
indexed. -/
def loadResult (disk : Disk) (progress : Bool) : Except CommandError LoadSummary → Result
  | .ok summary =>
    { printed := if progress then summary.text else ""
      disk
      outcome := ensureAllIndexed summary.failed }
  | .error error => { disk, outcome := .error error }

/-- What an export leads to. -/
def exportResult (disk : Disk) : Except CommandError Exported → Result
  | .ok exported => { printed := exported.printed, disk := exported.disk }
  | .error error => { disk, outcome := .error error }

/-- The lines of a file, or of the standard input if no file is named. A directory can be opened,
but not even one line of it can be read. -/
def inputLines (disk : Disk) (standardInput : ByteArray) :
    Option String → Option (List (Option String))
  | none => some (Line.ofFile standardInput)
  | some path =>
    if disk.hasDirectory path then some [none]
    else (disk.read? path).map Line.ofFile

/-- Carries out a command; `bound` limits the number of pages of an export. -/
def perform (bound : Nat) (disk : Disk) (standardInput : ByteArray) : Task → Exchange Result
  | .get index docType id routing =>
    return documentResult disk (← Command.get index docType id routing)
  | .search index docType query routing =>
    return documentResult disk (← Command.search index docType query routing)
  | .index index docType body id routing =>
    return documentResult disk (← Command.index index docType id body routing)
  | .delete index docType id routing =>
    return documentResult disk (← Command.delete index docType id routing)
  | .bulk options input progress =>
    return loadResult disk progress (← load options (inputLines disk standardInput input))
  | .scroll options => return exportResult disk (← exportHits bound options disk)

/-- A run of the program. -/
structure Run where
  exitCode : Nat
  printed : String := ""
  error : Option CommandError := none
  disk : Disk
  client : Option Client := none

/-- The run that ends with an error. -/
def failed (disk : Disk) (error : CommandError) : Run :=
  { exitCode := error.exitCode, error, disk }

/-- The number of pages that suffices for any export: each page but the last takes one of the
outcomes that are planned. -/
def pageBound (client : Client) : Nat := client.transport.planned.length + 1

/-- Carries out an invocation. -/
def runInvocation (disk : Disk) (standardInput : ByteArray) (draws : Draws) (transport : Transport)
    (invocation : Invocation) : Run :=
  match invocation.globals.clientConfig disk with
  | .error error => failed disk error
  | .ok config =>
    match Client.connect disk config draws transport with
    | .error cause => failed disk (.uncreatedClient cause)
    | .ok client =>
      let work := perform (pageBound client) disk standardInput invocation.task
      let (result, client) := client.run work
      match result.outcome with
      | .ok () =>
        { exitCode := 0, printed := result.printed, disk := result.disk, client := some client }
      | .error error =>
        { exitCode := error.exitCode
          printed := result.printed
          error := some error
          disk := result.disk
          client := some client }

/-- Runs the program. -/
def run (environment : Environment) (arguments : List String) (disk : Disk)
    (standardInput : ByteArray) (draws : Draws) (transport : Transport) : Run :=
  match Invocation.ofArguments environment arguments with
  | .error .usage => { exitCode := 2, disk }
  | .error (.help command) =>
    { exitCode := 0, printed := helpText environment.assigned command, disk }
  | .error .version => { exitCode := 0, printed := versionText, disk }
  | .ok invocation => runInvocation disk standardInput draws transport invocation

end ClusterClient.Program
