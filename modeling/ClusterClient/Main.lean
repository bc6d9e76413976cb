import ClusterClient.Command.Program
import ClusterClient.Transport

/-!
# The command line

The executable reads the files that a command names, runs the program on them, and prints and writes
what comes of it. What the cluster answers is read from a transcript, which the variable
`SEARCHLINK_TRANSCRIPT` names; without it no request gets a response.
-/

namespace ClusterClient.Main

open Command

/-- Everything that is left of a stream. -/
partial def readAll (input : IO.FS.Stream) (seen : ByteArray) : IO ByteArray := do
  let block ← input.read 65536
  if block.isEmpty then return seen else readAll input (seen ++ block)

/-- The disk with a directory, if there is one: a directory has an entry for itself. -/
def fetchDirectory (disk : Disk) (path : String) : IO Disk := do
  try
    IO.FS.withFile (path ++ "/.") .read fun _ => return disk.addDirectory path
  catch _ => return disk

/-- The disk with a file, if there is one that can be read, and the directories on the way to it. -/
def fetch (disk : Disk) (path : String) : IO Disk := do
  let disk ← (Disk.steps path).foldlM fetchDirectory disk
  try
    return disk.addFile path (← IO.FS.readBinFile path)
  catch _ => return disk

/-- The files and directories that an invocation names. -/
def fetchAll (invocation : Invocation) : IO Disk := do
  let disk ← invocation.globals.config.toList.foldlM fetch {}
  let named := match invocation.globals.clientConfig disk with
    | .ok config => config.files
    | .error _ => []
  let inputs := invocation.task.input?.toList
  let outputs := invocation.task.output?.toList
  let disk ← (named ++ inputs).foldlM fetch disk
  (outputs.flatMap Disk.steps).foldlM fetchDirectory disk

/-- What comes of the requests. -/
def readOutcomes : IO (List Outcome) := do
  match ← IO.getEnv "SEARCHLINK_TRANSCRIPT" with
  | none => return []
  | some path =>
    match Transcript.outcomes? (← IO.FS.readFile path) with
    | none => throw (.userError "the transcript is not understood")
    | some outcomes => return outcomes

/-- Writes what an invocation leaves in its output. -/
def store (invocation : Invocation) (disk : Disk) : IO Unit := do
  for path in invocation.task.output? do
    for content in disk.read? path do
      IO.FS.writeBinFile path content

/-- Runs the program and gives its exit code. -/
def execute (arguments : List String) : IO UInt32 := do
  let environment : Environment :=
    { hosts := ← IO.getEnv hostsVariable, logFormat := ← IO.getEnv logFormatVariable }
  let invocation? := (Invocation.ofArguments environment arguments).toOption
  let disk ← (invocation?.map fetchAll).getD (return {})
  let input ← if invocation?.any fun invocation => invocation.task.readsStandardInput then
      readAll (← IO.getStdin) .empty
    else pure .empty
  let draws := Draws.seeded (UInt64.ofNat (← IO.monoNanosNow))
  let run := Program.run environment arguments disk input draws { planned := ← readOutcomes }
  IO.print run.printed
  if let some invocation := invocation? then store invocation run.disk
  if let some error := run.error then IO.eprint error.report
  if run.exitCode = 2 then IO.eprint usageHint
  return UInt32.ofNat run.exitCode

end ClusterClient.Main

def main (arguments : List String) : IO UInt32 := ClusterClient.Main.execute arguments
