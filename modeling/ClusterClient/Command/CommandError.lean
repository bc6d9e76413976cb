import ClusterClient.ClientError

/-!
# Errors of the commands

A command fails with an error of the client or with one of its own, which may have one of the client
as its cause. `CommandError.message` is the sentence that is shown. One failure is none that a
command returns: it ends the whole program on the spot (`CommandError.overflow`), which has an exit
code of its own.
-/

namespace ClusterClient

/-- Why a command fails. -/
inductive CommandError where
  /-- The client refuses or fails. -/
  | client (error : ClientError)
  | getFailed (index docType id : String) (cause : ClientError)
  | searchFailed (cause : ClientError)
  | indexFailed (index docType : String) (cause : ClientError)
  | deleteFailed (index docType id : String) (cause : ClientError)
  /-- A document or search on the command line is no JSON text. -/
  | invalidBody (body : String)
  /-- Batches of no operation are asked for. -/
  | zeroBatchSize
  /-- Batches are asked for that no memory can hold, and the program ends. -/
  | overflow
  | unopenedInput
  | unreadLine
  /-- A line of the input is no JSON text. -/
  | invalidLine (number : Nat) (line : String)
  | rejectedDocument (number : Nat) (cause : ClientError)
  /-- The search of an export is no JSON text. -/
  | invalidQuery
  | uncreatedOutput (path : String)
  /-- Some documents of a load were not indexed. -/
  | notIndexed (count : Nat)
  | unloadedConfig (path : String) (cause : ClientError)
  | uncreatedClient (cause : ClientError)
  deriving DecidableEq, Repr

namespace CommandError

/-- How many characters of a document are shown. -/
def previewLength : Nat := 100

/-- The first characters of a document. -/
def preview (text : String) : String := String.ofList (text.toList.take previewLength)

/-- The error of the client behind an error, if there is one. -/
def cause? : CommandError → Option ClientError
  | .getFailed _ _ _ cause => some cause
  | .searchFailed cause => some cause
  | .indexFailed _ _ cause => some cause
  | .deleteFailed _ _ _ cause => some cause
  | .rejectedDocument _ cause => some cause
  | .unloadedConfig _ cause => some cause
  | .uncreatedClient cause => some cause
  | _ => none

/-- An error in words. -/
def message : CommandError → String
  | .client error => error.message
  | .getFailed index docType id _ => "Failed to get " ++ index ++ "/" ++ docType ++ "/" ++ id
  | .searchFailed _ => "Search failed"
  | .indexFailed index docType _ =>
    "Failed to index document into " ++ index ++ "/" ++ docType
  | .deleteFailed index docType id _ =>
    "Failed to delete " ++ index ++ "/" ++ docType ++ "/" ++ id
  | .invalidBody body => "Body is not valid JSON: " ++ preview body
  | .zeroBatchSize => "--batch-size must be at least 1"
  | .overflow => "capacity overflow"
  | .unopenedInput => "Failed to open input"
  | .unreadLine => "Failed to read line"
  | .invalidLine number line =>
    "Failed to parse JSON on line " ++ toString number ++ ": " ++ preview line
  | .rejectedDocument number _ => "Rejected document on line " ++ toString number
  | .invalidQuery => "Query is not valid JSON"
  | .uncreatedOutput path => "Failed to create " ++ path
  | .notIndexed count => toString count ++ " documents failed to index"
  | .unloadedConfig path _ => "Failed to load config from " ++ path
  | .uncreatedClient _ =>
    "Failed to create client, pass --hosts, SEARCHLINK_HOSTS or --config"

/-- The first line of an error in words. -/
def firstLine (error : CommandError) : String :=
  let characters := error.message.toList
  let line := characters.takeWhile (· != '\n')
  if line.length < characters.length ∧ line.getLast? = some '\r' then String.ofList line.dropLast
  else String.ofList line

/-- The exit code of the program if a command fails. -/
def exitCode : CommandError → Nat
  | .overflow => 101
  | _ => 1

/-- What stands before the message of an error. -/
def heading : CommandError → String
  | .overflow => "thread 'main' panicked:\n"
  | _ => "Error: "

/-- An error in words, with the one behind it. -/
def report (error : CommandError) : String :=
  error.heading ++ error.message ++ "\n"
    ++ match error.cause? with
      | none => ""
      | some cause => "\nCaused by:\n    " ++ cause.message ++ "\n"

end CommandError
end ClusterClient
