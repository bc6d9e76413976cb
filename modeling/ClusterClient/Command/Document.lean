import ClusterClient.Command.CommandError
import ClusterClient.Documents
import ClusterClient.Json.Printer
import ClusterClient.Json.Reader

/-!
# Commands on documents

Fetching, searching, writing and deleting from the command line. A command prints the status of the
response and its body, and fails without printing if there is no response. What is to be sent must
be a JSON text, which is checked first.
-/

namespace ClusterClient.Command

/-- A response as it is printed: the status, then the body, over several lines if it is JSON, unless
it is empty. -/
def shown (response : Response) : String :=
  "HTTP " ++ toString response.status ++ "\n" ++
    match Json.parse? response.body with
    | some document => document.pretty ++ "\n"
    | none => if response.body.isEmpty then "" else response.body ++ "\n"

/-- What is printed for a reply, or the error that it causes. -/
def printed (failed : ClientError → CommandError) : Reply → Except CommandError String
  | .ok response => .ok (shown response)
  | .error error => .error (failed error)

/-- Goes on only with a body that is a JSON text. -/
def withJson (body : String) (work : Exchange (Except CommandError String)) :
    Exchange (Except CommandError String) :=
  if (Json.parse? body).isSome then work else .done (.error (.invalidBody body))

/-- Fetches a document. -/
def get (index docType id : String) (routing : Option String) :
    Exchange (Except CommandError String) := do
  return printed (.getFailed index docType id) (← Documents.get index docType id routing)

/-- Searches for documents. -/
def search (index docType : Option String) (query : String) (routing : Option String) :
    Exchange (Except CommandError String) :=
  withJson query do
    return printed .searchFailed (← Documents.search index docType query routing)

/-- Writes a document. -/
def index (index docType : String) (id : Option String) (body : String)
    (routing : Option String) : Exchange (Except CommandError String) :=
  withJson body do
    return printed (.indexFailed index docType) (← Documents.index index docType id body routing)

/-- Deletes a document. -/
def delete (index docType id : String) (routing : Option String) :
    Exchange (Except CommandError String) := do
  return printed (.deleteFailed index docType id) (← Documents.remove index docType id routing)

end ClusterClient.Command
