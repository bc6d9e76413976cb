import ClusterClient.ClientError
import ClusterClient.Json.Printer

/-!
# Operations of a batch

An operation writes or deletes one document. In a batch it takes a control line, which is a JSON
object with the action and the address, and, unless it deletes, a line with the document itself.
-/

namespace ClusterClient.Bulk

/-- What an operation does to a document. -/
inductive Action where
  | index
  | create
  | update
  | delete
  deriving DecidableEq, Repr

namespace Action

/-- The word for an action. -/
def name : Action → String
  | .index => "index"
  | .create => "create"
  | .update => "update"
  | .delete => "delete"

/-- All actions. -/
def all : List Action := [.index, .create, .update, .delete]

/-- The action that a word stands for. -/
def ofName? (name : String) : Option Action := all.find? fun action => action.name == name

/-- Whether a document comes with the action. -/
def hasDocument : Action → Bool
  | .delete => false
  | _ => true

end Action

/-- One operation. An empty id leaves the choice of one to the cluster. -/
structure Operation where
  action : Action
  docType : String
  id : String
  document : Option String
  deriving DecidableEq, Repr

namespace Operation

/-- The characters of a control line. -/
def controlChars (action : Action) (docType id : String) : List Char :=
  let address := "\"_type\": ".toList ++ Json.quoted docType ++
    (if id.isEmpty then [] else ", \"_id\": ".toList ++ Json.quoted id)
  ['\x7b', '\x22'] ++ action.name.toList ++ ['\x22', ':', ' ', '\x7b'] ++ address
    ++ ['\x7d', '\x7d']

/-- The control line of an action on a document. -/
def controlLine (action : Action) (docType id : String) : String :=
  String.ofList (controlChars action docType id)

/-- The control line of an operation. -/
def control (operation : Operation) : String :=
  controlLine operation.action operation.docType operation.id

/-- Whether a text takes more than one line. -/
def hasLineBreak (text : String) : Bool := text.toList.any fun c => c == '\n' || c == '\r'

/-- An operation, if it fits into a batch: a document must stand on one line, and a delete must name
its document. The document of a delete is disregarded. -/
def make (action : Action) (docType id document : String) : Except ClientError Operation :=
  if action.hasDocument then
    if hasLineBreak document then .error (.lineBreakIn id)
    else .ok ⟨action, docType, id, some document⟩
  else if id.isEmpty then .error .deleteWithoutId
  else .ok ⟨action, docType, id, none⟩

/-- The lines of an operation. -/
def lines (operation : Operation) : List String :=
  operation.control :: operation.document.toList

end Operation
end ClusterClient.Bulk
