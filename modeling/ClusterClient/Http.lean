/-!
# Requests and responses

What is sent to a node and what comes back: a response, or a failure to get one. A request declares
its body as JSON exactly if it has one.
-/

namespace ClusterClient

/-- The method of a request. -/
inductive Method where
  | get
  | post
  | put
  | delete
  | head
  deriving DecidableEq, Repr

namespace Method

/-- The word for a method in a request. -/
def name : Method → String
  | .get => "GET"
  | .post => "POST"
  | .put => "PUT"
  | .delete => "DELETE"
  | .head => "HEAD"

/-- All methods. -/
def all : List Method := [.get, .post, .put, .delete, .head]

/-- The method that a word stands for. -/
def ofName? (name : String) : Option Method := all.find? fun method => method.name == name

end Method

/-- The letters of a name in lower case; only ASCII letters have one. -/
def lowerName (name : String) : String := String.ofList (name.toList.map Char.toLower)

/-- A request to one node. -/
structure Request where
  method : Method
  url : String
  headers : List (String × String)
  body : String
  deriving DecidableEq, Repr

namespace Request

/-- The declaration of a JSON body. -/
def jsonContent : String × String := ("Content-Type", "application/json; charset=utf-8")

/-- The request with a body, which may be empty. -/
def of (method : Method) (url body : String) : Request where
  method := method
  url := url
  headers := if body.isEmpty then [] else [jsonContent]
  body := body

/-- The value of the first header of a name, whatever its case. -/
def header? (request : Request) (name : String) : Option String :=
  (request.headers.find? fun header => lowerName header.1 == lowerName name).map (·.2)

end Request

/-- The answer of a node. Header names are kept as they were received. -/
structure Response where
  status : Nat
  headers : List (String × String) := []
  body : String
  deriving DecidableEq, Repr, Inhabited

namespace Response

/-- Whether the status says that the request succeeded. -/
def isSuccess (response : Response) : Bool :=
  decide (200 ≤ response.status ∧ response.status < 300)

/-- The value of a header whose name is the given one in lower case; of several the last. -/
def header? (response : Response) (name : String) : Option String :=
  (response.headers.reverse.find? fun header => header.1 == lowerName name).map (·.2)

end Response

/-- What comes of one request. -/
inductive Outcome where
  | answer (response : Response)
  | failure
  deriving DecidableEq, Repr, Inhabited

namespace Outcome

/-- The status of a node that is overloaded. -/
def unavailableStatus : Nat := 503

/-- The response, unless none arrived or the node is overloaded. -/
def accepted? : Outcome → Option Response
  | .answer response => if response.status = unavailableStatus then none else some response
  | .failure => none

end Outcome
end ClusterClient
