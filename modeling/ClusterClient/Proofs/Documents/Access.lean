import ClusterClient.Documents
import Mathlib.Tactic.SplitIfs

/-! # Access to documents

The requests for a document or a search, as data. Each of them looks first at the parts that its
address must have. The first one that is missing is named, and if none is missing there is a path,
the joined parts with the routing behind them (`ClusterClient.Documents.Access.path_eq`), to which
one call is sent (`ClusterClient.Documents.Access.work_eq`).
-/

namespace ClusterClient.Documents

/-- Only an empty part is missing. -/
theorem required_eq (part : AddressPart) (value : String) :
    required part value = if value = "" then .error (.missingPart part) else .ok value := by
  simp only [required, String.isEmpty_iff]

/-- The documents of a type have a path if index and type are given; the index comes first. -/
theorem typePath_eq (index docType : String) :
    typePath index docType =
      if index = "" then .error (.missingPart .index)
      else if docType = "" then .error (.missingPart .docType)
      else .ok (index ++ "/" ++ docType ++ "/") := by
  rw [typePath, required_eq, required_eq]
  split
  · rfl
  · split <;> rfl

/-- A document has a path if index, type and id are given, which are looked at in this order. -/
theorem path_eq (index docType id : String) (routing : Option String) :
    path index docType id routing =
      if index = "" then .error (.missingPart .index)
      else if docType = "" then .error (.missingPart .docType)
      else if id = "" then .error (.missingPart .id)
      else .ok (index ++ "/" ++ docType ++ "/" ++ id ++ routingQuery routing) := by
  rw [path, typePath_eq, required_eq]
  split
  · rfl
  · split
    · rfl
    · split <;> rfl

/-- A document with an id is written where it is found. -/
theorem targetPath_of_id {id : String} (named : id ≠ "") (index docType : String)
    (routing : Option String) :
    targetPath index docType (some id) routing = path index docType id routing := by
  simp only [targetPath, String.isEmpty_iff, if_neg named]

/-- A document without an id has a path if index and type are given, and ends it with a slash. -/
theorem newPath_eq (index docType : String) (routing : Option String) :
    targetPath.newPath index docType routing =
      if index = "" then .error (.missingPart .index)
      else if docType = "" then .error (.missingPart .docType)
      else .ok (index ++ "/" ++ docType ++ "/" ++ "" ++ routingQuery routing) := by
  rw [targetPath.newPath, typePath_eq, String.append_empty]
  split_ifs <;> rfl

/-- A document may be written without an id. -/
theorem targetPath_eq (index docType : String) (id routing : Option String) :
    targetPath index docType id routing =
      if index = "" then .error (.missingPart .index)
      else if docType = "" then .error (.missingPart .docType)
      else .ok (index ++ "/" ++ docType ++ "/" ++ id.getD "" ++ routingQuery routing) := by
  cases id with
  | none => exact newPath_eq index docType routing
  | some id =>
      by_cases unnamed : id = ""
      · subst unnamed
        exact newPath_eq index docType routing
      · rw [targetPath_of_id unnamed, path_eq, if_neg unnamed, Option.getD_some]

/-- The first of some parts that is empty. -/
def firstMissing? (parts : List (AddressPart × String)) : Option AddressPart :=
  (parts.find? fun part => part.2 = "").map (·.1)

/-- The first part that is missing is looked for from the front. -/
theorem firstMissing?_cons (part : AddressPart) (value : String)
    (parts : List (AddressPart × String)) :
    firstMissing? ((part, value) :: parts) =
      if value = "" then some part else firstMissing? parts := by
  rw [firstMissing?, List.find?_cons]
  by_cases missing : value = ""
  · rw [if_pos missing, decide_eq_true missing]
    rfl
  · rw [if_neg missing, decide_eq_false missing]
    rfl

/-- A request for a document or a search. -/
inductive Access where
  | search (index docType : Option String) (body : String) (routing : Option String)
  | get (index docType id : String) (routing : Option String)
  | write (index docType : String) (id : Option String) (body : String) (routing : Option String)
  | remove (index docType id : String) (routing : Option String)
  deriving DecidableEq, Repr

namespace Access

/-- What is done for a request. -/
def work : Access → Exchange Reply
  | .search index docType body routing => Documents.search index docType body routing
  | .get index docType id routing => Documents.get index docType id routing
  | .write index docType id body routing => Documents.index index docType id body routing
  | .remove index docType id routing => Documents.remove index docType id routing

/-- The method with which a request is sent. -/
def method : Access → Method
  | .search .. => .post
  | .get .. => .get
  | .write .. => .post
  | .remove .. => .delete

/-- What a request is sent with. -/
def body : Access → String
  | .search _ _ body _ => body
  | .get .. => ""
  | .write _ _ _ body _ => body
  | .remove .. => ""

/-- The routing value of a request. -/
def routing : Access → Option String
  | .search _ _ _ routing => routing
  | .get _ _ _ routing => routing
  | .write _ _ _ _ routing => routing
  | .remove _ _ _ routing => routing

/-- The same request with another routing value. -/
def withRouting (routing : Option String) : Access → Access
  | .search index docType body _ => .search index docType body routing
  | .get index docType id _ => .get index docType id routing
  | .write index docType id body _ => .write index docType id body routing
  | .remove index docType id _ => .remove index docType id routing

/-- The path to which a request is sent, unless a part is missing. -/
def path : Access → Except ClientError String
  | .search index docType _ routing => .ok (searchPath index docType routing)
  | .get index docType id routing => Documents.path index docType id routing
  | .write index docType id _ routing => targetPath index docType id routing
  | .remove index docType id routing => Documents.path index docType id routing

/-- The parts that must not be empty, in the order in which they are looked at. -/
def parts : Access → List (AddressPart × String)
  | .search .. => []
  | .get index docType id _ => [(.index, index), (.docType, docType), (.id, id)]
  | .write index docType .. => [(.index, index), (.docType, docType)]
  | .remove index docType id _ => [(.index, index), (.docType, docType), (.id, id)]

/-- The first part that is missing. -/
def missing? (access : Access) : Option AddressPart := firstMissing? access.parts

/-- The parts of the address, joined. -/
def place : Access → String
  | .search index docType _ _ => optionalPart index ++ optionalPart docType ++ "_search"
  | .get index docType id _ => index ++ "/" ++ docType ++ "/" ++ id
  | .write index docType id _ _ => index ++ "/" ++ docType ++ "/" ++ id.getD ""
  | .remove index docType id _ => index ++ "/" ++ docType ++ "/" ++ id

/-- One call is sent, unless a part is missing. -/
theorem work_eq (access : Access) :
    access.work = callAt access.method access.path access.body := by
  cases access <;> rfl

/-- **The path of a request.** -/
theorem path_eq (access : Access) : access.path =
    match access.missing? with
    | some part => .error (.missingPart part)
    | none => .ok (access.place ++ routingQuery access.routing) := by
  have none : firstMissing? [] = none := rfl
  cases access with
  | search index docType body routing => rfl
  | get index docType id routing | remove index docType id routing =>
      simp only [path, Documents.path_eq, missing?, parts, firstMissing?_cons, none]
      split_ifs <;> rfl
  | write index docType id body routing =>
      simp only [path, targetPath_eq, missing?, parts, firstMissing?_cons, none]
      split_ifs <;> rfl

@[simp] theorem missing?_withRouting (access : Access) (routing : Option String) :
    (access.withRouting routing).missing? = access.missing? := by
  cases access <;> rfl

@[simp] theorem place_withRouting (access : Access) (routing : Option String) :
    (access.withRouting routing).place = access.place := by
  cases access <;> rfl

@[simp] theorem routing_withRouting (access : Access) (routing : Option String) :
    (access.withRouting routing).routing = routing := by
  cases access <;> rfl

end Access
end ClusterClient.Documents
