import ClusterClient.Bulk.Operation
import ClusterClient.Json.Reader

/-!
# Reconciling a batch with its response

`failures` counts the operations of a batch that failed. If the response is no JSON object all of
them count as failed; if it says that there were no errors, none. Otherwise each item of the
response that does not report a success counts.
-/

namespace ClusterClient.Bulk

/-- Whether a status says that an operation succeeded: it is a number from 200 up to but not
including 300. -/
def isSuccessStatus (status : Json) : Bool :=
  match status.number? with
  | none => false
  | some number => number.toDouble.atLeast 200 && !number.toDouble.atLeast 300

/-- Whether an item reports the success of one operation: it is an object with exactly one action,
and the status of that action is a success. -/
def itemSucceeded (item : Json) : Bool :=
  match item.members? with
  | none => false
  | some members =>
    match members.filter fun member => (Action.ofName? member.1).isSome with
    | [(_, result)] => ((result.get? "status").map isSuccessStatus).getD false
    | _ => false

/-- The number of operations that a response reports as failed. -/
def reportedFailures (root : Members) : Nat :=
  match Keyed.get? "errors" root with
  | some (.bool false) => 0
  | _ =>
    match (Keyed.get? "items" root).bind Json.items? with
    | none => 0
    | some items => items.countP fun item => !itemSucceeded item

/-- The number of operations that failed, of the given number that was sent. -/
def failures (response : String) (sent : Nat) : Nat :=
  match (Json.parse? response).bind Json.members? with
  | none => sent
  | some root => reportedFailures root

end ClusterClient.Bulk
