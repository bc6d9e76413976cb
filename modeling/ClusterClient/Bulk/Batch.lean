import ClusterClient.Bulk.Operation

/-!
# Batches

A batch collects operations on one index until it is full. Room for all of them is reserved when the
batch is made, which ends the program if there can be no block of memory of that size; whether a
machine has the memory for a smaller block is left out. `Batch.body` is the request for the
operations: their lines in order, each ended by a line feed.
-/

namespace ClusterClient.Bulk

/-- Operations on one index, to be sent together. -/
structure Batch where
  index : String
  /-- The number of operations from which on the batch is full. -/
  desiredSize : Nat
  operations : List Operation
  deriving DecidableEq, Repr

namespace Batch

/-- The size of a batch unless another one is given. -/
def defaultSize : Nat := 100

/-- The number of bytes that an operation takes up in memory. -/
def operationBytes : Nat := 48

/-- The number of bytes that a block of memory can have. -/
def blockBytes : Nat := 9223372036854775807

/-- The number of operations for which room can be reserved. -/
def maxSize : Nat := blockBytes / operationBytes

/-- Why a batch is not made. -/
inductive Unmade where
  /-- The batch is refused with an error. -/
  | refused (error : ClientError)
  /-- There is no room for the operations. This is no returned error: it ends the program. -/
  | overflow
  deriving DecidableEq, Repr

/-- An empty batch for an index, which must have a name. The room for its operations is reserved
behind the check of the name. -/
def create (index : String) (desiredSize : Nat) : Except Unmade Batch :=
  if index.isEmpty then .error (.refused .missingBulkIndex)
  else if maxSize < desiredSize then .error .overflow
  else .ok ⟨index, desiredSize, []⟩

/-- The number of operations. -/
def size (batch : Batch) : Nat := batch.operations.length

/-- Whether there are no operations. -/
def isEmpty (batch : Batch) : Bool := batch.operations.isEmpty

/-- Whether there are as many operations as desired. -/
def isFull (batch : Batch) : Bool := decide (batch.desiredSize ≤ batch.size)

/-- The batch with one operation more. -/
def push (batch : Batch) (operation : Operation) : Batch :=
  { batch with operations := batch.operations ++ [operation] }

/-- Adds an operation, if it fits into a batch. -/
def add (batch : Batch) (action : Action) (docType id document : String) :
    Except ClientError Batch :=
  (Operation.make action docType id document).map batch.push

/-- The batch without its operations. -/
def clear (batch : Batch) : Batch := { batch with operations := [] }

/-- The lines of the request. -/
def lines (batch : Batch) : List String := batch.operations.flatMap Operation.lines

/-- The body of the request. -/
def body (batch : Batch) : String :=
  String.ofList (batch.lines.flatMap fun line => line.toList ++ ['\n'])

end Batch
end ClusterClient.Bulk
