import ClusterClient.Bulk.Batch
import ClusterClient.Bulk.Reconciliation
import ClusterClient.Exchange

/-!
# Sending batches

`Batch.perform` sends a batch and counts the operations that failed: all of them if no node answered
or the answer is no success. An `Indexer` remembers the count of the last batch it sent.
-/

namespace ClusterClient.Bulk

/-- The number of failed operations of a batch, from the reply to its request. -/
def failuresOf (sent : Nat) : Reply → Nat
  | .error _ => sent
  | .ok response => if response.isSuccess then failures response.body sent else sent

/-- Sends a batch and counts its failed operations. Nothing is sent for an empty batch. -/
def Batch.perform (batch : Batch) : Exchange Nat :=
  if batch.isEmpty then .done 0
  else do
    let reply ← Exchange.call .post (batch.index ++ "/_bulk") batch.body
    let failed := failuresOf batch.size reply
    Exchange.count (.batch batch.size failed)
    return failed

/-- A sender of batches with the number of failed operations of its last batch. -/
structure Indexer where
  errorCount : Nat := 0
  deriving DecidableEq, Repr, Inhabited

/-- Sends a batch, counts its failed operations and remembers the count. -/
def Indexer.perform (_ : Indexer) (batch : Batch) : Exchange (Nat × Indexer) := do
  let failed ← batch.perform
  return (failed, ⟨failed⟩)

end ClusterClient.Bulk
