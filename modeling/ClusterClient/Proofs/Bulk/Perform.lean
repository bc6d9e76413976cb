import ClusterClient.Bulk.Indexer
import ClusterClient.Proofs.Client.Log

/-! # Batches that are sent one after the other

A batch with operations is sent in one dispatch, and the number of its failed operations comes from
the reply alone. `performEach` sends one batch after the other.
-/

namespace ClusterClient.Bulk

/-- The request for a batch. -/
def Batch.call (batch : Batch) : Call := ⟨.post, batch.index ++ "/_bulk", batch.body⟩

/-- A batch with operations is one call, and what failed of it is counted from the reply. -/
theorem Batch.perform_eq {batch : Batch} (filled : batch.operations ≠ []) :
    batch.perform = .send batch.call fun reply =>
      .note (.batch batch.size (failuresOf batch.size reply))
        (.done (failuresOf batch.size reply)) := by
  have notEmpty : batch.isEmpty = false := by
    rw [← Bool.not_eq_true, Batch.isEmpty, List.isEmpty_iff]
    exact filled
  rw [perform, notEmpty]
  rfl

/-- Sends batches one after the other. The value lists how many operations of each batch failed. -/
def performEach : List Batch → Exchange (List Nat)
  | [] => .done []
  | batch :: rest => do
    let failed ← batch.perform
    let others ← performEach rest
    return failed :: others

/-- Of several batches the first one is sent before the others. -/
theorem performEach_cons {batch : Batch} (filled : batch.operations ≠ []) (rest : List Batch) :
    performEach (batch :: rest) = .send batch.call fun reply =>
      .note (.batch batch.size (failuresOf batch.size reply))
        (performEach rest >>= fun others => .done (failuresOf batch.size reply :: others)) := by
  rw [performEach, Batch.perform_eq filled]
  rfl

/-- The dispatches and counts of several batches are those of the first one, and those of the others
on a client behind it. -/
theorem log_performEach_cons {batch : Batch} (filled : batch.operations ≠ []) (rest : List Batch)
    (client : Client) :
    ∃ behind : Client,
      client.log (performEach (batch :: rest)) =
          ⟨batch.call, (client.dispatch batch.call).1⟩ :: behind.log (performEach rest) ∧
        (client.run (performEach (batch :: rest))).1 =
          failuresOf batch.size (client.dispatch batch.call).1 ::
            (behind.run (performEach rest)).1 := by
  rw [performEach_cons filled]
  refine ⟨(client.dispatch batch.call).2.record
    (.batch batch.size (failuresOf batch.size (client.dispatch batch.call).1)), ?_, ?_⟩
  · rw [Client.log, Client.log, Client.log_bind, Client.log, List.append_nil]
  · rw [Client.run_send, Client.run_note, Client.run_bind, Client.run_done]

/-- Each batch is one dispatch, and each count comes from the reply to it. -/
theorem performEach_sent {batches : List Batch} (filled : ∀ batch ∈ batches, batch.operations ≠ [])
    (client : Client) :
    (client.log (performEach batches)).map Dispatch.call = batches.map Batch.call ∧
      (client.run (performEach batches)).1 =
        List.zipWith (fun batch dispatch => failuresOf batch.size dispatch.reply) batches
          (client.log (performEach batches)) := by
  induction batches generalizing client with
  | nil => exact ⟨rfl, rfl⟩
  | cons batch rest ih =>
      obtain ⟨first, others⟩ := List.forall_mem_cons.mp filled
      obtain ⟨behind, log, counts⟩ := log_performEach_cons first rest client
      obtain ⟨calls, failed⟩ := ih others behind
      rw [log, counts, List.map_cons, List.map_cons, List.zipWith_cons_cons, calls, failed]
      exact ⟨rfl, rfl⟩

end ClusterClient.Bulk
