import ClusterClient.Proofs.Bulk.Perform

/-! # How many operations are said to have failed

The number of failed operations of a batch comes from one reply. It is the size of the batch at most
unless the reply is a success with more items than were sent that report no success
(`ClusterClient.Bulk.failuresOf_le_iff`): the items are counted whatever their number.
-/

namespace ClusterClient.Bulk

/-- Whether a reply to the given number of operations reports more failures than that. The reply is
a success and its body an object that does not say that there were no errors, and of its items more
than were sent report no success. -/
def Overcounts (sent : Nat) (reply : Reply) : Prop :=
  ∃ response root items, reply = .ok response ∧ response.isSuccess = true ∧
    Json.parse? response.body = some (.object root) ∧
    Keyed.get? "errors" root ≠ some (.bool false) ∧
    Keyed.get? "items" root = some (.array items) ∧
    sent < items.countP fun item => !itemSucceeded item

theorem items?_eq_some {document : Json} {items : List Json}
    (listed : document.items? = some items) : document = .array items := by
  cases document with
  | array given => exact congrArg Json.array (Option.some.inj listed)
  | _ => cases listed

theorem members?_eq_some {document : Json} {root : Members}
    (kept : document.members? = some root) : document = .object root := by
  cases document with
  | object given => exact congrArg Json.object (Option.some.inj kept)
  | _ => cases kept

/-- An object that does not deny errors has its items counted. -/
theorem reportedFailures_eq {root : Members} {items : List Json}
    (errors : Keyed.get? "errors" root ≠ some (.bool false))
    (listed : Keyed.get? "items" root = some (.array items)) :
    reportedFailures root = items.countP fun item => !itemSucceeded item := by
  unfold reportedFailures
  split
  · rename_i fine
    exact absurd fine errors
  · rw [listed]
    rfl

/-- Without an array of items, or with the word that there were no errors, nothing is counted. -/
theorem reportedFailures_cases (root : Members) :
    reportedFailures root = 0 ∨
      ∃ items, Keyed.get? "errors" root ≠ some (.bool false) ∧
        Keyed.get? "items" root = some (.array items) := by
  unfold reportedFailures
  split
  · exact .inl rfl
  · rename_i errors
    cases listed : (Keyed.get? "items" root).bind Json.items? with
    | none => exact .inl rfl
    | some items =>
        obtain ⟨document, found, isArray⟩ := Option.bind_eq_some_iff.mp listed
        rw [items?_eq_some isArray] at found
        exact .inr ⟨items, errors, found⟩

/-- **When a count is right.** No more operations are said to have failed than were sent, except by
a reply that reports more. -/
theorem failuresOf_le_iff (sent : Nat) (reply : Reply) :
    failuresOf sent reply ≤ sent ↔ ¬ Overcounts sent reply := by
  constructor
  · rintro bounded ⟨response, root, items, rfl, success, parsed, errors, listed, more⟩
    rw [failuresOf, if_pos success, failures, parsed, Option.bind_some, Json.members?] at bounded
    simp only [reportedFailures_eq errors listed] at bounded
    omega
  · intro right
    cases reply with
    | error error => exact Nat.le_refl sent
    | ok response =>
        rw [failuresOf]
        by_cases success : response.isSuccess = true
        · rw [if_pos success, failures]
          cases parsed : (Json.parse? response.body).bind Json.members? with
          | none => exact Nat.le_refl sent
          | some root =>
              obtain ⟨document, read, isObject⟩ := Option.bind_eq_some_iff.mp parsed
              rw [members?_eq_some isObject] at read
              rcases reportedFailures_cases root with nothing | ⟨items, errors, listed⟩
              · exact nothing.trans_le (Nat.zero_le sent)
              · by_contra more
                have above : sent < reportedFailures root := Nat.lt_of_not_le more
                rw [reportedFailures_eq errors listed] at above
                exact right ⟨response, root, items, rfl, success, read, errors, listed, above⟩
        · rw [if_neg success]

namespace Batch

/-- **What a performed batch counts.** It makes one dispatch, and the count is at most the number of
operations exactly if the reply does not report more failures. -/
theorem perform_le_iff (client : Client) (batch : Batch) (filled : batch.operations ≠ []) :
    ∃ reply, client.log batch.perform = [⟨batch.call, reply⟩] ∧
      (client.run batch.perform).1 = failuresOf batch.size reply ∧
      ((client.run batch.perform).1 ≤ batch.size ↔ ¬ Overcounts batch.size reply) := by
  rw [perform_eq filled]
  refine ⟨(client.dispatch batch.call).1, rfl, rfl, ?_⟩
  exact failuresOf_le_iff batch.size (client.dispatch batch.call).1

/-- A batch of one operation. -/
def lone : Batch := ⟨"idx", 1, [⟨.index, "_doc", "1", some "\x7b\x7d"⟩]⟩

/-- An answer with two items that report no success. -/
def surplus : Response :=
  { status := 200, body := "\x7b\"errors\":true,\"items\":[\x7b\x7d,\x7b\x7d]\x7d" }

/-- A batch of one operation, answered with two items that failed. -/
theorem perform_le_iff_surplus :
    lone.operations ≠ [] ∧
      ∃ reply, (Client.oneNode [.answer surplus]).log lone.perform = [⟨lone.call, reply⟩] ∧
        ((Client.oneNode [.answer surplus]).run lone.perform).1 = failuresOf lone.size reply ∧
        (((Client.oneNode [.answer surplus]).run lone.perform).1 ≤ lone.size ↔
          ¬ Overcounts lone.size reply) :=
  ⟨List.cons_ne_nil _ _,
    perform_le_iff (Client.oneNode [.answer surplus]) lone (List.cons_ne_nil _ _)⟩

/-- **A count can be larger than the batch.** Of one operation two are said to have failed. -/
theorem perform_exceeds_size :
    ¬ ∀ (client : Client) (batch : Batch), batch.operations ≠ [] →
      (client.run batch.perform).1 ≤ batch.size := by
  intro bounded
  have counted : ((Client.oneNode [.answer surplus]).run lone.perform).1 = 2 := by decide
  have one := bounded (Client.oneNode [.answer surplus]) lone (List.cons_ne_nil _ _)
  rw [counted] at one
  exact absurd one (by decide)

end Batch
end ClusterClient.Bulk
