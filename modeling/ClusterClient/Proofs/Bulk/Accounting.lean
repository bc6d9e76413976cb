import ClusterClient.Proofs.Bulk.Perform
import ClusterClient.Proofs.Users

/-! # The counts of the senders of batches

Senders of batches share a client with each other and with sessions. Along every run of operations,
the count that a sender remembers is that of its own last batch, zero before its first one: neither
a sum of counts nor the count of another sender. A batch without operations is not sent; every other
one is one dispatch, and its count comes from the reply
(`ClusterClient.Users.performAll_accounted`).
-/

namespace ClusterClient.Users

open Scroll Bulk

/-- An operation, with the users and the client as they are before it. -/
structure Turn where
  step : Step
  users : Users
  client : Client

namespace Turn

/-- The dispatches of the operation. -/
def dispatches (turn : Turn) : List Dispatch := turn.client.log (turn.users.perform turn.step)

/-- What the operation gives back. -/
def answer (turn : Turn) : Answer := (turn.client.run (turn.users.perform turn.step)).1.1

/-- The users behind the operation. -/
def usersAfter (turn : Turn) : Users := (turn.client.run (turn.users.perform turn.step)).1.2

/-- The client behind the operation. -/
def clientAfter (turn : Turn) : Client := (turn.client.run (turn.users.perform turn.step)).2

/-- The count that the operation gives to a sender, if it sends a batch of this sender. -/
def count? (user : Nat) (turn : Turn) : Option Nat :=
  match turn.step, turn.answer with
  | .bulk sender _, .failed count => if sender = user then some count else none
  | _, _ => none

end Turn

/-- The operations of a run at their turns. -/
def turns (users : Users) (client : Client) : List Step → List Turn
  | [] => []
  | step :: steps =>
    let turn : Turn := ⟨step, users, client⟩
    turn :: turns turn.usersAfter turn.clientAfter steps

/-- The count of the last batch of a sender, zero before its first one. -/
def lastCount (user : Nat) (turns : List Turn) : Nat :=
  ((turns.filterMap (Turn.count? user)).getLast?).getD 0

/-- The first turn is had on the client and among the users as they are, and the others behind it.
-/
theorem turns_cons (users : Users) (client : Client) (step : Step) (steps : List Step) :
    users.turns client (step :: steps) =
      ⟨step, users, client⟩ ::
        (Turn.usersAfter ⟨step, users, client⟩).turns (Turn.clientAfter ⟨step, users, client⟩)
          steps :=
  rfl

/-- The turns are had in the order of the steps. -/
theorem turns_step (steps : List Step) (users : Users) (client : Client) :
    (users.turns client steps).map Turn.step = steps := by
  induction steps generalizing users client with
  | nil => rfl
  | cons step steps ih => rw [turns_cons, List.map_cons, ih]

/-- A run gives what its turns give, and its dispatches are those of its turns. -/
theorem performAll_turns (steps : List Step) (users : Users) (client : Client) :
    (client.run (users.performAll steps)).1 =
        (users.turns client steps).map (fun turn => (turn.answer, turn.usersAfter)) ∧
      client.log (users.performAll steps) = (users.turns client steps).flatMap Turn.dispatches := by
  induction steps generalizing users client with
  | nil => exact ⟨rfl, rfl⟩
  | cons step steps ih =>
      obtain ⟨answers, dispatches⟩ :=
        ih (Turn.usersAfter ⟨step, users, client⟩) (Turn.clientAfter ⟨step, users, client⟩)
      rw [turns_cons, List.map_cons, List.flatMap_cons, ← answers, ← dispatches, performAll]
      constructor
      · rw [Client.run_bind, Client.run_bind]
        rfl
      · rw [Client.log_bind]
        exact congrArg (List.append _) ((Client.log_bind _ _ _).trans (List.append_nil _))

/-- A batch without operations is not sent, and its sender remembers that none failed. -/
theorem perform_bulk_nothing (users : Users) (user : Nat) {batch : Batch}
    (none : batch.operations = []) :
    users.perform (.bulk user batch) = .done (.failed 0, users.setIndexer user ⟨0⟩) := by
  have empty : batch.isEmpty = true := by rw [Batch.isEmpty, none, List.isEmpty_nil]
  rw [perform, Indexer.perform, Batch.perform, if_pos empty]
  rfl

/-- Any other batch takes one call. The failures that its reply tells are counted, answered and
remembered. -/
theorem perform_bulk_sent (users : Users) (user : Nat) {batch : Batch}
    (filled : batch.operations ≠ []) :
    users.perform (.bulk user batch) = .send batch.call fun reply =>
      .note (.batch batch.size (failuresOf batch.size reply))
        (.done (.failed (failuresOf batch.size reply),
          users.setIndexer user ⟨failuresOf batch.size reply⟩)) := by
  rw [perform, Indexer.perform, Batch.perform_eq filled]
  rfl

/-- What is done with a session leaves the senders as they are. -/
theorem withSession_indexers (users : Users) (user : Nat)
    (work : Session → Exchange (Answer × Option Session)) (client : Client) :
    (client.run (users.withSession user work)).1.2.indexers = users.indexers := by
  unfold withSession
  cases users.sessions user with
  | none => rfl
  | some session =>
      rw [Client.run_bind]
      rfl

/-- **One turn.** A sender remembers the count that the turn gives to it, or the one before. -/
theorem Turn.errorCount_after (turn : Turn) (user : Nat) :
    (turn.usersAfter.indexers user).errorCount =
      (turn.count? user).getD (turn.users.indexers user).errorCount := by
  obtain ⟨step, users, client⟩ := turn
  cases step with
  | bulk sender batch =>
      by_cases none : batch.operations = []
      · simp only [usersAfter, count?, answer, perform_bulk_nothing users sender none,
          Client.run_done, setIndexer]
        by_cases own : sender = user
        · rw [own, if_pos rfl, Function.update_self, Option.getD_some]
        · rw [if_neg own, Function.update_of_ne (Ne.symm own), Option.getD_none]
      · simp only [usersAfter, count?, answer, perform_bulk_sent users sender none,
          Client.run_send, Client.run_note, Client.run_done, setIndexer]
        by_cases own : sender = user
        · rw [own, if_pos rfl, Function.update_self, Option.getD_some]
        · rw [if_neg own, Function.update_of_ne (Ne.symm own), Option.getD_none]
  | init other search => rw [usersAfter, perform, withSession_indexers]; rfl
  | next other => rw [usersAfter, perform, withSession_indexers]; rfl
  | clear other => rw [usersAfter, perform, withSession_indexers]; rfl
  | drop other locked => rw [usersAfter, perform, withSession_indexers]; rfl
  | request call => rfl
  | search index docType body routing => rw [usersAfter, perform, Client.run_bind]; rfl
  | get index docType id routing => rw [usersAfter, perform, Client.run_bind]; rfl
  | index index docType id body routing => rw [usersAfter, perform, Client.run_bind]; rfl
  | remove index docType id routing => rw [usersAfter, perform, Client.run_bind]; rfl

/-- Before each turn a sender remembers the count of its last batch, or the one before the run. -/
theorem errorCount_before (user : Nat) {before later : List Turn} {turn : Turn} {steps : List Step}
    {users : Users} {client : Client} (split : users.turns client steps = before ++ turn :: later) :
    (turn.users.indexers user).errorCount =
      ((before.filterMap (Turn.count? user)).getLast?).getD
        (users.indexers user).errorCount := by
  induction before generalizing steps users client with
  | nil =>
      cases steps with
      | nil => cases split
      | cons step steps =>
          obtain ⟨rfl, _⟩ := List.cons.inj split
          rfl
  | cons first before ih =>
      cases steps with
      | nil => cases split
      | cons step steps =>
          obtain ⟨rfl, rest⟩ := List.cons.inj split
          rw [ih rest, Turn.errorCount_after, List.filterMap_cons]
          cases Turn.count? user ⟨step, users, client⟩ with
          | none => rfl
          | some count => rw [List.getLast?_cons]; rfl

/-- What holds of the batches in a run of operations: what the run gives and dispatches, turn by
turn, what each batch sends and counts, and which count each sender remembers. -/
structure Accounted (users : Users) (client : Client) (steps : List Step) : Prop where
  order : (users.turns client steps).map Turn.step = steps
  answers : (client.run (users.performAll steps)).1 =
    (users.turns client steps).map fun turn => (turn.answer, turn.usersAfter)
  dispatches : client.log (users.performAll steps) =
    (users.turns client steps).flatMap Turn.dispatches
  nothing : ∀ turn ∈ users.turns client steps, ∀ user batch, turn.step = .bulk user batch →
    batch.operations = [] →
      turn.dispatches = [] ∧ turn.clientAfter = turn.client ∧ turn.answer = .failed 0 ∧
        (turn.usersAfter.indexers user).errorCount = 0
  sent : ∀ turn ∈ users.turns client steps, ∀ user batch, turn.step = .bulk user batch →
    batch.operations ≠ [] → ∃ reply count,
      turn.dispatches = [⟨⟨.post, batch.index ++ "/_bulk", batch.body⟩, reply⟩] ∧
        turn.answer = .failed count ∧ (turn.usersAfter.indexers user).errorCount = count ∧
        match reply with
        | .error _ => count = batch.operations.length
        | .ok response => count =
            if 200 ≤ response.status ∧ response.status < 300 then
              failures response.body batch.operations.length
            else batch.operations.length
  remembered : ∀ before turn later, users.turns client steps = before ++ turn :: later →
    ∀ user, (turn.users.indexers user).errorCount = lastCount user before ∧
      (turn.usersAfter.indexers user).errorCount = lastCount user (before ++ [turn])

/-- **Every sender counts for itself.** In a run of any operations on one client, whose senders have
sent nothing before, each batch is counted from its own reply, and each sender remembers the count
of its own last batch. -/
theorem performAll_accounted (sessions : Nat → Option Session) (client : Client)
    (steps : List Step) :
    Accounted { sessions, indexers := fun _ => {} } client steps := by
  obtain ⟨answers, dispatches⟩ :=
    performAll_turns steps { sessions, indexers := fun _ => {} } client
  refine
    { order := turns_step steps _ client
      answers := answers
      dispatches := dispatches
      nothing := ?_
      sent := ?_
      remembered := ?_ }
  · rintro ⟨step, users, client⟩ _ user batch rfl none
    simp only [Turn.dispatches, Turn.clientAfter, Turn.answer, Turn.usersAfter,
      perform_bulk_nothing users user none, Client.log, Client.run_done, setIndexer,
      Function.update_self, and_self]
  · rintro ⟨step, users, client⟩ _ user batch rfl filled
    refine ⟨(client.dispatch batch.call).1,
      failuresOf batch.size (client.dispatch batch.call).1, ?_, ?_, ?_, ?_⟩
    · simp only [Turn.dispatches, perform_bulk_sent users user filled, Client.log, Batch.call]
    · simp only [Turn.answer, perform_bulk_sent users user filled, Client.run_send,
        Client.run_note, Client.run_done]
    · simp only [Turn.usersAfter, perform_bulk_sent users user filled, Client.run_send,
        Client.run_note, Client.run_done, setIndexer, Function.update_self]
    · cases (client.dispatch batch.call).1 with
      | error error => rfl
      | ok response =>
          simp only [failuresOf, Response.isSuccess, decide_eq_true_eq]
          rfl
  · intro before turn later split user
    have first := errorCount_before user split
    refine ⟨first, ?_⟩
    rw [turn.errorCount_after, first, lastCount, List.filterMap_append]
    cases given : turn.count? user with
    | none => rw [List.filterMap_cons_none given, List.filterMap_nil, List.append_nil]; rfl
    | some count =>
        rw [List.filterMap_cons_some given, List.filterMap_nil, List.getLast?_concat]
        rfl

end ClusterClient.Users
