import ClusterClient.Proofs.Client.Log

/-! # Exchanges on a shared client

A user of a shared client gets each reply from a client that others may have used since the request
before. `Exchange.Run` allows for all of this: at each request the client is in any state at all,
with any nodes, any current node and any outcomes to come. What an exchange does on a client of its
own is one such run (`ClusterClient.Exchange.Run.alone`), and every response that a client can reply
with starts one (`ClusterClient.Exchange.Run.answered`).
-/

namespace ClusterClient.Exchange

variable {α β : Type}

/-- An exchange can make the given dispatches on a shared client and end with the given value. -/
inductive Run : {α : Type} → Exchange α → List Dispatch → α → Prop where
  | done {α : Type} (value : α) : Run (.done value) [] value
  | send {α : Type} {call : Call} {next : Reply → Exchange α} {log : List Dispatch} {value : α}
      (client : Client) (rest : Run (next (client.dispatch call).1) log value) :
      Run (.send call next) (⟨call, (client.dispatch call).1⟩ :: log) value
  | note {α : Type} {event : Event} {next : Exchange α} {log : List Dispatch} {value : α}
      (rest : Run next log value) : Run (.note event next) log value

/-- What an exchange does on a client that nobody else uses. -/
theorem Run.alone (work : Exchange α) (client : Client) :
    work.Run (client.log work) (client.run work).1 := by
  induction work generalizing client with
  | done value => exact .done value
  | send call next ih => exact .send client (ih _ (client.dispatch call).2)
  | note event next ih => exact .note (ih (client.record event))

/-- A run and a run of what follows its value make a run of both. -/
theorem Run.bind {work : Exchange α} {next : α → Exchange β} {first rest : List Dispatch}
    {middle : α} {value : β} (run : work.Run first middle) (behind : (next middle).Run rest value) :
    (work >>= next).Run (first ++ rest) value := by
  induction run with
  | done => exact behind
  | send client _ ih => exact .send client (ih behind)
  | note _ ih => exact .note (ih behind)

/-- Every response that does not report an overloaded node can be the reply. -/
theorem Run.answered {call : Call} {next : Reply → Exchange α} {log : List Dispatch} {value : α}
    (response : Response) (served : response.status ≠ Outcome.unavailableStatus)
    (rest : (next (.ok response)).Run log value) :
    (Exchange.send call next).Run (⟨call, .ok response⟩ :: log) value := by
  have accepted :
      ((Client.oneNode [.answer response]).transport.outcome 0).accepted? = some response :=
    if_neg served
  have reply : ((Client.oneNode [.answer response]).dispatch call).1 = .ok response := by
    rw [(Client.dispatch_single rfl call).2, accepted]
  rw [← reply] at rest ⊢
  exact .send (Client.oneNode [.answer response]) rest

/-- Finished work has nothing left to dispatch. -/
theorem run_done_iff {value final : α} {log : List Dispatch} :
    (Exchange.done value).Run log final ↔ log = [] ∧ final = value := by
  constructor
  · intro run
    cases run with
    | done => exact ⟨rfl, rfl⟩
  · rintro ⟨rfl, rfl⟩
    exact .done _

/-- An event takes no dispatch. -/
theorem Run.of_note {event : Event} {next : Exchange α} {log : List Dispatch} {value : α}
    (run : (Exchange.note event next).Run log value) : next.Run log value := by
  cases run with
  | note rest => exact rest

/-- The first dispatch of an exchange that sends a call, and what it goes on with. -/
theorem Run.of_send {call : Call} {next : Reply → Exchange α} {log : List Dispatch} {value : α}
    (run : (Exchange.send call next).Run log value) :
    ∃ reply rest, log = ⟨call, reply⟩ :: rest ∧ (next reply).Run rest value := by
  cases run with
  | send client rest => exact ⟨_, _, rfl, rest⟩

/-- A run of an exchange and of what follows it falls into a run of each. -/
theorem Run.of_bind {work : Exchange α} {next : α → Exchange β} {log : List Dispatch} {value : β}
    (run : (work >>= next).Run log value) :
    ∃ first middle rest, log = first ++ rest ∧ work.Run first middle ∧
      (next middle).Run rest value := by
  induction work generalizing log with
  | done middle => exact ⟨[], middle, log, rfl, .done middle, run⟩
  | send call later ih =>
      rw [send_bind] at run
      cases run with
      | send client tail =>
          obtain ⟨first, middle, rest, split, before, behind⟩ := ih _ tail
          exact ⟨_ :: first, middle, rest, congrArg (List.cons _) split, .send client before,
            behind⟩
  | note event later ih =>
      rw [note_bind] at run
      obtain ⟨first, middle, rest, split, before, behind⟩ := ih run.of_note
      exact ⟨first, middle, rest, split, .note before, behind⟩

/-- A call and what follows it: one dispatch, and a run of what follows its reply. -/
theorem Run.of_call_bind {method : Method} {path body : String} {next : Reply → Exchange β}
    {log : List Dispatch} {value : β}
    (run : (Exchange.call method path body >>= next).Run log value) :
    ∃ reply rest, log = ⟨⟨method, path, body⟩, reply⟩ :: rest ∧ (next reply).Run rest value :=
  run.of_send

end ClusterClient.Exchange
