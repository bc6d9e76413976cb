import ClusterClient.Proofs.Client.Log
import ClusterClient.Proofs.Users

/-! # Many nodes look like one

Whatever nodes fail on the way, an exchange sees of each dispatch only the answer that ended it, or
that none came. A client of a single node whose outcomes are these ends comes to the same value by
the same dispatches (`ClusterClient.Client.run_single`), so the users of a client cannot tell how
many nodes there are, in which order they stand or which of them is picked
(`ClusterClient.Users.performAll_single`).
-/

namespace ClusterClient

namespace Client

variable {α : Type}

/-- A single node whose next outcome is the end of a dispatch gives the same reply. -/
theorem dispatch_single_reply {client single : Client} {host : String}
    (alone : single.hosts = [host]) (call : Call)
    (first : single.transport.outcome 0 = Dispatch.outcome ⟨call, (client.dispatch call).1⟩) :
    (single.dispatch call).1 = (client.dispatch call).1 := by
  obtain ⟨_, reply⟩ := dispatch_single alone call
  rw [reply, first]
  rcases dispatch_reply client call with ⟨response, answered, usable⟩ | failed
  · have accepted : (Outcome.answer response).accepted? = some response :=
      (Outcome.accepted?_eq_some_iff _ _).mpr ⟨rfl, usable⟩
    simp only [Dispatch.outcome, answered, accepted]
  · simp only [Dispatch.outcome, failed, Outcome.accepted?]

/-- **One node in place of many.** A client of a single node whose planned outcomes start with the
ends of the dispatches makes the same dispatches and comes to the same value. -/
theorem run_single (work : Exchange α) (client single : Client) {host : String}
    (alone : single.hosts = [host]) (later : List Outcome)
    (planned : single.transport.planned = (client.log work).map Dispatch.outcome ++ later) :
    single.log work = client.log work ∧ (single.run work).1 = (client.run work).1 ∧
      (single.run work).2.transport =
        single.transport.behind ((client.log work).map fun sent => sent.call.requestTo host) := by
  induction work generalizing client single with
  | done value =>
      refine ⟨rfl, rfl, ?_⟩
      simp only [log, run_done, List.map_nil, Transport.behind, List.length_nil, List.drop_zero,
        List.append_nil]
  | send call next ih =>
      simp only [log, List.map_cons, List.cons_append] at planned
      have first : single.transport.outcome 0 =
          Dispatch.outcome ⟨call, (client.dispatch call).1⟩ := by
        rw [Transport.outcome, planned, List.getD_cons_zero]
      have reply := dispatch_single_reply alone call first
      obtain ⟨transport, _⟩ := dispatch_single alone call
      have still : (single.dispatch call).2.hosts = [host] :=
        (dispatch_sent single call).1.trans alone
      have rest : (single.dispatch call).2.transport.planned =
          (log (next (client.dispatch call).1) (client.dispatch call).2).map Dispatch.outcome
            ++ later := by
        rw [transport, Transport.behind, planned]
        rfl
      obtain ⟨logs, values, behind⟩ := ih _ _ (single.dispatch call).2 still rest
      refine ⟨?_, ?_, ?_⟩
      · simp only [log, reply, logs]
      · simp only [run_send, reply, values]
      · rw [run_send, reply, behind, transport, Transport.behind_behind]
        rfl
  | note event next ih => exact ih (client.record event) (single.record event) alone planned

end Client

namespace Users

/-- **Failover cannot be seen.** Run the operations of any users on any client, and the same
operations on a client of a single node that answers each dispatch with the end of the round: every
answer and every state of the users is the same, and so are the dispatches. Each of them is one
request at the single node, and at the nodes of the client one or more requests that differ from it
only in the node. -/
theorem performAll_single (users : Users) (steps : List Step) (client single : Client)
    (host : String) (alone : single.hosts = [host])
    (compressed : single.transport.planned =
      (client.log (users.performAll steps)).map Dispatch.outcome) :
    (single.run (users.performAll steps)).1 = (client.run (users.performAll steps)).1 ∧
      single.log (users.performAll steps) = client.log (users.performAll steps) ∧
      (single.run (users.performAll steps)).2.transport.executed =
        single.transport.executed ++
          (client.log (users.performAll steps)).map (fun sent => sent.call.requestTo host) ∧
      (∃ groups, List.Forall₂ (Dispatch.Sent client.hosts)
          (client.log (users.performAll steps)) groups ∧
        (client.run (users.performAll steps)).2.transport.executed =
          client.transport.executed ++ groups.flatten) ∧
      ∀ other : Client,
        (other.log (users.performAll steps)).map Dispatch.outcome =
          (client.log (users.performAll steps)).map Dispatch.outcome →
        (other.run (users.performAll steps)).1 = (client.run (users.performAll steps)).1 ∧
          other.log (users.performAll steps) = client.log (users.performAll steps) := by
  have ends := compressed.trans (List.append_nil _).symm
  obtain ⟨logs, values, transport⟩ := Client.run_single _ client single alone [] ends
  refine ⟨values, logs, congrArg Transport.executed transport, ?_, ?_⟩
  · obtain ⟨groups, sent, behind⟩ := Client.run_sent (users.performAll steps) client
    exact ⟨groups, sent, congrArg Transport.executed behind⟩
  · intro other same
    rw [← same] at ends
    obtain ⟨otherLogs, others, _⟩ := Client.run_single _ other single alone [] ends
    exact ⟨others.symm.trans values, otherLogs.symm.trans logs⟩

/-- Two nodes and one node: a search behind an overloaded node, a round without an answer when a
session is opened, and the deletion of a document that is not there. -/
theorem performAll_single_two_nodes :
    let users : Users :=
      { sessions := fun _ => some (Scroll.Session.scan 10 "1m" 2), indexers := fun _ => {} }
    let steps : List Step :=
      [.search (some "idx") none "" none, .init 0 ⟨"idx", "t", ""⟩, .next 0,
        .remove "idx" "t" "1" none]
    let client : Client :=
      { config := { hosts := ["http://a/", "http://b/"] }
        rotation :=
          { endpoints := ["http://a/", "http://b/"]
            current := 1
            failures := 0
            draws := .planned [1]
            current_lt := by decide
            failures_lt := by decide }
        transport :=
          { planned := [.answer { status := 503, body := "" },
              .answer { status := 200, body := "" }, .failure,
              .answer { status := 503, body := "" }, .answer { status := 404, body := "" }] } }
    let single : Client := .oneNode
      [.answer { status := 200, body := "" }, .failure, .answer { status := 404, body := "" }]
    single.hosts = ["http://a/"] ∧
      single.transport.planned = (client.log (users.performAll steps)).map Dispatch.outcome ∧
      (single.run (users.performAll steps)).1 = (client.run (users.performAll steps)).1 :=
  ⟨rfl, rfl, (performAll_single _ _ _ _ _ rfl rfl).1⟩

end Users
end ClusterClient
