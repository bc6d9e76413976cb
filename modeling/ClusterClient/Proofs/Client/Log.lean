import ClusterClient.Proofs.Client.Round
import Mathlib.Data.List.Forall2

/-! # The dispatches of an exchange

`Client.log` lists the calls that an exchange dispatches on a client, each with the reply it gets.
Behind each dispatch stand the requests to the nodes (`ClusterClient.Client.run_sent`), on a single
node exactly one (`ClusterClient.Client.dispatch_single`).
-/

namespace ClusterClient

/-- A call that was dispatched, and its reply. -/
structure Dispatch where
  call : Call
  reply : Reply

/-- The outcome that ended a dispatch: its answer, or a failure if no node answered. -/
def Dispatch.outcome (dispatch : Dispatch) : Outcome :=
  match dispatch.reply with
  | .ok response => .answer response
  | .error _ => .failure

/-- Whether requests are those of a dispatch: at least one, and each of them the call at a node. -/
structure Dispatch.Sent (hosts : List String) (dispatch : Dispatch) (requests : List Request) :
    Prop where
  nonempty : requests ≠ []
  atHost : ∀ request ∈ requests, ∃ host ∈ hosts, request = dispatch.call.requestTo host

namespace Client

variable {α : Type}

/-- The dispatches of an exchange on a client, in order. -/
def log : Exchange α → Client → List Dispatch
  | .done _, _ => []
  | .send call next, client =>
    ⟨call, (client.dispatch call).1⟩ ::
      log (next (client.dispatch call).1) (client.dispatch call).2
  | .note event next, client => log next (client.record event)

/-- The dispatches of work in two parts are those of the first part, and those of the second on the
client behind it. -/
theorem log_bind {β : Type} (work : Exchange α) (next : α → Exchange β) (client : Client) :
    client.log (work >>= next) =
      client.log work ++ (client.run work).2.log (next (client.run work).1) := by
  induction work generalizing client with
  | done value => rfl
  | send call rest ih => exact congrArg (List.cons _) (ih _ _)
  | note event rest ih => exact ih _

/-- A dispatch is answered by a node that is not overloaded, or it fails as a whole. -/
theorem dispatch_reply (client : Client) (call : Call) :
    (∃ response, (client.dispatch call).1 = .ok response ∧
        response.status ≠ Outcome.unavailableStatus) ∨
      (client.dispatch call).1 = .error (.unavailable call.method call.path) := by
  obtain ⟨last, run⟩ := dispatch_run call client
  rcases run.replied with ⟨response, answered⟩ | failed
  · exact .inl ⟨response, answered, ((run.ok_iff response).mp answered).2.1⟩
  · exact .inr failed

/-- The requests that a dispatch executes, behind which the nodes are the same as before. -/
theorem dispatch_sent (client : Client) (call : Call) :
    (client.dispatch call).2.hosts = client.hosts ∧
      ∃ requests, (client.dispatch call).2.transport = client.transport.behind requests ∧
        Dispatch.Sent client.hosts ⟨call, (client.dispatch call).1⟩ requests := by
  obtain ⟨last, run⟩ := dispatch_run call client
  refine ⟨run.endpoints, _, run.transport, ?_, ?_⟩
  · simp only [ne_eq, List.map_eq_nil_iff, List.range_eq_nil, Nat.succ_ne_zero, not_false_eq_true]
  · intro request member
    obtain ⟨step, _, rfl⟩ := List.mem_map.mp member
    exact ⟨_, List.get_mem _ _, rfl⟩

/-- The requests that an exchange executes are those of its dispatches, one group for each. -/
theorem run_sent (work : Exchange α) (client : Client) :
    ∃ groups, List.Forall₂ (Dispatch.Sent client.hosts) (client.log work) groups ∧
      (client.run work).2.transport = client.transport.behind groups.flatten := by
  induction work generalizing client with
  | done value => exact ⟨[], .nil, by simp only [run_done, Transport.behind, List.flatten_nil,
      List.length_nil, List.drop_zero, List.append_nil]⟩
  | send call next ih =>
      obtain ⟨hosts, requests, transport, sent⟩ := dispatch_sent client call
      obtain ⟨groups, rest, behind⟩ := ih (client.dispatch call).1 (client.dispatch call).2
      rw [hosts] at rest
      refine ⟨requests :: groups, .cons sent rest, ?_⟩
      rw [run_send, behind, transport, Transport.behind_behind, List.flatten_cons]
  | note event next ih => exact ih (client.record event)

/-- A client with one node, from which the given outcomes arrive. -/
def oneNode (planned : List Outcome) : Client :=
  { config := { hosts := ["http://a/"] }
    rotation :=
      { endpoints := ["http://a/"]
        current := 0
        failures := 0
        draws := .planned []
        current_lt := by decide
        failures_lt := by decide }
    transport := { planned } }

/-- On a single node every dispatch is one request. -/
theorem dispatch_single {client : Client} {host : String} (alone : client.hosts = [host])
    (call : Call) :
    (client.dispatch call).2.transport = client.transport.behind [call.requestTo host] ∧
      ((client.dispatch call).1 = match (client.transport.outcome 0).accepted? with
        | some response => .ok response
        | none => .error (.unavailable call.method call.path)) := by
  obtain ⟨last, run⟩ := dispatch_run call client
  have only : client.rotation.size = 1 := congrArg List.length alone
  have first : last = 0 := by
    have below := run.last_lt
    have left : client.rotation.remaining ≤ client.rotation.size := Nat.sub_le _ _
    omega
  subst first
  constructor
  · rw [run.transport]
    congr 1
    simp only [Nat.zero_add, List.range_one, List.map_cons, List.map_nil, List.cons.injEq, and_true]
    unfold requestAt
    have node : client.rotation.hostAt 0 ∈ client.hosts := List.get_mem _ _
    rw [alone, List.mem_singleton] at node
    rw [node]
  · have ending := run.ending
    generalize (client.dispatch call).1 = reply at ending
    cases ending with
    | answered accepted _ _ => rw [accepted]
    | exhausted _ failed _ => rw [(Outcome.accepted?_eq_none_iff _).mpr failed]

end Client
end ClusterClient
