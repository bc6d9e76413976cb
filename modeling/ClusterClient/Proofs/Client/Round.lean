import ClusterClient.Client
import ClusterClient.Proofs.Rotation

/-! # One round through the nodes

A dispatch sends its request to one node after the other. Every request of a round differs from the
call only in the node it goes to, no node is tried twice, and the first node that gives an answer
ends the round (`ClusterClient.Client.round_run`). A round that starts with no failure counted ends
with none counted, so the law holds of every dispatch in every sequence of them
(`ClusterClient.Client.dispatch_round`).
-/

namespace ClusterClient

namespace Outcome

/-- A node fails if no response arrives from it or if it is overloaded. -/
def NodeFails : Outcome → Prop
  | .answer response => response.status = unavailableStatus
  | .failure => True

/-- A node fails if it gives no answer or says that it is unavailable. -/
theorem accepted?_eq_none_iff (outcome : Outcome) :
    outcome.accepted? = none ↔ outcome.NodeFails := by
  cases outcome with
  | answer response => simp only [accepted?, NodeFails, ite_eq_left_iff, reduceCtorEq, imp_false,
      Decidable.not_not]
  | failure => simp only [accepted?, NodeFails]

/-- Any other answer is accepted, whatever its status. -/
theorem accepted?_eq_some_iff (outcome : Outcome) (response : Response) :
    outcome.accepted? = some response ↔
      outcome = .answer response ∧ response.status ≠ unavailableStatus := by
  cases outcome with
  | answer given =>
      simp only [accepted?, Outcome.answer.injEq, ne_eq]
      constructor
      · intro taken
        split at taken
        · cases taken
        · cases taken
          exact ⟨rfl, ‹_›⟩
      · rintro ⟨rfl, usable⟩
        exact if_neg usable
  | failure => simp only [accepted?, reduceCtorEq, false_and]

/-- An answer and a failure of the node exclude each other. -/
theorem not_nodeFails_of_accepted {outcome : Outcome} {response : Response}
    (accepted : outcome.accepted? = some response) : ¬ outcome.NodeFails := by
  rw [← accepted?_eq_none_iff, accepted]
  exact Option.some_ne_none response

end Outcome

namespace Transport

/-- The outcome of the request that is sent after the given number of others. -/
def outcome (t : Transport) (index : Nat) : Outcome := t.planned.getD index t.standing

/-- The transport behind requests that were executed one after the other. -/
def behind (t : Transport) (requests : List Request) : Transport :=
  { t with planned := t.planned.drop requests.length, executed := t.executed ++ requests }

/-- A request comes to the next outcome. -/
theorem execute_eq (t : Transport) (request : Request) :
    t.execute request = (t.outcome 0, t.behind [request]) := by
  unfold execute outcome behind
  cases planned : t.planned <;> rfl

/-- Requests that are executed one after the other are executed together. -/
theorem behind_behind (t : Transport) (first second : List Request) :
    (t.behind first).behind second = t.behind (first ++ second) := by
  simp only [behind, List.drop_drop, List.append_assoc, List.length_append]

/-- Behind requests the outcomes are those that followed theirs. -/
theorem behind_outcome (t : Transport) (requests : List Request) (index : Nat) :
    (t.behind requests).outcome index = t.outcome (requests.length + index) := by
  simp only [behind, outcome, List.getD_eq_getElem?_getD, List.getElem?_drop]

end Transport

/-- The request for a call to a node. -/
def Call.requestTo (call : Call) (host : String) : Request :=
  Request.of call.method (host ++ call.path) call.body

namespace Client

/-- The request for a call to the node that is tried after the given number of failures. -/
def requestAt (client : Client) (call : Call) (step : Nat) : Request :=
  call.requestTo (client.rotation.hostAt step)

theorem attempt_eq (client : Client) (call : Call) :
    client.attempt call =
      ((client.transport.outcome 0).accepted?,
        { client with
          transport := client.transport.behind [client.requestAt call 0]
          metrics := (outcomeEvents call.method client.currentHost
            (client.transport.outcome 0)).foldl Registry.record client.metrics }) := by
  have request : client.requestAt call 0 =
      Request.of call.method (client.currentHost ++ call.path) call.body := by
    rw [requestAt, Rotation.hostAt_zero]
    rfl
  rw [request]
  simp only [attempt, Transport.execute_eq]

/-- An attempt executes one request, at the current node. -/
theorem attempt_transport (client : Client) (call : Call) :
    (client.attempt call).2.transport = client.transport.behind [client.requestAt call 0] := by
  rw [attempt_eq]

/-- An answer ends the round, and the node that gave it stays the current one. -/
theorem round_answer {client : Client} {call : Call} {response : Response}
    (accepted : (client.transport.outcome 0).accepted? = some response) (left : Nat) :
    round call (left + 1) client =
      (.ok response,
        { (client.attempt call).2 with rotation := client.rotation.settle }) := by
  have tried := attempt_eq client call
  rw [accepted] at tried
  simp only [round, tried]

/-- A failure that leaves another node to try goes on there. -/
theorem round_retry {client : Client} {call : Call} {rotation : Rotation}
    (failed : (client.transport.outcome 0).accepted? = none)
    (moved : client.rotation.advance = (.retry, rotation)) (left : Nat) :
    round call (left + 1) client = round call left { (client.attempt call).2 with rotation } := by
  have tried := attempt_eq client call
  rw [failed] at tried
  simp only [round, tried, moved]

/-- The failure of the last node ends the round without an answer. -/
theorem round_exhausted {client : Client} {call : Call} {rotation : Rotation}
    (failed : (client.transport.outcome 0).accepted? = none)
    (drawn : client.rotation.advance = (.exhausted, rotation)) (left : Nat) :
    round call (left + 1) client =
      (.error (.unavailable call.method call.path),
        { (client.attempt call).2 with rotation }.record .clusterUnavailable) := by
  have tried := attempt_eq client call
  rw [failed] at tried
  simp only [round, tried, drawn]

/-- How a round ends whose request number `last`, counted from zero, is its last one. -/
inductive Ending (call : Call) (left last : Nat) (before : Client) : Reply → Rotation → Prop where
  /-- The node answers and stays the current one. -/
  | answered {response : Response} {rotation : Rotation}
      (accepted : (before.transport.outcome last).accepted? = some response)
      (current : rotation.current = before.rotation.indexAt last)
      (draws : rotation.draws = before.rotation.draws) :
      Ending call left last before (.ok response) rotation
  /-- The last node that is left fails, and the next first node is drawn. -/
  | exhausted {rotation : Rotation}
      (all : last + 1 = left)
      (failed : (before.transport.outcome last).NodeFails)
      (drawn : (rotation.current, rotation.draws) =
        before.rotation.draws.below before.rotation.size) :
      Ending call left last before (.error (.unavailable call.method call.path)) rotation

/-- What a round does that may try the given number of nodes. -/
structure RoundRun (call : Call) (left last : Nat) (before : Client) (reply : Reply)
    (after : Client) : Prop where
  last_lt : last < left
  failed : ∀ step < last, (before.transport.outcome step).NodeFails
  transport : after.transport =
    before.transport.behind ((List.range (last + 1)).map (before.requestAt call))
  endpoints : after.rotation.endpoints = before.rotation.endpoints
  failures : after.rotation.failures = 0
  ending : Ending call left last before reply after.rotation

/-- A round that goes on behind a failed node is a round from the failed node on. -/
private theorem RoundRun.step {call : Call} {left last : Nat} {before next after : Client}
    {reply : Reply} (rest : RoundRun call left last next reply after)
    (failed : (before.transport.outcome 0).NodeFails)
    (transport : next.transport = before.transport.behind [before.requestAt call 0])
    (endpoints : next.rotation.endpoints = before.rotation.endpoints)
    (indexAt : ∀ step, next.rotation.indexAt step = before.rotation.indexAt (step + 1))
    (draws : next.rotation.draws = before.rotation.draws) :
    RoundRun call (left + 1) (last + 1) before reply after := by
  have size : next.rotation.size = before.rotation.size := congrArg List.length endpoints
  have requestAt : ∀ step, next.requestAt call step = before.requestAt call (step + 1) := by
    intro step
    unfold Client.requestAt Rotation.hostAt
    simp only [endpoints, indexAt, List.get_eq_getElem]
  have outcome : ∀ step, next.transport.outcome step = before.transport.outcome (step + 1) := by
    intro step
    rw [transport, Transport.behind_outcome, List.length_singleton, Nat.add_comm]
  refine
    { last_lt := Nat.succ_lt_succ rest.last_lt
      failed := ?_
      transport := ?_
      endpoints := rest.endpoints.trans endpoints
      failures := rest.failures
      ending := ?_ }
  · intro step below
    cases step with
    | zero => exact failed
    | succ step =>
        rw [← outcome step]
        exact rest.failed step (Nat.lt_of_succ_lt_succ below)
  · have requests : (List.range (last + 1)).map (next.requestAt call) =
        (List.range (last + 1)).map (before.requestAt call ∘ Nat.succ) :=
      List.map_congr_left fun step _ => requestAt step
    rw [rest.transport, transport, Transport.behind_behind, requests,
      List.range_succ_eq_map (n := last + 1), List.map_cons, List.map_map, List.singleton_append]
  · cases rest.ending with
    | answered accepted current drawn =>
        refine .answered ?_ (current.trans (indexAt last)) (drawn.trans draws)
        rw [← outcome last]
        exact accepted
    | exhausted all lastFailed drawn =>
        refine .exhausted (congrArg Nat.succ all) ?_ ?_
        · rw [← outcome last]
          exact lastFailed
        · rw [drawn, draws, size]

/-- **A round, node by node.** The nodes that are left are tried in order until one answers. -/
theorem round_run (call : Call) (left : Nat) (client : Client) (some_left : 0 < left)
    (fits : client.rotation.failures + left = client.rotation.size) :
    ∃ last, RoundRun call left last client (round call left client).1
      (round call left client).2 := by
  induction left generalizing client with
  | zero => exact absurd some_left (Nat.lt_irrefl 0)
  | succ left ih =>
      cases accepted : (client.transport.outcome 0).accepted? with
      | some response =>
          rw [round_answer accepted]
          exact ⟨0, some_left, fun step below => absurd below (Nat.not_lt_zero step),
            attempt_transport client call, rfl, rfl,
            .answered accepted client.rotation.indexAt_zero.symm rfl⟩
      | none =>
          have failed := (Outcome.accepted?_eq_none_iff _).mp accepted
          by_cases more : client.rotation.failures + 1 < client.rotation.size
          · rw [round_retry accepted (client.rotation.advance_retry more)]
            obtain ⟨last, rest⟩ := ih
              { (client.attempt call).2 with
                rotation :=
                  { client.rotation with
                    current := (client.rotation.current + 1) % client.rotation.size
                    failures := client.rotation.failures + 1
                    current_lt := Nat.mod_lt _ client.rotation.size_pos
                    failures_lt := more } }
              (by omega) (by simp only [Rotation.size] at fits ⊢; omega)
            refine ⟨last + 1, rest.step failed (attempt_transport client call) rfl ?_ rfl⟩
            intro step
            simp only [Rotation.indexAt, Rotation.size, Nat.mod_add_mod]
            congr 1
            omega
          · rw [round_exhausted accepted (client.rotation.advance_exhausted more)]
            exact ⟨0, some_left, fun step below => absurd below (Nat.not_lt_zero step),
              attempt_transport client call, rfl, rfl, .exhausted (by omega) failed rfl⟩

/-- A dispatch is a round through the nodes that are left. -/
theorem dispatch_run (call : Call) (client : Client) :
    ∃ last, RoundRun call client.rotation.remaining last client (client.dispatch call).1
      (client.dispatch call).2 := by
  have counted : client.rotation.failures < client.rotation.size := client.rotation.failures_lt
  refine round_run call _ client ?_ ?_
  · exact Nat.sub_pos_of_lt counted
  · exact Nat.add_sub_cancel' counted.le

variable {call : Call} {left last : Nat} {before after : Client} {reply : Reply}

/-- A round ends with an answer or with the failure of the call. -/
theorem RoundRun.replied (run : RoundRun call left last before reply after) :
    (∃ response, reply = .ok response) ∨ reply = .error (.unavailable call.method call.path) := by
  cases run.ending with
  | answered _ _ _ => exact .inl ⟨_, rfl⟩
  | exhausted _ _ _ => exact .inr rfl

/-- The answer of a round is the outcome of its last request, the first one that is an answer. -/
theorem RoundRun.ok_iff (run : RoundRun call left last before reply after) (response : Response) :
    reply = .ok response ↔
      before.transport.outcome last = .answer response ∧
        response.status ≠ Outcome.unavailableStatus ∧
        ∀ step < last, (before.transport.outcome step).NodeFails := by
  constructor
  · rintro rfl
    cases run.ending with
    | answered accepted _ _ =>
        obtain ⟨answer, usable⟩ := (Outcome.accepted?_eq_some_iff _ _).mp accepted
        exact ⟨answer, usable, run.failed⟩
  · rintro ⟨answer, usable, _⟩
    have taken := (Outcome.accepted?_eq_some_iff _ _).mpr ⟨answer, usable⟩
    cases run.ending with
    | answered accepted _ _ => rw [Option.some.inj (accepted.symm.trans taken)]
    | exhausted _ failed _ => exact absurd failed (Outcome.not_nodeFails_of_accepted taken)

/-- A round fails exactly if it tries all nodes that are left and every one fails. -/
theorem RoundRun.error_iff (run : RoundRun call left last before reply after) :
    reply = .error (.unavailable call.method call.path) ↔
      last + 1 = left ∧ ∀ step < left, (before.transport.outcome step).NodeFails := by
  constructor
  · rintro rfl
    cases run.ending with
    | exhausted all failed _ =>
        refine ⟨all, fun step below => ?_⟩
        rcases Nat.lt_or_eq_of_le (Nat.le_of_lt_succ (all ▸ below)) with earlier | rfl
        · exact run.failed step earlier
        · exact failed
  · rintro ⟨_, failed⟩
    cases run.ending with
    | answered accepted _ _ =>
        exact absurd (failed last run.last_lt) (Outcome.not_nodeFails_of_accepted accepted)
    | exhausted _ _ _ => rfl

/-- Each request of a round is the call at the node whose turn it is. -/
theorem requestAt_eq (client : Client) (call : Call) (step : Nat) :
    ∃ host, client.hosts[(client.rotation.current + step) % client.hosts.length]? = some host ∧
      client.requestAt call step =
        { method := call.method
          url := host ++ call.path
          headers := if call.body = "" then [] else [Request.jsonContent]
          body := call.body } := by
  refine ⟨client.rotation.hostAt step, List.getElem?_eq_getElem (client.rotation.indexAt_lt step),
    ?_⟩
  simp only [requestAt, Call.requestTo, Request.of, String.isEmpty_iff]

/-- The client after calls that were dispatched one after the other. -/
def serve (client : Client) (calls : List Call) : Client :=
  calls.foldl (fun served call => (served.dispatch call).2) client

/-- Between dispatches no failure is counted and the nodes stay the same. -/
theorem serve_fresh (calls : List Call) (client : Client)
    (fresh : client.rotation.failures = 0) :
    (client.serve calls).rotation.failures = 0 ∧ (client.serve calls).hosts = client.hosts := by
  induction calls generalizing client with
  | nil => exact ⟨fresh, rfl⟩
  | cons call calls ih =>
      obtain ⟨last, run⟩ := dispatch_run call client
      obtain ⟨still, hosts⟩ := ih (client.dispatch call).2 run.failures
      exact ⟨still, hosts.trans run.endpoints⟩

/-- The law of a dispatch through the given nodes that executes `count` requests: where each of them
goes and what it carries, what ends the dispatch, and which node is the current one behind it. -/
structure DispatchLaw (endpoints : List String) (call : Call) (count : Nat) (before : Client)
    (reply : Reply) (after : Client) : Prop where
  count_pos : 1 ≤ count
  count_le : count ≤ endpoints.length
  requests : ∃ sent : List Request,
    after.transport.executed = before.transport.executed ++ sent ∧ sent.length = count ∧
      ∀ step < count, ∃ host,
        endpoints[(before.rotation.current + step) % endpoints.length]? = some host ∧
          sent[step]? = some
            { method := call.method
              url := host ++ call.path
              headers := if call.body = "" then [] else [Request.jsonContent]
              body := call.body }
  distinct : ((List.range count).map fun step =>
    (before.rotation.current + step) % endpoints.length).Nodup
  outcomes : ∀ index, after.transport.outcome index = before.transport.outcome (count + index)
  replied : (∃ response, reply = .ok response) ∨
    reply = .error (.unavailable call.method call.path)
  answered_iff : ∀ response, reply = .ok response ↔
    before.transport.outcome (count - 1) = .answer response ∧ response.status ≠ 503 ∧
      ∀ step < count - 1, (before.transport.outcome step).NodeFails
  unavailable_iff : reply = .error (.unavailable call.method call.path) ↔
    count = endpoints.length ∧ ∀ step < endpoints.length,
      (before.transport.outcome step).NodeFails
  entry : before.rotation.failures = 0 ∧ before.rotation.current < endpoints.length
  exit : after.rotation.failures = 0 ∧ after.rotation.current < endpoints.length
  after_answer : ∀ response, reply = .ok response →
    after.rotation.current = (before.rotation.current + (count - 1)) % endpoints.length ∧
      after.rotation.draws = before.rotation.draws
  after_failure : reply = .error (.unavailable call.method call.path) →
    (after.rotation.current, after.rotation.draws) =
      before.rotation.draws.below endpoints.length
  hosts : after.hosts = endpoints

/-- A round that starts without failures keeps the law, whatever its nodes answer. -/
theorem dispatchLaw_of_run (fresh : before.rotation.failures = 0)
    (run : RoundRun call before.rotation.size last before reply after) :
    DispatchLaw before.hosts call (last + 1) before reply after where
  count_pos := Nat.succ_pos last
  count_le := run.last_lt
  requests := by
    refine ⟨_, congrArg Transport.executed run.transport, ?_, ?_⟩
    · rw [List.length_map, List.length_range]
    intro step below
    obtain ⟨host, turn, request⟩ := requestAt_eq before call step
    refine ⟨host, turn, ?_⟩
    rw [List.getElem?_map, List.getElem?_range below, Option.map_some, request]
  distinct := before.rotation.nodup_indexAt run.last_lt
  outcomes := by
    intro index
    rw [run.transport, Transport.behind_outcome, List.length_map, List.length_range]
  replied := run.replied
  answered_iff := run.ok_iff
  unavailable_iff := run.error_iff
  entry := ⟨fresh, before.rotation.current_lt⟩
  exit := ⟨run.failures,
    Nat.lt_of_lt_of_eq after.rotation.current_lt (congrArg List.length run.endpoints)⟩
  after_answer := by
    rintro response rfl
    cases run.ending with
    | answered _ current draws => exact ⟨current, draws⟩
  after_failure := by
    rintro rfl
    cases run.ending with
    | exhausted _ _ drawn => exact drawn
  hosts := run.endpoints

/-- **The law of every dispatch.** On a client whose rotation has just started, every dispatch
behind any number of others is a full round. -/
theorem dispatch_round {endpoints : List String} {draws : Draws} (client : Client)
    (started : Rotation.start? endpoints draws = some client.rotation) (earlier : List Call)
    (call : Call) :
    ∃ count, DispatchLaw endpoints call count (client.serve earlier)
      ((client.serve earlier).dispatch call).1 ((client.serve earlier).dispatch call).2 := by
  obtain ⟨fresh, hosts⟩ := Rotation.start?_spec started
  obtain ⟨still, same⟩ := serve_fresh earlier client fresh
  obtain ⟨last, run⟩ := dispatch_run call (client.serve earlier)
  rw [Rotation.remaining_of_fresh still] at run
  have law := dispatchLaw_of_run still run
  rw [same.trans hosts] at law
  exact ⟨last + 1, law⟩

/-- The law at two nodes, of which the first one to be tried is overloaded twice. -/
theorem dispatch_round_two_nodes :
    let call : Call := ⟨.get, "idx/_doc/1", ""⟩
    let client : Client :=
      { config := { hosts := ["http://a/", "http://b/"] }
        rotation :=
          { endpoints := ["http://a/", "http://b/"]
            current := 1
            failures := 0
            draws := .planned [1]
            current_lt := by decide
            failures_lt := by decide }
        transport :=
          { planned := [.answer { status := 503, body := "" }, .failure,
              .answer { status := 503, body := "" }, .answer { status := 404, body := "" }] } }
    Rotation.start? ["http://a/", "http://b/"] (.planned [1, 1]) = some client.rotation ∧
      ∃ count, DispatchLaw ["http://a/", "http://b/"] call count (client.serve [call])
        ((client.serve [call]).dispatch call).1 ((client.serve [call]).dispatch call).2 :=
  ⟨rfl, @dispatch_round _ (.planned [1, 1]) _ rfl _ _⟩

end Client
end ClusterClient
