import ClusterClient.Proofs.Client.Log

/-! # What is counted while a client is in use

Behind each dispatch of an exchange stand its attempts, one for each request to a node, with what
came of it (`ClusterClient.Client.attempts`). Nothing changes the registry of a client but the
events of these attempts, the rounds in which every node failed, and what the exchange itself counts
(`ClusterClient.Client.run_counted`). So a number that is read off a registry and grows with its
series grows by a sum over these three (`ClusterClient.Gauge.total_events`).
-/

namespace ClusterClient

instance : DecidablePred Outcome.NodeFails := fun outcome =>
  decidable_of_iff _ outcome.accepted?_eq_none_iff

/-- A request to a node, with what came of it. -/
structure Attempt where
  call : Call
  host : String
  outcome : Outcome

namespace Attempt

/-- The request that is sent. -/
def request (attempt : Attempt) : Request := attempt.call.requestTo attempt.host

/-- What the attempt is counted as. -/
def events (attempt : Attempt) : List Event :=
  Client.outcomeEvents attempt.call.method attempt.host attempt.outcome

end Attempt

/-- Whether a node has answered. -/
def Dispatch.isAnswered (dispatch : Dispatch) : Bool := dispatch.reply.isOk

/-- What the end of a dispatch is counted as. -/
def Dispatch.events (dispatch : Dispatch) : List Event :=
  match dispatch.reply with
  | .ok _ => []
  | .error _ => [.clusterUnavailable]

namespace Client

variable {α β : Type}

/-- The attempt at the current node. -/
def firstAttempt (call : Call) (client : Client) : Attempt :=
  ⟨call, client.currentHost, client.transport.outcome 0⟩

/-- The attempts of a round that may try the given number of nodes. -/
def roundAttempts (call : Call) : Nat → Client → List Attempt
  | 0, _ => []
  | left + 1, client =>
    client.firstAttempt call ::
      match (client.transport.outcome 0).accepted?, client.rotation.advance with
      | none, (.retry, rotation) =>
        roundAttempts call left { (client.attempt call).2 with rotation }
      | _, _ => []

/-- The attempts of an exchange, in order. -/
def attempts : Exchange α → Client → List Attempt
  | .done _, _ => []
  | .send call next, client =>
    roundAttempts call client.rotation.remaining client ++
      attempts (next (client.dispatch call).1) (client.dispatch call).2
  | .note event next, client => attempts next (client.record event)

/-- What an exchange itself counts, in order. -/
def notes : Exchange α → Client → List Event
  | .done _, _ => []
  | .send call next, client => notes (next (client.dispatch call).1) (client.dispatch call).2
  | .note event next, client => event :: notes next (client.record event)

/-- All that is counted in an exchange, in order. -/
def events : Exchange α → Client → List Event
  | .done _, _ => []
  | .send call next, client =>
    ((roundAttempts call client.rotation.remaining client).flatMap Attempt.events ++
        Dispatch.events ⟨call, (client.dispatch call).1⟩) ++
      events (next (client.dispatch call).1) (client.dispatch call).2
  | .note event next, client => event :: events next (client.record event)

/-- What is noted during work in two parts is what is noted during each of them. -/
theorem notes_bind (work : Exchange α) (next : α → Exchange β) (client : Client) :
    client.notes (work >>= next) =
      client.notes work ++ (client.run work).2.notes (next (client.run work).1) := by
  induction work generalizing client with
  | done value => rfl
  | send call rest ih => exact ih _ _
  | note event rest ih => exact congrArg (List.cons _) (ih _)

/-- What the attempts of a round are: which requests they send, which outcomes they get, which nodes
they go to, how many of them fail, and what is counted. -/
structure RoundCounted (call : Call) (left : Nat) (client : Client) : Prop where
  transport : (round call left client).2.transport =
    client.transport.behind ((roundAttempts call left client).map Attempt.request)
  outcomes : (roundAttempts call left client).map Attempt.outcome =
    (List.range (roundAttempts call left client).length).map client.transport.outcome
  hosts : ∀ attempt ∈ roundAttempts call left client, attempt.host ∈ client.hosts
  failed : (roundAttempts call left client).length =
    (roundAttempts call left client).countP (fun attempt => attempt.outcome.NodeFails) +
      List.countP Dispatch.isAnswered [⟨call, (round call left client).1⟩]
  metrics : (round call left client).2.metrics =
    ((roundAttempts call left client).flatMap Attempt.events ++
      Dispatch.events ⟨call, (round call left client).1⟩).foldl Registry.record client.metrics

/-- The first attempt goes to the current node. -/
theorem firstAttempt_request (call : Call) (client : Client) :
    (client.firstAttempt call).request = client.requestAt call 0 := by
  rw [requestAt, Rotation.hostAt_zero]
  rfl

/-- The current node is one of the nodes of the client. -/
theorem currentHost_mem (client : Client) : client.currentHost ∈ client.hosts := List.get_mem _ _

/-- **A round, attempt by attempt.** -/
theorem round_counted (call : Call) (left : Nat) (client : Client) (some_left : 0 < left)
    (fits : client.rotation.failures + left = client.rotation.size) :
    RoundCounted call left client := by
  induction left generalizing client with
  | zero => exact absurd some_left (Nat.lt_irrefl 0)
  | succ left ih =>
      have current := client.currentHost_mem
      have sent := client.firstAttempt_request call
      have counted : (client.attempt call).2.metrics =
          (client.firstAttempt call).events.foldl Registry.record client.metrics := by
        rw [attempt_eq]
        rfl
      cases accepted : (client.transport.outcome 0).accepted? with
      | some response =>
          have only : roundAttempts call (left + 1) client = [client.firstAttempt call] := by
            simp only [roundAttempts, accepted]
          have usable : ¬ (client.firstAttempt call).outcome.NodeFails :=
            Outcome.not_nodeFails_of_accepted accepted
          constructor
          · rw [only, round_answer accepted, List.map_singleton, sent]
            exact attempt_transport client call
          · rw [only]
            rfl
          · rw [only]
            exact List.forall_mem_singleton.mpr current
          · rw [only, round_answer accepted, List.countP_singleton,
              if_neg (by simpa only [decide_eq_true_eq] using usable)]
            rfl
          · rw [only, round_answer accepted, List.flatMap_singleton]
            simpa only [Dispatch.events, List.append_nil] using counted
      | none =>
          have failed : (client.firstAttempt call).outcome.NodeFails :=
            (Outcome.accepted?_eq_none_iff _).mp accepted
          by_cases more : client.rotation.failures + 1 < client.rotation.size
          · obtain ⟨rotation, moved, next, nodes⟩ : ∃ rotation : Rotation,
                client.rotation.advance = (.retry, rotation) ∧
                  rotation.failures = client.rotation.failures + 1 ∧
                  rotation.endpoints = client.rotation.endpoints :=
              ⟨_, client.rotation.advance_retry more, rfl, rfl⟩
            have size : rotation.size = client.rotation.size := congrArg List.length nodes
            have rest := ih { (client.attempt call).2 with rotation } (by omega)
              (by simp only [next, size]; omega)
            have split : roundAttempts call (left + 1) client =
                client.firstAttempt call ::
                  roundAttempts call left { (client.attempt call).2 with rotation } := by
              simp only [roundAttempts, accepted, moved]
            constructor
            · rw [split, round_retry accepted moved, rest.transport, List.map_cons, sent,
                attempt_transport, Transport.behind_behind, List.singleton_append]
            · rw [split, List.map_cons, rest.outcomes, List.length_cons, List.range_succ_eq_map,
                List.map_cons, List.map_map]
              refine congrArg (List.cons _) (List.map_congr_left fun step _ => ?_)
              rw [attempt_transport, Transport.behind_outcome, List.length_singleton, Nat.add_comm]
              rfl
            · rw [split]
              refine List.forall_mem_cons.mpr ⟨current, fun attempt member => ?_⟩
              have among := rest.hosts attempt member
              rwa [Client.hosts, nodes] at among
            · have counts := List.countP_cons_of_pos
                (p := fun attempt : Attempt => attempt.outcome.NodeFails)
                (l := roundAttempts call left { (client.attempt call).2 with rotation })
                (decide_eq_true failed)
              rw [split, round_retry accepted moved, List.length_cons, rest.failed, counts,
                Nat.add_right_comm]
            · rw [split, round_retry accepted moved, rest.metrics, List.flatMap_cons,
                List.append_assoc, List.foldl_append (l := (client.firstAttempt call).events),
                ← counted]
          · have drawn := client.rotation.advance_exhausted more
            have only : roundAttempts call (left + 1) client = [client.firstAttempt call] := by
              simp only [roundAttempts, accepted, drawn]
            constructor
            · rw [only, round_exhausted accepted drawn, List.map_singleton, sent]
              exact attempt_transport client call
            · rw [only]
              rfl
            · rw [only]
              exact List.forall_mem_singleton.mpr current
            · rw [only, round_exhausted accepted drawn, List.countP_singleton,
                if_pos (by simpa only [decide_eq_true_eq] using failed)]
              rfl
            · rw [only, round_exhausted accepted drawn, List.flatMap_singleton, List.foldl_append,
                ← counted]
              rfl

/-- A dispatch is a round that has as many attempts left as the rotation has. -/
theorem dispatch_counted (call : Call) (client : Client) :
    RoundCounted call client.rotation.remaining client := by
  have counted : client.rotation.failures < client.rotation.size := client.rotation.failures_lt
  refine round_counted call _ client ?_ ?_
  · exact Nat.sub_pos_of_lt counted
  · exact Nat.add_sub_cancel' counted.le

/-- What the attempts of an exchange are: which requests they send, which outcomes they get, which
nodes they go to and how many of them fail. -/
structure Attempted (work : Exchange α) (client : Client) : Prop where
  transport : (client.run work).2.transport =
    client.transport.behind ((client.attempts work).map Attempt.request)
  outcomes : (client.attempts work).map Attempt.outcome =
    (List.range (client.attempts work).length).map client.transport.outcome
  hosts : ∀ attempt ∈ client.attempts work, attempt.host ∈ client.hosts
  nodes : (client.run work).2.hosts = client.hosts
  failed : (client.attempts work).length =
    (client.attempts work).countP (fun attempt => attempt.outcome.NodeFails) +
      (client.log work).countP Dispatch.isAnswered

/-- Attempts that come to the next outcomes, and attempts behind them that do so too, do it all
together. -/
theorem outcomes_append {first second : List Attempt} {t : Transport}
    (before : first.map Attempt.outcome = (List.range first.length).map t.outcome)
    (behind : second.map Attempt.outcome =
      (List.range second.length).map (t.behind (first.map Attempt.request)).outcome) :
    (first ++ second).map Attempt.outcome =
      (List.range (first ++ second).length).map t.outcome := by
  rw [List.map_append, before, behind, List.length_append, List.range_add, List.map_append,
    List.map_map]
  refine congrArg (List.append _) (List.map_congr_left fun step _ => ?_)
  rw [Transport.behind_outcome, List.length_map]
  rfl

/-- **The attempts of an exchange are its requests.** -/
theorem run_attempted (work : Exchange α) (client : Client) : Attempted work client := by
  induction work generalizing client with
  | done value =>
      constructor
      · simp only [run_done, attempts, List.map_nil, Transport.behind, List.length_nil,
          List.drop_zero, List.append_nil]
      · rfl
      · exact fun _ none => absurd none List.not_mem_nil
      · rfl
      · rfl
  | send call next ih =>
      have first := client.dispatch_counted call
      have rest := ih (client.dispatch call).1 (client.dispatch call).2
      have transport : (client.dispatch call).2.transport = client.transport.behind _ :=
        first.transport
      have hosts := (client.dispatch_sent call).1
      constructor
      · rw [run_send, rest.transport, transport, Transport.behind_behind, attempts,
          List.map_append]
      · have behind := rest.outcomes
        rw [transport] at behind
        exact outcomes_append first.outcomes behind
      · intro attempt member
        rcases List.mem_append.mp member with early | late
        · exact first.hosts attempt early
        · rw [← hosts]
          exact rest.hosts attempt late
      · exact rest.nodes.trans hosts
      · have count := first.failed
        rw [attempts, log, List.length_append, List.countP_append, ← List.singleton_append,
          List.countP_append, rest.failed, count]
        exact Nat.add_add_add_comm _ _ _ _
  | note event next ih =>
      have rest := ih (client.record event)
      exact ⟨rest.transport, rest.outcomes, rest.hosts, rest.nodes, rest.failed⟩

/-- The registry behind an exchange is the one before it with all that is counted. -/
theorem run_counted (work : Exchange α) (client : Client) :
    (client.run work).2.metrics = (client.events work).foldl Registry.record client.metrics := by
  induction work generalizing client with
  | done value => rfl
  | send call next ih =>
      rw [run_send, ih, events, List.foldl_append]
      exact congrArg (List.foldl Registry.record · _) (client.dispatch_counted call).metrics
  | note event next ih => exact ih (client.record event)

end Client

/-- The sum of the numbers of several series. -/
def Registry.sum (registry : Registry) (covers : Series → Bool) : Nat :=
  ((registry.counts.filter fun entry => covers entry.1).map (·.2)).sum

/-- A number that is read off a registry, and to which what is added to a series counts in full or
not at all. -/
structure Gauge where
  read : Registry → Nat
  covers : Series → Bool
  read_add : ∀ registry series amount,
    read (registry.add series amount) = read registry + if covers series then amount else 0

namespace Gauge

variable (gauge : Gauge)

/-- What an event adds to the number. -/
def amount (event : Event) : Nat :=
  (event.amounts.map fun entry => if gauge.covers entry.1 then entry.2 else 0).sum

/-- What events add to the number together. -/
def total (events : List Event) : Nat := (events.map gauge.amount).sum

@[simp] theorem total_nil : gauge.total [] = 0 := rfl

theorem total_cons (event : Event) (events : List Event) :
    gauge.total (event :: events) = gauge.amount event + gauge.total events := by
  rw [total, List.map_cons, List.sum_cons, total]

/-- What events add up to, they add up to part by part. -/
theorem total_append (first second : List Event) :
    gauge.total (first ++ second) = gauge.total first + gauge.total second := by
  rw [total, List.map_append, List.sum_append, total, total]

/-- Events of several items add up to the sum of what the events of each item do. -/
theorem total_flatMap {α : Type} (events : α → List Event) (items : List α) :
    gauge.total (items.flatMap events) = (items.map fun item => gauge.total (events item)).sum := by
  induction items with
  | nil => rfl
  | cons item items ih => rw [List.flatMap_cons, total_append, ih, List.map_cons, List.sum_cons]

/-- Recording an event adds its amount to what is read. -/
theorem read_record (registry : Registry) (event : Event) :
    gauge.read (registry.record event) = gauge.read registry + gauge.amount event := by
  unfold Registry.record amount
  generalize event.amounts = entries
  induction entries generalizing registry with
  | nil => rfl
  | cons entry entries ih =>
      rw [List.foldl_cons, ih, gauge.read_add, List.map_cons, List.sum_cons, Nat.add_assoc]

/-- Recording events adds their total to what is read. -/
theorem read_foldl (events : List Event) (registry : Registry) :
    gauge.read (events.foldl Registry.record registry) =
      gauge.read registry + gauge.total events := by
  induction events generalizing registry with
  | nil => rfl
  | cons event events ih =>
      rw [List.foldl_cons, ih, read_record, total_cons, Nat.add_assoc]

/-- What is counted in an exchange: its attempts, the ends of its dispatches, and what it counts
itself. -/
theorem total_events {α : Type} (work : Exchange α) (client : Client) :
    gauge.total (client.events work) =
      gauge.total ((client.attempts work).flatMap Attempt.events) +
        gauge.total ((client.log work).flatMap Dispatch.events) +
        gauge.total (client.notes work) := by
  induction work generalizing client with
  | done value => rfl
  | send call next ih =>
      simp only [Client.events, Client.attempts, Client.log, Client.notes, total_append, ih,
        List.flatMap_append, List.flatMap_cons]
      omega
  | note event next ih =>
      simp only [Client.events, Client.attempts, Client.log, Client.notes, total_cons, ih]
      omega

/-- The number of one series. -/
def count (series : Series) : Gauge where
  read registry := registry.count series
  covers other := other == series
  read_add := by
    rintro ⟨counts⟩ other amount
    simp only [Registry.count, Registry.add, beq_iff_eq]
    induction counts with
    | nil =>
        by_cases same : other = series
        · simp only [Registry.addTo, List.find?_cons, same, beq_self_eq_true, Option.map_some,
            Option.getD_some, List.find?_nil, Option.map_none, Option.getD_none, if_true,
            Nat.zero_add]
        · simp only [Registry.addTo, List.find?_cons, beq_eq_false_iff_ne.mpr same, List.find?_nil,
            Option.map_none, Option.getD_none, if_neg same]
    | cons entry counts ih =>
        obtain ⟨held, number⟩ := entry
        by_cases same : held = other
        · subst same
          by_cases found : held = series
          · simp only [Registry.addTo, List.find?_cons, found, beq_self_eq_true, Option.map_some,
              Option.getD_some, if_true]
          · simp only [Registry.addTo, List.find?_cons, beq_eq_false_iff_ne.mpr found, if_true,
              if_neg found, Nat.add_zero]
        · by_cases found : held = series
          · have others : other ≠ series := fun equal => same (found.trans equal.symm)
            simp only [Registry.addTo, if_neg same, List.find?_cons, beq_iff_eq.mpr found,
              Option.map_some, Option.getD_some, if_neg others, Nat.add_zero]
          · simp only [Registry.addTo, if_neg same, List.find?_cons,
              beq_eq_false_iff_ne.mpr found, ih]

/-- The sum of the numbers of several series. -/
def sum (covers : Series → Bool) : Gauge where
  read registry := registry.sum covers
  covers := covers
  read_add := by
    rintro ⟨counts⟩ series amount
    simp only [Registry.sum, Registry.add]
    induction counts with
    | nil =>
        by_cases covered : covers series
        · simp only [Registry.addTo, List.filter_cons, covered, if_true, List.filter_nil,
            List.map_cons, List.map_nil, List.sum_cons, List.sum_nil, Nat.add_zero, Nat.zero_add]
        · simp only [Registry.addTo, List.filter_cons, covered, if_false, List.filter_nil,
            List.map_nil, List.sum_nil, Bool.false_eq_true, Nat.add_zero]
    | cons entry counts ih =>
        obtain ⟨held, number⟩ := entry
        by_cases same : held = series
        · subst same
          by_cases covered : covers held
          · simp only [Registry.addTo, List.filter_cons, covered, if_true, List.map_cons,
              List.sum_cons]
            omega
          · simp only [Registry.addTo, List.filter_cons, covered, if_true, if_false,
              Bool.false_eq_true, Nat.add_zero]
        · by_cases covered : covers held
          · simp only [Registry.addTo, if_neg same, List.filter_cons, covered, if_true,
              List.map_cons, List.sum_cons, ih, Nat.add_assoc]
          · simp only [Registry.addTo, if_neg same, List.filter_cons, covered, if_false,
              Bool.false_eq_true, ih]

end Gauge
end ClusterClient
