import ClusterClient.Proofs.Client.Reconfiguration
import ClusterClient.Proofs.Counts

/-! # The metrics account for every request

Along every run of operations of the users of a client, with settings that change in between, each
series of the registry is a number of things that have happened: requests that got a response, nodes
that failed, dispatches that no node answered, operations sent and failed, and pages accepted. A
response of an overloaded node counts as a response and as a failure of the node, so the requests
are the answered dispatches and the failures of nodes together
(`ClusterClient.Users.metrics_balanced`).
-/

namespace ClusterClient

open Scroll Bulk

namespace Users

open Exchange

/-- Something that is done with a client: an operation of one of its users, or a change of a
setting. -/
inductive Deed where
  | perform (step : Step)
  | set (setting : Setting)

/-- The operations among the deeds at their turns. -/
def turnsAmong (users : Users) (client : Client) : List Deed → List Turn
  | [] => []
  | .perform step :: deeds =>
    let turn : Turn := ⟨step, users, client⟩
    turn :: turnsAmong turn.usersAfter turn.clientAfter deeds
  | .set setting :: deeds => turnsAmong users (client.set setting).2 deeds

/-- The client behind the deeds. -/
def clientBehind (users : Users) (client : Client) : List Deed → Client
  | [] => client
  | .perform step :: deeds =>
    let turn : Turn := ⟨step, users, client⟩
    clientBehind turn.usersAfter turn.clientAfter deeds
  | .set setting :: deeds => clientBehind users (client.set setting).2 deeds

/-- The attempts behind the deeds, in order. -/
def attemptsOf (users : Users) (client : Client) (deeds : List Deed) : List Attempt :=
  (users.turnsAmong client deeds).flatMap Turn.attempts

/-- The dispatches behind the deeds, in order. -/
def dispatchesOf (users : Users) (client : Client) (deeds : List Deed) : List Dispatch :=
  (users.turnsAmong client deeds).flatMap Turn.dispatches

/-- A change of a setting is counted nowhere, and it changes neither the nodes nor the outcomes to
come. -/
theorem set_uncounted (client : Client) (setting : Setting) :
    (client.set setting).2.metrics = client.metrics ∧
      (client.set setting).2.hosts = client.hosts ∧
      (client.set setting).2.transport.executed = client.transport.executed ∧
      (client.set setting).2.transport.outcome = client.transport.outcome := by
  rcases client.set_cases setting with ⟨checks, taken⟩ | ⟨error, checks, rejected⟩
  · rw [taken]
    exact ⟨rfl, rfl, rfl, rfl⟩
  · rw [rejected]
    exact ⟨rfl, rfl, rfl, rfl⟩

/-- What the deeds come to: the requests of the attempts, their outcomes and nodes, how many of them
fail, and what each number of the registry grows by. -/
structure Spent (users : Users) (client : Client) (deeds : List Deed) : Prop where
  executed : (users.clientBehind client deeds).transport.executed =
    client.transport.executed ++ (users.attemptsOf client deeds).map Attempt.request
  outcomes : (users.attemptsOf client deeds).map Attempt.outcome =
    (List.range (users.attemptsOf client deeds).length).map client.transport.outcome
  hosts : ∀ attempt ∈ users.attemptsOf client deeds, attempt.host ∈ client.hosts
  failed : (users.attemptsOf client deeds).length =
    (users.attemptsOf client deeds).countP (fun attempt => attempt.outcome.NodeFails) +
      (users.dispatchesOf client deeds).countP Dispatch.isAnswered
  reading : ∀ gauge : Gauge, gauge.read (users.clientBehind client deeds).metrics =
    gauge.read client.metrics +
      (gauge.total ((users.attemptsOf client deeds).flatMap Attempt.events) +
        gauge.total ((users.dispatchesOf client deeds).flatMap Dispatch.events) +
        ((users.turnsAmong client deeds).map (Turn.noted gauge)).sum)

/-- By induction on the deeds, a turn adds what it spends and a new configuration adds nothing. -/
theorem deeds_spent (deeds : List Deed) (users : Users) (client : Client) :
    Spent users client deeds := by
  induction deeds generalizing users client with
  | nil =>
      exact ⟨(List.append_nil _).symm, rfl, fun _ none => absurd none List.not_mem_nil, rfl,
        fun _ => rfl⟩
  | cons deed deeds ih =>
      cases deed with
      | set setting =>
          obtain ⟨metrics, hosts, executed, outcomes⟩ := set_uncounted client setting
          obtain ⟨laterExecuted, laterOutcomes, laterHosts, failed, reading⟩ :=
            ih users (client.set setting).2
          rw [executed] at laterExecuted
          rw [outcomes] at laterOutcomes
          rw [hosts] at laterHosts
          rw [metrics] at reading
          exact ⟨laterExecuted, laterOutcomes, laterHosts, failed, reading⟩
      | perform step =>
          have first := client.run_attempted (users.perform step)
          have rest := ih (Turn.usersAfter ⟨step, users, client⟩)
            (Turn.clientAfter ⟨step, users, client⟩)
          have attempts : users.attemptsOf client (.perform step :: deeds) =
              client.attempts (users.perform step) ++
                attemptsOf (Turn.usersAfter ⟨step, users, client⟩)
                  (Turn.clientAfter ⟨step, users, client⟩) deeds :=
            List.flatMap_cons
          have dispatches : users.dispatchesOf client (.perform step :: deeds) =
              client.log (users.perform step) ++
                dispatchesOf (Turn.usersAfter ⟨step, users, client⟩)
                  (Turn.clientAfter ⟨step, users, client⟩) deeds :=
            List.flatMap_cons
          have transport : (Turn.clientAfter ⟨step, users, client⟩).transport =
              client.transport.behind
                ((client.attempts (users.perform step)).map Attempt.request) :=
            first.transport
          constructor
          · rw [clientBehind, rest.executed, transport, attempts, List.map_append,
              ← List.append_assoc]
            rfl
          · have behind := rest.outcomes
            rw [transport] at behind
            rw [attempts]
            exact Client.outcomes_append first.outcomes behind
          · intro attempt member
            rw [attempts] at member
            rcases List.mem_append.mp member with early | late
            · exact first.hosts attempt early
            · rw [← first.nodes]
              exact rest.hosts attempt late
          · rw [attempts, dispatches, List.length_append, List.countP_append, List.countP_append,
              first.failed, rest.failed]
            exact Nat.add_add_add_comm _ _ _ _
          · intro gauge
            have counted : gauge.read (Turn.clientAfter ⟨step, users, client⟩).metrics = _ :=
              (congrArg gauge.read (client.run_counted (users.perform step))).trans
                (gauge.read_foldl _ _)
            have noted := Turn.total_notes gauge ⟨step, users, client⟩
            rw [Turn.notes] at noted
            rw [clientBehind, rest.reading, counted, gauge.total_events, noted, attempts,
              dispatches, turnsAmong, List.map_cons, List.sum_cons, List.flatMap_append,
              List.flatMap_append, gauge.total_append, gauge.total_append]
            omega

/-- No dispatch fails but for want of a node that answers. -/
theorem dispatchesOf_unavailable {users : Users} {client : Client} {deeds : List Deed}
    {dispatch : Dispatch} (member : dispatch ∈ users.dispatchesOf client deeds) :
    dispatch.isUnavailable = !dispatch.isAnswered := by
  obtain ⟨turn, _, logged⟩ := List.mem_flatMap.mp member
  rcases Client.log_replied _ _ dispatch logged with ⟨response, answered⟩ | failed
  · simp only [Dispatch.isUnavailable, Dispatch.isAnswered, answered, Except.isOk, Except.toBool,
      Bool.not_true]
  · simp only [Dispatch.isUnavailable, Dispatch.isAnswered, failed, Except.isOk, Except.toBool,
      Bool.not_false]

/-- Counting what holds is adding ones for it. -/
theorem sum_map_ite {α : Type} (holds : α → Bool) (items : List α) :
    (items.map fun item => if holds item then 1 else 0).sum = items.countP holds := by
  induction items with
  | nil => rfl
  | cons item items ih => rw [List.map_cons, List.sum_cons, ih, List.countP_cons, Nat.add_comm]

theorem sum_map_zero {α : Type} (items : List α) : (items.map fun _ => 0).sum = 0 := by
  rw [List.map_const', List.sum_replicate_nat, Nat.mul_zero]

section Readings

variable {users : Users} {client : Client} {deeds : List Deed}

/-- What a number of the registry is behind deeds that start with an empty one. -/
theorem Spent.read_fresh (spent : Spent users client deeds) (gauge : Gauge)
    (fresh : gauge.read client.metrics = 0) :
    gauge.read (users.clientBehind client deeds).metrics =
      ((users.attemptsOf client deeds).map fun attempt => gauge.total attempt.events).sum +
        ((users.dispatchesOf client deeds).map fun dispatch => gauge.total dispatch.events).sum +
        ((users.turnsAmong client deeds).map (Turn.noted gauge)).sum := by
  rw [spent.reading, fresh, Nat.zero_add, gauge.total_flatMap, gauge.total_flatMap]

/-- The ends of dispatches add nothing to other numbers. -/
theorem sum_dispatches {gauge : Gauge} (other : gauge.covers .clusterUnavailable = false)
    (dispatches : List Dispatch) :
    (dispatches.map fun dispatch => gauge.total dispatch.events).sum = 0 := by
  simp only [Gauge.total_dispatch, other, Bool.false_eq_true, if_false, ite_self, sum_map_zero]

/-- Operations add nothing but by their attempts to numbers of neither batches nor pages. -/
theorem sum_noted {gauge : Gauge} (items : gauge.covers .bulkItems = false)
    (errors : gauge.covers .bulkErrors = false)
    (pages : ∀ name, gauge.covers (.scrollPages name) = false) (turns : List Turn) :
    (turns.map (Turn.noted gauge)).sum = 0 := by
  have nothing : Turn.noted gauge = fun _ => 0 := by
    funext turn
    simp only [Turn.noted, items, errors, pages, Bool.false_eq_true, if_false]
  rw [nothing, sum_map_zero]

/-- Attempts add nothing to a number of neither responses nor failures of nodes. -/
theorem sum_attempts {series : Series} (requests : series.isRequests = false)
    (duration : ∀ method, series ≠ .requestDuration method)
    (failures : series.isHostFailures = false) (attempts : List Attempt) :
    (attempts.map fun attempt => (Gauge.count series).total attempt.events).sum = 0 := by
  simp only [Gauge.total_attempt_other requests duration failures, sum_map_zero]

variable (spent : Spent users client deeds) (fresh : client.metrics = {})
include spent fresh

/-- On a new registry a count is what attempts, dispatches and notes add to it. -/
theorem Spent.count_fresh (series : Series) :
    (users.clientBehind client deeds).metrics.count series =
      ((users.attemptsOf client deeds).map fun attempt =>
          (Gauge.count series).total attempt.events).sum +
        ((users.dispatchesOf client deeds).map fun dispatch =>
          (Gauge.count series).total dispatch.events).sum +
        ((users.turnsAmong client deeds).map (Turn.noted (Gauge.count series))).sum := by
  refine spent.read_fresh (Gauge.count series) ?_
  rw [fresh]
  rfl

/-- On a new registry a sum over several series is what attempts, dispatches and notes add to them.
-/
theorem Spent.sum_fresh (covers : Series → Bool) :
    (users.clientBehind client deeds).metrics.sum covers =
      ((users.attemptsOf client deeds).map fun attempt =>
          (Gauge.sum covers).total attempt.events).sum +
        ((users.dispatchesOf client deeds).map fun dispatch =>
          (Gauge.sum covers).total dispatch.events).sum +
        ((users.turnsAmong client deeds).map (Turn.noted (Gauge.sum covers))).sum := by
  refine spent.read_fresh (Gauge.sum covers) ?_
  rw [fresh]
  rfl

/-- The requests of all methods and statuses are the responses. -/
theorem Spent.responses : (users.clientBehind client deeds).metrics.sum Series.isRequests =
    (users.attemptsOf client deeds).countP fun attempt => attempt.outcome.isAnswer := by
  rw [spent.sum_fresh fresh, sum_dispatches rfl, sum_noted rfl rfl fun _ => rfl, ← sum_map_ite]
  simp only [Gauge.total_attempt_requests, Nat.add_zero]

/-- The time to each response is taken once. -/
theorem Spent.durations (method : String) :
    (users.clientBehind client deeds).metrics.count (.requestDuration method) =
      (users.clientBehind client deeds).metrics.sum (Series.isRequestsOf method) := by
  rw [spent.count_fresh fresh, spent.sum_fresh fresh, sum_dispatches rfl, sum_dispatches rfl,
    sum_noted rfl rfl fun _ => rfl, sum_noted rfl rfl fun _ => rfl]
  simp only [Gauge.total_attempt_duration]

/-- The failures of a node are the attempts there at which it failed. -/
theorem Spent.hostFailures (host : String) :
    (users.clientBehind client deeds).metrics.count (.hostFailures host) =
      (users.attemptsOf client deeds).countP fun attempt =>
        attempt.host = host ∧ attempt.outcome.NodeFails := by
  rw [spent.count_fresh fresh, sum_dispatches rfl, sum_noted rfl rfl fun _ => rfl, ← sum_map_ite]
  simp only [Gauge.total_attempt_hostFailure, Nat.add_zero, decide_eq_true_eq]

/-- All failures of nodes are the attempts that failed. -/
theorem Spent.allFailures :
    (users.clientBehind client deeds).metrics.sum Series.isHostFailures =
      (users.attemptsOf client deeds).countP fun attempt => attempt.outcome.NodeFails := by
  rw [spent.sum_fresh fresh, sum_dispatches rfl, sum_noted rfl rfl fun _ => rfl, ← sum_map_ite]
  simp only [Gauge.total_attempt_hostFailures, Nat.add_zero, decide_eq_true_eq]

/-- The cluster was unavailable once for each dispatch without an answer. -/
theorem Spent.unavailable :
    (users.clientBehind client deeds).metrics.count .clusterUnavailable =
      (users.dispatchesOf client deeds).countP Dispatch.isUnavailable := by
  rw [spent.count_fresh fresh, sum_attempts rfl (fun _ => Series.noConfusion) rfl,
    sum_noted rfl rfl fun _ => rfl, Nat.zero_add, Nat.add_zero, ← sum_map_ite]
  refine congrArg List.sum (List.map_congr_left fun dispatch member => ?_)
  rw [Gauge.total_dispatch, dispatchesOf_unavailable member]
  cases dispatch.isAnswered <;> rfl

/-- Numbers of batches and pages grow only with what operations add besides their attempts. -/
theorem Spent.count_noted {series : Series} (requests : series.isRequests = false)
    (duration : ∀ method, series ≠ .requestDuration method)
    (failures : series.isHostFailures = false) (other : series ≠ .clusterUnavailable) :
    (users.clientBehind client deeds).metrics.count series =
      ((users.turnsAmong client deeds).map (Turn.noted (Gauge.count series))).sum := by
  have uncovered : (Gauge.count series).covers .clusterUnavailable = false :=
    beq_eq_false_iff_ne.mpr (Ne.symm other)
  rw [spent.count_fresh fresh, sum_attempts requests duration failures, sum_dispatches uncovered,
    Nat.zero_add]

/-- The operations are those of the batches that were sent. -/
theorem Spent.bulkItems : (users.clientBehind client deeds).metrics.count .bulkItems =
    ((users.turnsAmong client deeds).map Turn.items).sum := by
  rw [spent.count_noted fresh rfl (fun _ => Series.noConfusion) rfl Series.noConfusion]
  refine congrArg List.sum (List.map_congr_left fun turn _ => ?_)
  simp only [Turn.noted, Gauge.count, beq_self_eq_true, beq_iff_eq, reduceCtorEq, if_true,
    if_false, Nat.add_zero]

/-- The failed operations are those that the senders were told of. -/
theorem Spent.bulkErrors : (users.clientBehind client deeds).metrics.count .bulkErrors =
    ((users.turnsAmong client deeds).map Turn.errors).sum := by
  rw [spent.count_noted fresh rfl (fun _ => Series.noConfusion) rfl Series.noConfusion]
  refine congrArg List.sum (List.map_congr_left fun turn _ => ?_)
  simp only [Turn.noted, Gauge.count, beq_self_eq_true, beq_iff_eq, reduceCtorEq, if_true,
    if_false, Nat.add_zero, Nat.zero_add]

/-- The pages of a variant are those that the sessions of the variant were given. -/
theorem Spent.scrollPages (variant : Variant) :
    (users.clientBehind client deeds).metrics.count (.scrollPages variant.name) =
      ((users.turnsAmong client deeds).map (Turn.pages variant)).sum := by
  rw [spent.count_noted fresh rfl (fun _ => Series.noConfusion) rfl Series.noConfusion]
  refine congrArg List.sum (List.map_congr_left fun turn _ => ?_)
  cases variant <;>
    simp only [Turn.noted, Gauge.count, beq_iff_eq, reduceCtorEq, Series.scrollPages.injEq,
      Variant.name, String.reduceEq, if_true, if_false, Nat.add_zero, Nat.zero_add]

end Readings

/-- What holds of the metrics behind deeds that start with an empty registry. The outcome of each
executed request is the next one of the transport. -/
structure Balanced (users : Users) (client : Client) (deeds : List Deed) : Prop where
  executed : (users.clientBehind client deeds).transport.executed =
    client.transport.executed ++ (users.attemptsOf client deeds).map Attempt.request
  outcomes : (users.attemptsOf client deeds).map Attempt.outcome =
    (List.range (users.attemptsOf client deeds).length).map client.transport.outcome
  hosts : ∀ attempt ∈ users.attemptsOf client deeds, attempt.host ∈ client.hosts
  responses : (users.clientBehind client deeds).metrics.sum Series.isRequests =
    (users.attemptsOf client deeds).countP fun attempt => attempt.outcome.isAnswer
  durations : ∀ method,
    (users.clientBehind client deeds).metrics.count (.requestDuration method) =
      (users.clientBehind client deeds).metrics.sum (Series.isRequestsOf method)
  hostFailures : ∀ host,
    (users.clientBehind client deeds).metrics.count (.hostFailures host) =
      (users.attemptsOf client deeds).countP fun attempt =>
        attempt.host = host ∧ attempt.outcome.NodeFails
  unavailable : (users.clientBehind client deeds).metrics.count .clusterUnavailable =
    (users.dispatchesOf client deeds).countP Dispatch.isUnavailable
  requests : (users.attemptsOf client deeds).length =
    (users.dispatchesOf client deeds).countP Dispatch.isAnswered +
      (users.clientBehind client deeds).metrics.sum Series.isHostFailures
  bulkItems : (users.clientBehind client deeds).metrics.count .bulkItems =
    ((users.turnsAmong client deeds).map Turn.items).sum
  bulkErrors : (users.clientBehind client deeds).metrics.count .bulkErrors =
    ((users.turnsAmong client deeds).map Turn.errors).sum
  scrollPages : ∀ variant : Variant,
    (users.clientBehind client deeds).metrics.count (.scrollPages variant.name) =
      ((users.turnsAmong client deeds).map (Turn.pages variant)).sum

/-- **The metrics account for every request.** -/
theorem metrics_balanced (users : Users) (client : Client) (deeds : List Deed)
    (fresh : client.metrics = {}) : Balanced users client deeds := by
  have spent := deeds_spent deeds users client
  exact
    { executed := spent.executed
      outcomes := spent.outcomes
      hosts := spent.hosts
      responses := spent.responses fresh
      durations := spent.durations fresh
      hostFailures := spent.hostFailures fresh
      unavailable := spent.unavailable fresh
      requests := by rw [spent.allFailures fresh, spent.failed, Nat.add_comm]
      bulkItems := spent.bulkItems fresh
      bulkErrors := spent.bulkErrors fresh
      scrollPages := spent.scrollPages fresh }

/-- Two nodes: a batch behind an overloaded node, a setting, and a scan that no node opens. Of four
requests two get a response, and three nodes fail. -/
theorem metrics_balanced_two_nodes :
    let users : Users :=
      { sessions := fun _ => some { Session.scan 10 "1m" 2 with phase := .ready ⟨"idx", "t", ""⟩ }
        indexers := fun _ => {} }
    let client : Client :=
      { config := { hosts := ["http://a/", "http://b/"] }
        rotation :=
          { endpoints := ["http://a/", "http://b/"]
            current := 1
            failures := 0
            draws := .planned [1]
            current_lt := by decide
            failures_lt := by decide }
        transport :=
          { planned := [.answer { status := 503, body := "" },
              .answer { status := 500, body := "" }] } }
    let deeds : List Deed :=
      [.perform (.bulk 0 ⟨"idx", 1, [⟨.delete, "t", "1", none⟩]⟩), .set (.verifyPeer false),
        .perform (.next 0)]
    client.metrics = {} ∧ Balanced users client deeds ∧
      (users.clientBehind client deeds).metrics.sum Series.isRequests = 2 ∧
      (users.clientBehind client deeds).metrics.sum Series.isHostFailures = 3 :=
  ⟨rfl, metrics_balanced _ _ _ rfl, rfl, rfl⟩

end Users
end ClusterClient
