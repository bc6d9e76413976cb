import ClusterClient.Proofs.Client.Attempts

/-! # Behind the plan

The outcomes of a transport are planned up to some request, and from then on one outcome stands for
all of them. A dispatch that stays within the plan takes at least one outcome from it; one that does
not gets the reply that the standing outcome leads to, as every dispatch behind it does. So the
requests that are executed or still planned become more only by dispatches with the standing reply
(`ClusterClient.Client.run_plan`).
-/

namespace ClusterClient

/-- The reply to a call whose requests all come to the given outcome. -/
def Outcome.reply (outcome : Outcome) (call : Call) : Reply :=
  match outcome.accepted? with
  | some response => .ok response
  | none => .error (.unavailable call.method call.path)

/-- How many requests a dispatch takes whose requests all come to the given outcome, if there are as
many nodes to try. -/
def Outcome.cost (outcome : Outcome) (nodes : Nat) : Nat :=
  match outcome.accepted? with
  | some _ => 1
  | none => nodes

/-- How many requests are executed or planned. -/
def Transport.foreseen (t : Transport) : Nat := t.executed.length + t.planned.length

/-- Requests add to what is foreseen only as far as they go beyond the plan. -/
theorem Transport.foreseen_behind (t : Transport) (requests : List Request) :
    (t.behind requests).foreseen = t.foreseen + (requests.length - t.planned.length) := by
  simp only [foreseen, behind, List.length_append, List.length_drop]
  omega

/-- Behind the plan the standing outcome is the next one. -/
theorem Transport.outcome_behind_plan (t : Transport) {index : Nat}
    (unplanned : t.planned.length ≤ index) : t.outcome index = t.standing := by
  rw [outcome, List.getD_eq_getElem?_getD, List.getElem?_eq_none unplanned, Option.getD_none]

namespace Client

variable {α : Type}

/-- Where a dispatch leaves the plan: within it, or at its end with the standing reply. -/
inductive DispatchPlan (client : Client) (call : Call) (reply : Reply) (after : Client) : Prop where
  | within (foreseen : after.transport.foreseen = client.transport.foreseen)
      (taken : after.transport.planned.length < client.transport.planned.length)
  | beyond (reply : reply = client.transport.standing.reply call)
      (foreseen : after.transport.foreseen ≤
        client.transport.foreseen + client.transport.standing.cost client.hosts.length)
      (ended : after.transport.planned = [])

/-- **One dispatch.** The first request behind the plan that the standing outcome answers is the
last one of its dispatch. -/
theorem dispatch_plan (client : Client) (call : Call) :
    DispatchPlan client call (client.dispatch call).1 (client.dispatch call).2 := by
  obtain ⟨last, run⟩ := dispatch_run call client
  have foreseen : (client.dispatch call).2.transport.foreseen =
      client.transport.foreseen + (last + 1 - client.transport.planned.length) := by
    rw [run.transport, Transport.foreseen_behind, List.length_map, List.length_range]
  have left : (client.dispatch call).2.transport.planned.length =
      client.transport.planned.length - (last + 1) := by
    rw [run.transport, Transport.behind, List.length_drop, List.length_map, List.length_range]
  by_cases planned : last + 1 ≤ client.transport.planned.length
  · refine .within ?_ ?_
    · rw [foreseen, Nat.sub_eq_zero_of_le planned, Nat.add_zero]
    · rw [left]
      omega
  · have ended : (client.dispatch call).2.transport.planned = [] :=
      List.eq_nil_of_length_eq_zero (by omega)
    have standing : client.transport.outcome last = client.transport.standing :=
      client.transport.outcome_behind_plan (by omega)
    have ending := run.ending
    generalize (client.dispatch call).1 = reply at ending
    cases ending with
    | answered accepted _ _ =>
        rw [standing] at accepted
        have first : last = client.transport.planned.length := by
          by_contra later
          have failed := run.failed client.transport.planned.length (by omega)
          rw [client.transport.outcome_behind_plan le_rfl] at failed
          exact Outcome.not_nodeFails_of_accepted accepted failed
        refine .beyond ?_ ?_ ended
        · rw [Outcome.reply, accepted]
        · simp only [foreseen, Outcome.cost, accepted]
          omega
    | exhausted _ failed _ =>
        rw [standing, ← Outcome.accepted?_eq_none_iff] at failed
        have room := run.last_lt
        have most : client.rotation.remaining ≤ client.hosts.length := Nat.sub_le _ _
        refine .beyond ?_ ?_ ended
        · rw [Outcome.reply, failed]
        · simp only [foreseen, Outcome.cost, failed]
          omega

/-- What becomes of the plan in a run with the given dispatches: those within it each take an
outcome of it, and those behind it get the standing reply. -/
structure RunPlan (client : Client) (within beyond : List Dispatch) (after : Client) : Prop where
  replies : ∀ dispatch ∈ beyond,
    dispatch.reply = client.transport.standing.reply dispatch.call
  taken : within.length + after.transport.planned.length ≤ client.transport.planned.length
  foreseen : after.transport.foreseen ≤ client.transport.foreseen +
    beyond.length * client.transport.standing.cost client.hosts.length

/-- An exchange changes neither the nodes nor the standing outcome. -/
theorem run_standing (work : Exchange α) (client : Client) :
    (client.run work).2.transport.standing = client.transport.standing ∧
      (client.run work).2.hosts = client.hosts := by
  have attempted := run_attempted work client
  refine ⟨?_, attempted.nodes⟩
  rw [attempted.transport]
  rfl

/-- **A run and its plan.** By induction on the exchange: once a dispatch has gone behind the plan,
nothing is planned for the later ones. -/
theorem run_plan (work : Exchange α) (client : Client) :
    ∃ within beyond, client.log work = within ++ beyond ∧
      RunPlan client within beyond (client.run work).2 := by
  induction work generalizing client with
  | done value =>
      exact ⟨[], [], rfl, List.forall_mem_nil _, (Nat.zero_add _).le, Nat.le_add_right _ _⟩
  | send call next ih =>
      obtain ⟨within, beyond, rest, plan⟩ := ih (client.dispatch call).1 (client.dispatch call).2
      obtain ⟨hosts, requests, transport, _⟩ := dispatch_sent client call
      have standing : (client.dispatch call).2.transport.standing = client.transport.standing := by
        rw [transport]
        rfl
      obtain ⟨replies, taken, foreseen⟩ := plan
      rw [standing] at replies foreseen
      rw [hosts] at foreseen
      rw [log, rest, run_send]
      cases client.dispatch_plan call with
      | within same fewer =>
          refine ⟨_ :: within, beyond, rfl, replies, ?_, ?_⟩
          · rw [List.length_cons]
            omega
          · rwa [same] at foreseen
      | beyond reply more ended =>
          rw [ended, List.length_nil] at taken
          have nothing : within = [] := List.eq_nil_of_length_eq_zero (by omega)
          subst nothing
          refine ⟨[], _ :: beyond, rfl, List.forall_mem_cons.mpr ⟨reply, replies⟩, ?_, ?_⟩
          · rw [List.length_nil] at taken ⊢
            omega
          · rw [List.length_cons, Nat.succ_mul]
            omega
  | note event next ih =>
      obtain ⟨within, beyond, rest, plan⟩ := ih (client.record event)
      exact ⟨within, beyond, rest, plan.replies, plan.taken, plan.foreseen⟩

end Client
end ClusterClient
