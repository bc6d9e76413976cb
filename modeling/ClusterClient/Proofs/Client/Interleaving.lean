import ClusterClient.Proofs.Client.Failover
import ClusterClient.Proofs.Client.Shared
import Mathlib.Data.List.Induction

/-! # Exchanges that take turns on one client

A client is locked for one dispatch at a time, so several exchanges on it take turns in any order.
`Sharing` keeps what each user has left to do and which dispatches were made by whom. What a user
does depends on nothing but the replies to its own dispatches: a user alone on a client that gives
the same replies is at the same point behind them (`ClusterClient.Exchange.Leads.alone`).
-/

namespace ClusterClient

namespace Exchange

variable {α : Type}

/-- The given dispatches lead from an exchange to what is left of it. At each request the client is
in any state at all. -/
inductive Leads : Exchange α → List Dispatch → Exchange α → Prop where
  | stay (work : Exchange α) : Leads work [] work
  | send {call : Call} {next : Reply → Exchange α} {log : List Dispatch} {left : Exchange α}
      (client : Client) (later : Leads (next (client.dispatch call).1) log left) :
      Leads (.send call next) (⟨call, (client.dispatch call).1⟩ :: log) left
  | note {event : Event} {next left : Exchange α} {log : List Dispatch}
      (later : Leads next log left) : Leads (.note event next) log left

variable {work middle left : Exchange α} {log first second : List Dispatch}

/-- Work that leads on twice leads on with the dispatches of both times. -/
theorem Leads.trans (before : Leads work first middle) (behind : Leads middle second left) :
    Leads work (first ++ second) left := by
  induction before with
  | stay => exact behind
  | send client _ ih => exact .send client (ih behind)
  | note _ ih => exact .note (ih behind)

/-- What is left is the rest of a whole run. -/
theorem Leads.run {value : α} (before : Leads work first left) (rest : left.Run second value) :
    work.Run (first ++ second) value := by
  induction before with
  | stay => exact rest
  | send client _ ih => exact .send client (ih rest)
  | note _ ih => exact .note (ih rest)

/-- **The replies are all that counts.** On every client that gives the same replies, an exchange
makes the same dispatches and goes on in the same way. -/
theorem Leads.alone (leads : Leads work log left) (client : Client)
    (same : log.map Dispatch.reply <+: (client.log work).map Dispatch.reply) :
    ∃ behind : Client, client.log work = log ++ behind.log left ∧
      client.run work = behind.run left := by
  induction leads generalizing client with
  | stay => exact ⟨client, rfl, rfl⟩
  | @send call next log left served later ih =>
      obtain ⟨first, rest⟩ := List.cons_prefix_cons.mp same
      change (served.dispatch call).1 = (client.dispatch call).1 at first
      rw [← first] at rest
      obtain ⟨behind, dispatches, value⟩ := ih (client.dispatch call).2 rest
      refine ⟨behind, ?_, ?_⟩
      · rw [Client.log, ← first, dispatches, List.cons_append]
      · rw [Client.run_send, ← first, value]
  | @note event next left log later ih => exact ih (client.record event) same

/-- There is a client that gives the same replies: a single node whose outcomes are the ends of the
dispatches. -/
theorem Leads.single (leads : Leads work log left) (single : Client) {host : String}
    (alone : single.hosts = [host]) (later : List Outcome)
    (planned : single.transport.planned = log.map Dispatch.outcome ++ later) :
    log.map Dispatch.reply <+: (single.log work).map Dispatch.reply := by
  induction leads generalizing single with
  | stay => exact List.nil_prefix
  | @send call next log left served rest ih =>
      have first : single.transport.outcome 0 =
          Dispatch.outcome ⟨call, (served.dispatch call).1⟩ := by
        rw [Transport.outcome, planned]
        rfl
      have reply := Client.dispatch_single_reply alone call first
      obtain ⟨transport, _⟩ := Client.dispatch_single alone call
      have still : (single.dispatch call).2.hosts = [host] :=
        (Client.dispatch_sent single call).1.trans alone
      have behind : (single.dispatch call).2.transport.planned =
          log.map Dispatch.outcome ++ later := by
        rw [transport, Transport.behind, planned]
        rfl
      rw [Client.log, reply]
      exact List.cons_prefix_cons.mpr ⟨rfl, ih _ still behind⟩
  | @note event next left log rest ih => exact ih (single.record event) alone planned

end Exchange

/-- A client that several users share: what each of them has left to do, and the dispatches so far,
each with the user that made it. -/
structure Sharing (ι α : Type) where
  client : Client
  left : ι → Exchange α
  log : List (ι × Dispatch) := []

namespace Sharing

variable {ι α : Type} [DecidableEq ι]

/-- A user has made dispatches, behind which the client and what the user has left are the given
ones. -/
def goOn (sharing : Sharing ι α) (user : ι) (client : Client) (work : Exchange α)
    (sent : List Dispatch) : Sharing ι α where
  client := client
  left := Function.update sharing.left user work
  log := sharing.log ++ sent.map fun dispatch => (user, dispatch)

/-- One step of a user. The client is locked for a whole dispatch. -/
def turn (sharing : Sharing ι α) (user : ι) : Sharing ι α :=
  match sharing.left user with
  | .done _ => sharing
  | .send call next =>
    let (reply, client) := sharing.client.dispatch call
    sharing.goOn user client (next reply) [⟨call, reply⟩]
  | .note event next => sharing.goOn user (sharing.client.record event) next []

/-- The steps of users that take turns in the given order. -/
def schedule (sharing : Sharing ι α) (order : List ι) : Sharing ι α := order.foldl turn sharing

/-- The dispatches of one user. -/
def logOf (sharing : Sharing ι α) (user : ι) : List Dispatch :=
  (sharing.log.filter fun entry => entry.1 = user).map Prod.snd

variable (sharing : Sharing ι α) {user other : ι} (client : Client) (work : Exchange α)
  (sent : List Dispatch)

theorem left_goOn (user : ι) : (sharing.goOn user client work sent).left user = work :=
  Function.update_self ..

theorem left_goOn_of_ne (different : other ≠ user) :
    (sharing.goOn user client work sent).left other = sharing.left other :=
  Function.update_of_ne different ..

/-- The dispatches of a turn are those of the user whose turn it is. -/
theorem logOf_goOn (user : ι) :
    (sharing.goOn user client work sent).logOf user = sharing.logOf user ++ sent := by
  have own : (sent.map fun dispatch => (user, dispatch)).filter (fun entry => entry.1 = user) =
      sent.map fun dispatch => (user, dispatch) := by
    rw [List.filter_eq_self]
    intro entry member
    obtain ⟨dispatch, _, rfl⟩ := List.mem_map.mp member
    exact decide_eq_true rfl
  rw [logOf, goOn, List.filter_append, List.map_append, own, List.map_map]
  exact congrArg _ (List.map_id sent)

/-- The dispatches of a turn are those of no other user. -/
theorem logOf_goOn_of_ne (different : other ≠ user) :
    (sharing.goOn user client work sent).logOf other = sharing.logOf other := by
  have foreign : (sent.map fun dispatch => (user, dispatch)).filter
      (fun entry => entry.1 = other) = [] := by
    rw [List.filter_eq_nil_iff]
    intro entry member
    obtain ⟨dispatch, _, rfl⟩ := List.mem_map.mp member
    exact fun same => different (of_decide_eq_true same).symm
  rw [logOf, goOn, List.filter_append, foreign, List.append_nil]
  rfl

/-- A user who has finished has an empty turn. -/
theorem turn_done {value : α} (left : sharing.left user = .done value) :
    sharing.turn user = sharing := by
  simp only [turn, left]

/-- A user who is at a call has it dispatched in a turn of their own. -/
theorem turn_send {call : Call} {next : Reply → Exchange α}
    (left : sharing.left user = .send call next) :
    sharing.turn user =
      sharing.goOn user (sharing.client.dispatch call).2 (next (sharing.client.dispatch call).1)
        [⟨call, (sharing.client.dispatch call).1⟩] := by
  simp only [turn, left]

/-- A user who is at an event has it recorded. -/
theorem turn_note {event : Event} {next : Exchange α}
    (left : sharing.left user = .note event next) :
    sharing.turn user = sharing.goOn user (sharing.client.record event) next [] := by
  simp only [turn, left]

theorem schedule_cons (user : ι) (order : List ι) :
    sharing.schedule (user :: order) = (sharing.turn user).schedule order := rfl

theorem schedule_concat (user : ι) (order : List ι) :
    sharing.schedule (order ++ [user]) = (sharing.schedule order).turn user :=
  List.foldl_concat ..

/-- Going on changes nothing for the other users. -/
theorem goOn_leads (leads : (sharing.left user).Leads sent work) (other : ι) :
    ∃ added, (sharing.goOn user client work sent).logOf other = sharing.logOf other ++ added ∧
      (sharing.left other).Leads added ((sharing.goOn user client work sent).left other) := by
  by_cases own : other = user
  · subst own
    rw [left_goOn, logOf_goOn]
    exact ⟨sent, rfl, leads⟩
  · rw [sharing.left_goOn_of_ne client work sent own, sharing.logOf_goOn_of_ne client work sent own]
    exact ⟨[], (List.append_nil _).symm, .stay _⟩

/-- **One turn.** It adds a step to the user whose turn it is and changes nothing for the others. -/
theorem turn_leads (user other : ι) :
    ∃ added, (sharing.turn user).logOf other = sharing.logOf other ++ added ∧
      (sharing.left other).Leads added ((sharing.turn user).left other) := by
  cases left : sharing.left user with
  | done value =>
      rw [sharing.turn_done left]
      exact ⟨[], (List.append_nil _).symm, .stay _⟩
  | send call next =>
      rw [sharing.turn_send left]
      refine sharing.goOn_leads _ _ _ ?_ other
      rw [left]
      exact .send sharing.client (.stay _)
  | note event next =>
      rw [sharing.turn_note left]
      refine sharing.goOn_leads _ _ _ ?_ other
      rw [left]
      exact .note (.stay _)

/-- Whatever the order of the turns, what a user has left is what its own dispatches lead to. -/
theorem schedule_leads (order : List ι) (user : ι) :
    ∃ added, (sharing.schedule order).logOf user = sharing.logOf user ++ added ∧
      (sharing.left user).Leads added ((sharing.schedule order).left user) := by
  induction order generalizing sharing with
  | nil => exact ⟨[], (List.append_nil _).symm, .stay _⟩
  | cons first order ih =>
      obtain ⟨added, log, leads⟩ := sharing.turn_leads first user
      obtain ⟨more, later, rest⟩ := ih (sharing.turn first)
      refine ⟨added ++ more, ?_, leads.trans rest⟩
      rw [schedule_cons, later, log, List.append_assoc]

/-- Between turns no failure is counted and the nodes stay the same. -/
theorem schedule_fresh (order : List ι) (fresh : sharing.client.rotation.failures = 0) :
    (sharing.schedule order).client.rotation.failures = 0 ∧
      (sharing.schedule order).client.hosts = sharing.client.hosts := by
  induction order generalizing sharing with
  | nil => exact ⟨fresh, rfl⟩
  | cons user order ih =>
      rw [schedule_cons]
      cases left : sharing.left user with
      | done value =>
          rw [sharing.turn_done left]
          exact ih sharing fresh
      | send call next =>
          obtain ⟨last, run⟩ := Client.dispatch_run call sharing.client
          rw [sharing.turn_send left]
          obtain ⟨still, hosts⟩ := ih (sharing.goOn user _ _ _) run.failures
          exact ⟨still, hosts.trans run.endpoints⟩
      | note event next =>
          rw [sharing.turn_note left]
          exact ih (sharing.goOn user _ _ _) fresh

/-- The turn of a user makes a dispatch, with the reply of the client as it is then. -/
structure Makes (user : ι) (dispatch : Dispatch) : Prop where
  reply : dispatch.reply = (sharing.client.dispatch dispatch.call).1
  client : (sharing.turn user).client = (sharing.client.dispatch dispatch.call).2
  log : (sharing.turn user).log = sharing.log ++ [(user, dispatch)]

/-- A turn adds at most one dispatch to the log, and that is one of the user whose turn it is. -/
theorem turn_log (user : ι) :
    (sharing.turn user).log = sharing.log ∨ ∃ dispatch, sharing.Makes user dispatch := by
  cases left : sharing.left user with
  | done value => exact .inl (congrArg Sharing.log (sharing.turn_done left))
  | note event next =>
      rw [sharing.turn_note left]
      exact .inl (List.append_nil _)
  | send call next =>
      have turned := sharing.turn_send left
      exact .inr ⟨⟨call, _⟩, rfl, congrArg Sharing.client turned, congrArg Sharing.log turned⟩

/-- Each dispatch was made in a turn of its user, behind the dispatches before it. -/
theorem schedule_made (order : List ι) (unused : sharing.log = [])
    {before later : List (ι × Dispatch)} {dispatch : Dispatch}
    (split : (sharing.schedule order).log = before ++ (user, dispatch) :: later) :
    ∃ earlier, earlier ++ [user] <+: order ∧ (sharing.schedule earlier).log = before ∧
      (sharing.schedule earlier).Makes user dispatch := by
  induction order using List.reverseRecOn generalizing later with
  | nil =>
      have none := unused.symm.trans split
      cases before with
      | nil => cases none
      | cons first before => cases none
  | append_singleton order last ih =>
      have longer : order <+: order ++ [last] := List.prefix_append ..
      rw [schedule_concat] at split
      rcases (sharing.schedule order).turn_log last with same | ⟨made, makes⟩
      · obtain ⟨earlier, turns, made⟩ := ih (same.symm.trans split)
        exact ⟨earlier, turns.trans longer, made⟩
      · have added := makes.log.symm.trans split
        rcases List.eq_nil_or_concat' later with rfl | ⟨later, entry, rfl⟩
        · obtain ⟨same, entry⟩ := List.append_inj' added rfl
          cases entry
          exact ⟨order, List.prefix_rfl, same, makes⟩
        · rw [← List.cons_append, ← List.append_assoc] at added
          obtain ⟨earlier, turns, made⟩ := ih (List.append_inj' added rfl).1
          exact ⟨earlier, turns.trans longer, made⟩

/-- **One user at a time.** A user whose turns follow each other does what it does alone on the
client. -/
theorem schedule_serial (user : ι) :
    ∃ count,
      (sharing.schedule (List.replicate count user)).left user =
          .done (sharing.client.run (sharing.left user)).1 ∧
        (sharing.schedule (List.replicate count user)).client =
          (sharing.client.run (sharing.left user)).2 ∧
        (sharing.schedule (List.replicate count user)).logOf user =
          sharing.logOf user ++ sharing.client.log (sharing.left user) := by
  generalize start : sharing.left user = rest
  induction rest generalizing sharing with
  | done value => exact ⟨0, start, rfl, (List.append_nil _).symm⟩
  | send call next ih =>
      have turned := sharing.turn_send start
      obtain ⟨count, left, client, log⟩ := ih (sharing.client.dispatch call).1 (sharing.turn user)
        (by rw [turned, left_goOn])
      have served : (sharing.turn user).client = (sharing.client.dispatch call).2 := by
        rw [turned]
        rfl
      rw [served] at left client log
      refine ⟨count + 1, left, client, log.trans ?_⟩
      rw [turned, logOf_goOn, List.append_assoc]
      rfl
  | note event next ih =>
      have turned := sharing.turn_note start
      obtain ⟨count, left, client, log⟩ := ih (sharing.turn user) (by rw [turned, left_goOn])
      have recorded : (sharing.turn user).client = sharing.client.record event := by
        rw [turned]
        rfl
      rw [recorded] at left client log
      refine ⟨count + 1, left, client, log.trans ?_⟩
      rw [turned, logOf_goOn, List.append_nil]
      rfl

end Sharing
end ClusterClient
