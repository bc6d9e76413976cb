import ClusterClient.Proofs.Bulk.Accounting
import ClusterClient.Proofs.Client.Attempts
import ClusterClient.Proofs.Scroll.Operation

/-! # What an operation counts

An attempt adds its response to the numbers of the registry, and the failure of its node
(`ClusterClient.Gauge.total_attempt`); a dispatch that no node answers adds one
(`ClusterClient.Gauge.total_dispatch`). What an operation of a user adds besides is the items and
errors of a batch, or the pages that a session accepts (`ClusterClient.Users.Turn.total_notes`).
-/

namespace ClusterClient

open Scroll Bulk

/-- Whether a response arrived. -/
def Outcome.isAnswer : Outcome → Bool
  | .answer _ => true
  | .failure => false

/-- Whether the dispatch failed because no node answered. -/
def Dispatch.isUnavailable (dispatch : Dispatch) : Bool :=
  match dispatch.reply with
  | .error (.unavailable _ _) => true
  | _ => false

namespace Series

/-- Whether a series counts responses. -/
def isRequests : Series → Bool
  | .requests _ _ => true
  | _ => false

/-- Whether a series counts responses to requests of a method. -/
def isRequestsOf (method : String) : Series → Bool
  | .requests name _ => name == method
  | _ => false

/-- Whether a series counts failures of a node. -/
def isHostFailures : Series → Bool
  | .hostFailures _ => true
  | _ => false

end Series

namespace Gauge

variable (gauge : Gauge)

/-- A response adds one to the responses and one sample to the times. -/
theorem amount_response (method : String) (status : Nat) :
    gauge.amount (.response method status) =
      (if gauge.covers (.requests method status) then 1 else 0) +
        if gauge.covers (.requestDuration method) then 1 else 0 :=
  congrArg _ (Nat.add_zero _)

/-- The failure of a node adds one to the failures of that node. -/
theorem amount_hostFailure (host : String) :
    gauge.amount (.hostFailure host) = if gauge.covers (.hostFailures host) then 1 else 0 :=
  Nat.add_zero _

theorem amount_clusterUnavailable :
    gauge.amount .clusterUnavailable = if gauge.covers .clusterUnavailable then 1 else 0 :=
  Nat.add_zero _

/-- A batch adds its operations, and those of them that failed. -/
theorem amount_batch (items errors : Nat) :
    gauge.amount (.batch items errors) =
      (if gauge.covers .bulkItems then items else 0) +
        if gauge.covers .bulkErrors then errors else 0 :=
  congrArg _ (Nat.add_zero _)

/-- A page adds one to the pages of its variant. -/
theorem amount_page (variant : String) :
    gauge.amount (.page variant) = if gauge.covers (.scrollPages variant) then 1 else 0 :=
  Nat.add_zero _

/-- What a response adds to a number: itself, and the time to it. -/
def ofResponse (attempt : Attempt) : Nat :=
  match attempt.outcome with
  | .answer response =>
    (if gauge.covers (.requests attempt.call.method.name response.status) then 1 else 0) +
      if gauge.covers (.requestDuration attempt.call.method.name) then 1 else 0
  | .failure => 0

/-- An attempt adds its response to a number, and the failure of the node. -/
theorem total_attempt (attempt : Attempt) :
    gauge.total attempt.events = gauge.ofResponse attempt +
      if attempt.outcome.NodeFails then
        if gauge.covers (.hostFailures attempt.host) then 1 else 0
      else 0 := by
  unfold Attempt.events ofResponse
  cases came : attempt.outcome with
  | failure =>
      have failed : Outcome.failure.NodeFails := trivial
      rw [if_pos failed, Client.outcomeEvents, total_cons, amount_hostFailure, total_nil,
        Nat.add_zero, Nat.zero_add]
  | answer response =>
      rw [Client.outcomeEvents, total_cons, amount_response]
      congr 1
      by_cases overloaded : response.status = Outcome.unavailableStatus
      · have failed : (Outcome.answer response).NodeFails := overloaded
        rw [if_pos overloaded, if_pos failed, total_cons, amount_hostFailure, total_nil,
          Nat.add_zero]
      · have usable : ¬ (Outcome.answer response).NodeFails := overloaded
        rw [if_neg overloaded, if_neg usable, total_nil]

/-- Of the numbers of responses, an attempt adds to one, and only if a response arrived. -/
theorem total_attempt_requests (attempt : Attempt) :
    (Gauge.sum Series.isRequests).total attempt.events =
      if attempt.outcome.isAnswer then 1 else 0 := by
  rw [total_attempt, ofResponse]
  cases attempt.outcome <;>
    simp only [Gauge.sum, Series.isRequests, Outcome.isAnswer, Bool.false_eq_true, if_true,
      if_false, ite_self]

/-- The time to a response is taken whenever the response is counted. -/
theorem total_attempt_duration (method : String) (attempt : Attempt) :
    (Gauge.count (.requestDuration method)).total attempt.events =
      (Gauge.sum (Series.isRequestsOf method)).total attempt.events := by
  rw [total_attempt, total_attempt, ofResponse, ofResponse]
  cases attempt.outcome <;>
    simp only [Gauge.count, Gauge.sum, Series.isRequestsOf, beq_iff_eq, reduceCtorEq,
      Series.requestDuration.injEq, Bool.false_eq_true, if_false, ite_self, Nat.zero_add,
      Nat.add_zero]

/-- An attempt adds one to the failures of a node if that is the node it went to and the node
failed. -/
theorem total_attempt_hostFailure (host : String) (attempt : Attempt) :
    (Gauge.count (.hostFailures host)).total attempt.events =
      if attempt.host = host ∧ attempt.outcome.NodeFails then 1 else 0 := by
  have silent : (Gauge.count (.hostFailures host)).ofResponse attempt = 0 := by
    rw [ofResponse]
    cases attempt.outcome <;> simp only [Gauge.count, beq_iff_eq, reduceCtorEq, if_false]
  rw [total_attempt, silent, Nat.zero_add]
  by_cases failed : attempt.outcome.NodeFails
  · simp only [failed, if_true, and_true, Gauge.count, beq_iff_eq, Series.hostFailures.injEq]
  · simp only [failed, if_false, and_false]

/-- An attempt adds one to the failures of all nodes if its node failed. -/
theorem total_attempt_hostFailures (attempt : Attempt) :
    (Gauge.sum Series.isHostFailures).total attempt.events =
      if attempt.outcome.NodeFails then 1 else 0 := by
  rw [total_attempt, ofResponse]
  cases attempt.outcome <;>
    simp only [Gauge.sum, Series.isHostFailures, Bool.false_eq_true, if_true, if_false,
      Nat.zero_add, Nat.add_zero]

/-- An attempt adds nothing to a number of anything else. -/
theorem total_attempt_other {series : Series} (noRequests : series.isRequests = false)
    (noDuration : ∀ method, series ≠ .requestDuration method)
    (noFailures : series.isHostFailures = false) (attempt : Attempt) :
    (Gauge.count series).total attempt.events = 0 := by
  rw [total_attempt, ofResponse]
  cases series <;> cases attempt.outcome <;>
    simp_all [Gauge.count, Series.isRequests, Series.isHostFailures]

/-- What the end of a dispatch adds to a number. -/
theorem total_dispatch (dispatch : Dispatch) :
    gauge.total dispatch.events =
      if dispatch.isAnswered then 0 else if gauge.covers .clusterUnavailable then 1 else 0 := by
  obtain ⟨call, reply⟩ := dispatch
  cases reply with
  | ok response => rfl
  | error error => exact (gauge.total_cons _ _).trans gauge.amount_clusterUnavailable

end Gauge

/-- How many responses to the dispatches a session may go on with. -/
def acceptedIn (dispatches : List Dispatch) : Nat :=
  dispatches.countP fun dispatch => (Session.pageOf? dispatch.reply).isSome

/-- Every dispatch of an exchange is answered, or no node has answered it. -/
theorem Client.log_replied {α : Type} (work : Exchange α) (client : Client) :
    ∀ dispatch ∈ client.log work, (∃ response, dispatch.reply = .ok response) ∨
      dispatch.reply = .error (.unavailable dispatch.call.method dispatch.call.path) := by
  induction work generalizing client with
  | done value => exact fun _ none => absurd none List.not_mem_nil
  | send call next ih =>
      refine List.forall_mem_cons.mpr ⟨?_, ih _ _⟩
      exact (client.dispatch_reply call).imp
        (fun ⟨response, answered, _⟩ => ⟨response, answered⟩) id
  | note event next ih => exact ih (client.record event)

namespace Exchange

variable {α β : Type}

/-- An exchange that counts nothing itself. -/
def Quiet (work : Exchange α) : Prop := ∀ client : Client, client.notes work = []

/-- An exchange that itself counts exactly the responses that its session goes on with. -/
def CountsPages (variant : Variant) (work : Exchange α) : Prop :=
  ∀ client : Client,
    client.notes work = List.replicate (acceptedIn (client.log work)) (.page variant.name)

theorem quiet_done (value : α) : (Exchange.done value).Quiet := fun _ => rfl

/-- A call makes no note of its own. -/
theorem quiet_call (method : Method) (path body : String) : (call method path body).Quiet :=
  fun _ => rfl

/-- Work in two parts is quiet if each part is. -/
theorem Quiet.bind {work : Exchange α} {next : α → Exchange β} (first : work.Quiet)
    (rest : ∀ value, (next value).Quiet) : (work >>= next).Quiet := by
  intro client
  rw [Client.notes_bind, first, rest, List.nil_append]

variable {variant : Variant}

theorem countsPages_done (value : α) : (Exchange.done value).CountsPages variant := fun _ => rfl

/-- Work in two parts counts pages if each part does. -/
theorem CountsPages.bind {work : Exchange α} {next : α → Exchange β}
    (first : work.CountsPages variant) (rest : ∀ value, (next value).CountsPages variant) :
    (work >>= next).CountsPages variant := by
  intro client
  rw [Client.notes_bind, Client.log_bind, first, rest, acceptedIn, acceptedIn, acceptedIn,
    List.countP_append, List.replicate_append_replicate]

end Exchange

namespace Scroll.Session

open Exchange

/-- A page that is fetched is counted once, if it is accepted. -/
theorem fetch_countsPages (session : Session) (path body : String) :
    (session.fetch path body).CountsPages session.variant := by
  intro client
  cases replied : (client.dispatch ⟨.post, path, body⟩).1 with
  | error error =>
      simp only [fetch, call, send_bind, done_bind, pure_eq, Client.notes, Client.log, replied]
      rfl
  | ok response =>
      cases accepted : accepted? response with
      | none =>
          simp only [fetch, call, send_bind, done_bind, pure_eq, Client.notes, Client.log, replied,
            accepted, acceptedIn, List.countP_singleton, pageOf?]
          rfl
      | some page =>
          simp only [fetch, call, count, send_bind, note_bind, done_bind, pure_eq, Client.notes,
            Client.log, replied, accepted, acceptedIn, List.countP_singleton, pageOf?]
          rfl

/-- Going on behind a cursor counts the page that comes. -/
theorem proceed_countsPages (session : Session) (search : Search) (cursor : String) :
    (session.proceed search cursor).CountsPages session.variant := by
  refine (session.fetch_countsPages _ _).bind fun page => ?_
  cases page with
  | none => exact countsPages_done _
  | some page => exact countsPages_done _

/-- A request for a page counts each response that the session goes on with, the one that opens a
scan included. -/
theorem next_countsPages (session : Session) : session.next.CountsPages session.variant := by
  unfold next
  cases session.phase with
  | idle => exact countsPages_done _
  | started search cursor => exact session.proceed_countsPages search cursor
  | ready search =>
      refine (session.fetch_countsPages _ _).bind fun page => ?_
      cases page with
      | none => exact countsPages_done _
      | some page =>
          have continued := (session.behind search page).proceed_countsPages search page.cursor
          change CountsPages session.variant _ at continued
          cases variant : session.variant with
          | standard => exact countsPages_done _
          | scan =>
              rw [variant] at continued
              exact continued

/-- Giving a cursor back makes no note. -/
theorem releaseOwn_quiet (session : Session) : session.releaseOwn.Quiet := by
  unfold releaseOwn
  cases session.cursor? with
  | none => exact quiet_done _
  | some cursor => exact (quiet_call _ _ _).bind fun _ => quiet_done _

/-- Discarding a session makes no note. -/
theorem drop_quiet (session : Session) (locked : Bool) : (session.drop locked).Quiet := by
  cases locked with
  | true => exact quiet_done _
  | false => exact session.releaseOwn_quiet

end Scroll.Session

/-- A request for a document makes no note, refused or not. -/
theorem Documents.callAt_quiet (method : Method) (path : Except ClientError String)
    (body : String) : (callAt method path body).Quiet := by
  cases path with
  | error error => exact Exchange.quiet_done _
  | ok path => exact Exchange.quiet_call _ _ _

namespace Users

open Exchange

/-- A turn with a session is as quiet as the work with it, and a turn without one is quiet. -/
theorem withSession_quiet (users : Users) (user : Nat)
    {work : Session → Exchange (Answer × Option Session)}
    (quiet : ∀ session, (work session).Quiet) :
    (users.withSession user work).Quiet := by
  unfold withSession
  cases users.sessions user with
  | none => exact quiet_done _
  | some session => exact (quiet session).bind fun _ => quiet_done _

namespace Turn

/-- The attempts of the operation. -/
def attempts (turn : Turn) : List Attempt := turn.client.attempts (turn.users.perform turn.step)

/-- What the operation itself counts. -/
def notes (turn : Turn) : List Event := turn.client.notes (turn.users.perform turn.step)

/-- How many operations of a batch are sent. -/
def items (turn : Turn) : Nat :=
  match turn.step with
  | .bulk _ batch => batch.operations.length
  | _ => 0

/-- The count of failed operations that a batch gives back. -/
def errors (turn : Turn) : Nat :=
  match turn.step, turn.answer with
  | .bulk _ _, .failed count => count
  | _, _ => 0

/-- How many responses a session of the given variant goes on with. -/
def pages (variant : Variant) (turn : Turn) : Nat :=
  match turn.step with
  | .next user =>
    match turn.users.sessions user with
    | some session => if session.variant = variant then acceptedIn turn.dispatches else 0
    | none => 0
  | _ => 0

/-- What an operation adds to a number besides its attempts: the items and errors of a batch, and
the pages of a session. -/
def noted (gauge : Gauge) (turn : Turn) : Nat :=
  (if gauge.covers .bulkItems then turn.items else 0) +
    (if gauge.covers .bulkErrors then turn.errors else 0) +
    (if gauge.covers (.scrollPages Variant.standard.name) then turn.pages .standard else 0) +
    if gauge.covers (.scrollPages Variant.scan.name) then turn.pages .scan else 0

/-- A turn that makes no note adds nothing. -/
theorem total_notes_quiet (gauge : Gauge) {turn : Turn}
    (quiet : (turn.users.perform turn.step).Quiet) (items : turn.items = 0)
    (errors : turn.errors = 0) (pages : ∀ variant, turn.pages variant = 0) :
    gauge.total turn.notes = turn.noted gauge := by
  rw [notes, quiet, noted, items, errors, pages, pages]
  simp only [Gauge.total_nil, ite_self, Nat.add_zero]

/-- A batch adds what its turn sent and what failed of it. -/
theorem total_notes_bulk (gauge : Gauge) (users : Users) (client : Client) (user : Nat)
    (batch : Batch) :
    gauge.total (notes ⟨.bulk user batch, users, client⟩) =
      noted gauge ⟨.bulk user batch, users, client⟩ := by
  by_cases none : batch.operations = []
  · have nothing := perform_bulk_nothing users user none
    simp only [notes, noted, items, errors, pages, answer, nothing, none, Client.notes,
      Client.run_done, List.length_nil, Gauge.total_nil, ite_self, Nat.add_zero]
  · have sent := perform_bulk_sent users user none
    simp only [notes, noted, items, errors, pages, answer, sent, Client.notes, Client.run_send,
      Client.run_note, Client.run_done, Gauge.total_cons, Gauge.total_nil, Gauge.amount_batch,
      ite_self, Nat.add_zero]
    rfl

/-- A request for a page adds the pages that came. -/
theorem total_notes_next (gauge : Gauge) (users : Users) (client : Client) (user : Nat) :
    gauge.total (notes ⟨.next user, users, client⟩) = noted gauge ⟨.next user, users, client⟩ := by
  cases found : users.sessions user with
  | none =>
      have nothing : users.perform (.next user) = .done (.nothing, users) := by
        rw [perform, withSession, found]
      simp only [notes, noted, items, errors, pages, found, nothing, Client.notes,
        Gauge.total_nil, ite_self, Nat.add_zero]
  | some session =>
      have counted : notes ⟨.next user, users, client⟩ =
          List.replicate (acceptedIn (dispatches ⟨.next user, users, client⟩))
            (.page session.variant.name) := by
        simp only [notes, dispatches, perform, withSession, found]
        exact (session.next_countsPages.bind fun _ => countsPages_done _).bind
          (fun _ => countsPages_done _) client
      rw [counted, Gauge.total, List.map_replicate, List.sum_replicate_nat, Gauge.amount_page]
      simp only [noted, items, errors, pages, found, ite_self, Nat.zero_add]
      cases session.variant with
      | standard =>
          simp only [if_true, reduceCtorEq, if_false, ite_self, mul_ite, Nat.mul_one, Nat.mul_zero,
            Nat.add_zero]
      | scan =>
          simp only [if_true, reduceCtorEq, if_false, ite_self, mul_ite, Nat.mul_one, Nat.mul_zero,
            Nat.zero_add]

/-- Only batches and requests for pages count anything themselves. -/
theorem total_notes (gauge : Gauge) (turn : Turn) :
    gauge.total turn.notes = turn.noted gauge := by
  obtain ⟨step, users, client⟩ := turn
  cases step with
  | bulk user batch => exact total_notes_bulk gauge users client user batch
  | next user => exact total_notes_next gauge users client user
  | request call =>
      exact total_notes_quiet gauge ((quiet_call _ _ _).bind fun _ => quiet_done _) rfl rfl
        fun _ => rfl
  | search index docType body routing =>
      exact total_notes_quiet gauge ((quiet_call _ _ _).bind fun _ => quiet_done _) rfl rfl
        fun _ => rfl
  | get index docType id routing =>
      exact total_notes_quiet gauge ((Documents.callAt_quiet _ _ _).bind fun _ => quiet_done _) rfl
        rfl fun _ => rfl
  | index index docType id body routing =>
      exact total_notes_quiet gauge ((Documents.callAt_quiet _ _ _).bind fun _ => quiet_done _) rfl
        rfl fun _ => rfl
  | remove index docType id routing =>
      exact total_notes_quiet gauge ((Documents.callAt_quiet _ _ _).bind fun _ => quiet_done _) rfl
        rfl fun _ => rfl
  | init user search =>
      refine total_notes_quiet gauge (users.withSession_quiet user fun session => ?_) rfl rfl
        fun _ => rfl
      exact (session.releaseOwn_quiet.bind fun _ => quiet_done _).bind fun _ => quiet_done _
  | clear user =>
      refine total_notes_quiet gauge (users.withSession_quiet user fun session => ?_) rfl rfl
        fun _ => rfl
      exact (session.releaseOwn_quiet.bind fun _ => quiet_done _).bind fun _ => quiet_done _
  | drop user locked =>
      refine total_notes_quiet gauge (users.withSession_quiet user fun session => ?_) rfl rfl
        fun _ => rfl
      exact (session.drop_quiet locked).bind fun _ => quiet_done _

end Turn

end Users
end ClusterClient
