import ClusterClient.Bulk.Indexer
import ClusterClient.Proofs.Client.Interleaving
import ClusterClient.Proofs.Scroll.Release

/-! # Users of a client do not interfere

Sessions of scrolling and senders of batches share a client, and their dispatches follow each other
in any order, those of other users also between the two that open a scan. Each of them does what it
does alone on a client that gives it the same replies, a session names only cursors that were issued
to itself, and every dispatch may try all nodes whatever the others have met
(`ClusterClient.Participant.independent`).
-/

namespace ClusterClient

/-- What a user does with an object of its own, operation by operation. The next one may depend on
the answer to the one before. -/
inductive Script (Operation Answer : Type) where
  | ended
  | act (operation : Operation) (next : Answer → Script Operation Answer)

/-- Carries out the operations of a script, with their answers. -/
def Script.carryOut {State Operation Answer : Type}
    (perform : State → Operation → Exchange (Answer × State)) :
    Script Operation Answer → State → Exchange (List Answer × State)
  | .ended, state => .done ([], state)
  | .act operation next, state => do
    let (answer, state) ← perform state operation
    let (answers, state) ← (next answer).carryOut perform state
    return (answer :: answers, state)

namespace Scroll

/-- The dispatch that happens. -/
def Happening.dispatch? : Happening → Option Dispatch
  | .sent dispatch => some dispatch
  | .did _ => none

/-- A dispatch of a session continues behind a cursor or gives it back. -/
def Names (ttl : String) (dispatch : Dispatch) (cursor : String) : Prop :=
  (dispatch.call.method = .post ∧ dispatch.call.path = "_search/scroll?scroll=" ++ ttl ∧
      Json.parse? dispatch.call.body = some (.object [("scroll_id", .text cursor)])) ∨
    (dispatch.call.method = .delete ∧ dispatch.call.path = "_search/scroll/" ∧
      Json.parse? dispatch.call.body = some (.object [("scroll_id", .array [.text cursor])]))

/-- A reply to one of the dispatches was accepted and named the cursor. -/
def Issued (dispatches : List Dispatch) (cursor : String) : Prop :=
  ∃ dispatch ∈ dispatches, ∃ page, Session.pageOf? dispatch.reply = some page ∧
    page.cursor = cursor

variable {start session final : Session} {log before later : List Dispatch}
  {happenings : List Happening} {dispatch : Dispatch} {cursor : String}

/-- The dispatches among what happens are all of those that were sent. -/
theorem dispatches_sent (log : List Dispatch) :
    (log.map Happening.sent).filterMap Happening.dispatch? = log := by
  rw [List.filterMap_map]
  exact List.filterMap_some

/-- What a script of operations has done is a run of the session. -/
theorem Session.carryOut_run (moves : Script Move (Option Page)) {pages : List (Option Page)}
    (reached : Session.Run start happenings session)
    (run : (moves.carryOut Move.work session).Run log (pages, final)) :
    ∃ more, Session.Run start (happenings ++ more) final ∧
      more.filterMap Happening.dispatch? = log := by
  induction moves generalizing session happenings log pages with
  | ended =>
      obtain ⟨rfl, same⟩ := Exchange.run_done_iff.mp run
      cases same
      exact ⟨[], (List.append_nil happenings).symm ▸ reached, rfl⟩
  | act move next ih =>
      obtain ⟨first, ⟨page, middle⟩, rest, rfl, carried, run⟩ := Exchange.Run.of_bind run
      obtain ⟨second, ⟨others, last⟩, ended, rfl, carriedOut, run⟩ := Exchange.Run.of_bind run
      obtain ⟨rfl, same⟩ := Exchange.run_done_iff.mp run
      cases same
      have moved := Session.Run.move move reached carried
      obtain ⟨more, further, dispatches⟩ := ih page moved carriedOut
      refine ⟨(first.map .sent ++ [.did move]) ++ more, ?_, ?_⟩
      · rw [← List.append_assoc]
        exact further
      · rw [List.filterMap_append, List.filterMap_append, dispatches_sent, dispatches,
          List.append_nil]
        exact congrArg (· ++ second) (List.append_nil first)

/-- A cursor that is known was issued. -/
theorem LastAccepted.issued (last : LastAccepted happenings cursor) :
    Issued (happenings.filterMap Happening.dispatch?) cursor := by
  obtain ⟨before, dispatch, page, later, rfl, accepted, named, _⟩ := last
  refine ⟨dispatch, List.mem_filterMap.mpr ⟨.sent dispatch, ?_, rfl⟩, page, accepted, named⟩
  exact List.mem_append_right _ (List.mem_cons_self ..)

/-- A dispatch that is permitted opens a search or names the cursor that is known, and no other. -/
theorem Ledger.Permits.names {ledger : Ledger} (permitted : ledger.Permits start (.sent dispatch)) :
    ((∃ search : Search, dispatch.call = ⟨.post, start.openingPath search, search.body⟩) ∧
        ∀ cursor, ¬ Names start.ttl dispatch cursor) ∨
      ∃ known, ledger.cursor = some known ∧ Names start.ttl dispatch known ∧
        ∀ cursor, Names start.ttl dispatch cursor → cursor = known := by
  cases permitted with
  | @opening search _ searching unopened method path body =>
      refine .inl ⟨⟨search, ?_⟩, ?_⟩
      · rw [← body, ← method]
        exact congrArg (fun path => Call.mk dispatch.call.method path dispatch.call.body) path
      · rintro cursor (⟨_, continued, _⟩ | ⟨deleted, _, _⟩)
        · exact start.openingPath_ne search (path.symm.trans continued)
        · cases method.symm.trans deleted
  | @continuation search known _ searching held method path body =>
      refine .inr ⟨known, held, .inl ⟨method, path, body⟩, ?_⟩
      rintro cursor (⟨_, _, named⟩ | ⟨deleted, _, _⟩)
      · cases named.symm.trans body
        rfl
      · cases method.symm.trans deleted
  | @handback known _ held method path body =>
      refine .inr ⟨known, held, .inr ⟨method, path, body⟩, ?_⟩
      rintro cursor (⟨posted, _, _⟩ | ⟨_, _, named⟩)
      · cases method.symm.trans posted
      · cases named.symm.trans body
        rfl

/-- **Cursors stay with their session.** Where all happenings are permitted, a dispatch opens a
search or names a cursor, and a cursor that it names was issued before. -/
theorem Ledger.Obeys.issued (obeyed : Ledger.Obeys start {} happenings)
    (split : happenings.filterMap Happening.dispatch? = before ++ dispatch :: later) :
    ((∃ search : Search, dispatch.call = ⟨.post, start.openingPath search, search.body⟩) ∨
        ∃ cursor, Names start.ttl dispatch cursor) ∧
      ∀ cursor, Names start.ttl dispatch cursor → Issued before cursor := by
  obtain ⟨first, rest, rfl, earlier, ends⟩ := List.filterMap_eq_append_iff.mp split
  obtain ⟨quiet, happening, others, rfl, silent, sent, _⟩ := List.filterMap_eq_cons_iff.mp ends
  obtain rfl : happening = .sent dispatch := by
    cases happening with
    | sent given => exact congrArg Happening.sent (Option.some.inj sent)
    | did move => cases sent
  have dispatches : (first ++ quiet).filterMap Happening.dispatch? = before := by
    rw [List.filterMap_append, earlier, List.filterMap_eq_nil_iff.mpr silent, List.append_nil]
  rw [← List.append_assoc] at obeyed
  rcases obeyed.permits.names with ⟨opening, others⟩ | ⟨known, held, named, only⟩
  · exact ⟨.inl opening, fun cursor naming => absurd naming (others cursor)⟩
  · refine ⟨.inr ⟨known, named⟩, fun cursor naming => ?_⟩
    rw [only cursor naming, ← dispatches]
    exact (Ledger.after_cursor _ held).issued

end Scroll

open Scroll Bulk

/-- A user of a shared client, with what it does. -/
inductive Participant where
  /-- A session with its operations, and whether it is discarded in the end, with the client free or
  locked by someone else. -/
  | scroller (variant : Variant) (pageSize : Nat) (ttl : String)
      (moves : Script Move (Option Page)) (discarded : Option Bool)
  /-- A sender of batches. -/
  | sender (batches : Script Batch Nat)

/-- What a user has got, and what its object is in the end. -/
inductive Yield where
  | pages (pages : List (Option Page)) (session : Session)
  | counts (counts : List Nat) (indexer : Indexer)

namespace Participant

/-- What a user does. -/
def work : Participant → Exchange Yield
  | .scroller variant pageSize ttl moves discarded => do
    let (pages, session) ← moves.carryOut Move.work { variant, pageSize, ttl }
    match discarded with
    | none => return .pages pages session
    | some locked =>
      session.drop locked
      return .pages pages session
  | .sender batches => do
    let (counts, indexer) ← batches.carryOut Indexer.perform {}
    return .counts counts indexer

section Scroller

variable {variant : Variant} {pageSize : Nat} {ttl : String} {moves : Script Move (Option Page)}
  {discarded : Option Bool}

/-- The dispatches of a session are permitted by what it has observed. -/
theorem scroller_observed {log : List Dispatch} {value : Yield}
    (run : (work (.scroller variant pageSize ttl moves discarded)).Run log value) :
    ∃ happenings, Ledger.Obeys { variant, pageSize, ttl } {} happenings ∧
      happenings.filterMap Happening.dispatch? = log := by
  rw [work] at run
  obtain ⟨first, ⟨pages, final⟩, rest, rfl, carried, run⟩ := Exchange.Run.of_bind run
  obtain ⟨happenings, reached, dispatches⟩ := Session.carryOut_run moves .start carried
  obtain ⟨obeyed, known, _⟩ := Session.Run.observed rfl reached
  cases discarded with
  | none =>
      obtain ⟨rfl, _⟩ := Exchange.run_done_iff.mp run
      rw [List.append_nil]
      exact ⟨_, obeyed, dispatches⟩
  | some locked =>
      obtain ⟨second, _, ended, rfl, dropped, run⟩ := Exchange.Run.of_bind run
      obtain ⟨rfl, _⟩ := Exchange.run_done_iff.mp run
      rw [List.append_nil]
      have released := Session.drop_run dropped
      cases locked with
      | true =>
          obtain rfl : second = [] := released
          rw [List.append_nil]
          exact ⟨_, obeyed, dispatches⟩
      | false =>
          obtain ⟨permitted, _⟩ := Session.Released.observed { variant, pageSize, ttl } released
          rw [← known] at permitted
          refine ⟨_, (Ledger.obeys_append {} _ (second.map .sent)).mpr ⟨obeyed, permitted⟩, ?_⟩
          rw [List.filterMap_append, dispatches_sent]
          exact congrArg (· ++ second) dispatches

end Scroller

variable {ι : Type} [DecidableEq ι]

/-- Users that share a client and take turns in the given order. -/
def share (users : ι → Participant) (client : Client) (order : List ι) : Sharing ι Yield :=
  Sharing.schedule { client, left := fun user => (users user).work } order

variable (users : ι → Participant) (client : Client) (order : List ι)

/-- A client gives to a user alone the replies that it has got among the others. -/
def SameReplies (user : ι) (other : Client) : Prop :=
  ((share users client order).logOf user).map Dispatch.reply <+:
    (other.log (users user).work).map Dispatch.reply

/-- What holds of users that share a client, behind any turns of theirs. -/
structure Independent : Prop where
  /-- A user alone makes the same dispatches, and behind them it goes on in the same way. -/
  alone : ∀ user other, SameReplies users client order user other → ∃ behind : Client,
    other.log (users user).work =
        (share users client order).logOf user ++ behind.log ((share users client order).left user) ∧
      other.run (users user).work = behind.run ((share users client order).left user)
  /-- What a user has got in the end and what its object is then are the same alone. -/
  finished : ∀ user value, (share users client order).left user = .done value →
    ∀ other, SameReplies users client order user other →
      other.log (users user).work = (share users client order).logOf user ∧
        (other.run (users user).work).1 = value
  possible : ∀ user, ∃ other, SameReplies users client order user other
  /-- A user that is not disturbed any more goes on as on a client of its own. -/
  serial : ∀ user, ∃ count,
    (share users client (order ++ List.replicate count user)).left user =
        .done ((share users client order).client.run ((share users client order).left user)).1 ∧
      (share users client (order ++ List.replicate count user)).client =
        ((share users client order).client.run ((share users client order).left user)).2
  /-- A dispatch of a session opens a search or names a cursor, which a reply to an earlier dispatch
  of the same session has named. -/
  own : ∀ user variant pageSize ttl moves discarded,
    users user = .scroller variant pageSize ttl moves discarded →
      ∀ before dispatch later,
        (share users client order).log = before ++ (user, dispatch) :: later →
          ((∃ search : Search, dispatch.call =
              ⟨.post, Session.openingPath { variant, pageSize, ttl } search, search.body⟩) ∨
            ∃ cursor, Names ttl dispatch cursor) ∧
          ∀ cursor, Names ttl dispatch cursor → ∃ earlier page, (user, earlier) ∈ before ∧
            Session.pageOf? earlier.reply = some page ∧ page.cursor = cursor
  /-- Every dispatch was a full round, at the client as the turns before had left it. -/
  rounds : ∀ before user dispatch later,
    (share users client order).log = before ++ (user, dispatch) :: later →
      ∃ earlier count, earlier ++ [user] <+: order ∧ (share users client earlier).log = before ∧
        Client.DispatchLaw client.hosts dispatch.call count (share users client earlier).client
          dispatch.reply (share users client (earlier ++ [user])).client

/-- What a user has left is what its own dispatches lead to. -/
theorem share_leads (user : ι) :
    (users user).work.Leads ((share users client order).logOf user)
      ((share users client order).left user) := by
  obtain ⟨added, log, leads⟩ :=
    Sharing.schedule_leads { client, left := fun user => (users user).work } order user
  rw [share, log]
  exact leads

/-- A longer order goes on where the shorter one ends. -/
theorem share_append (further : List ι) :
    share users client (order ++ further) = (share users client order).schedule further :=
  List.foldl_append

/-- The dispatches of one user among all dispatches, split where one of them is made. -/
theorem logOf_split {shared : Sharing ι Yield} {user : ι} {before later : List (ι × Dispatch)}
    {dispatch : Dispatch} (split : shared.log = before ++ (user, dispatch) :: later) :
    ∃ own others, shared.logOf user = own ++ dispatch :: others ∧
      ∀ earlier ∈ own, (user, earlier) ∈ before := by
  refine ⟨(before.filter fun entry => entry.1 = user).map Prod.snd,
    (later.filter fun entry => entry.1 = user).map Prod.snd, ?_, ?_⟩
  · simp only [Sharing.logOf, split, List.filter_append, List.filter_cons, decide_true, if_true,
      List.map_append, List.map_cons]
  · intro earlier member
    obtain ⟨⟨maker, made⟩, kept, rfl⟩ := List.mem_map.mp member
    obtain ⟨inside, same⟩ := List.mem_filter.mp kept
    obtain rfl : maker = user := of_decide_eq_true same
    exact inside

/-- However the turns went, the next dispatch is a full round. -/
theorem share_round (fresh : client.rotation.failures = 0) (call : Call) :
    ∃ count, Client.DispatchLaw client.hosts call count (share users client order).client
      ((share users client order).client.dispatch call).1
      ((share users client order).client.dispatch call).2 := by
  obtain ⟨still, hosts⟩ : (share users client order).client.rotation.failures = 0 ∧
      (share users client order).client.hosts = client.hosts :=
    Sharing.schedule_fresh _ order fresh
  obtain ⟨last, run⟩ := Client.dispatch_run call (share users client order).client
  rw [Rotation.remaining_of_fresh still] at run
  have law := Client.dispatchLaw_of_run still run
  rw [hosts] at law
  exact ⟨last + 1, law⟩

/-- **Users do not interfere.** Any users share a client and make their dispatches in any order.
Each of them does what it does alone where it gets the same replies, a session names only cursors
that were issued to itself, and every dispatch may try all nodes. -/
theorem independent (fresh : client.rotation.failures = 0) : Independent users client order where
  alone := fun user other same => (share_leads users client order user).alone other same
  finished := by
    intro user value left other same
    obtain ⟨behind, log, run⟩ := (share_leads users client order user).alone other same
    rw [left] at log run
    exact ⟨log.trans (List.append_nil _), congrArg Prod.fst run⟩
  possible := by
    intro user
    exact ⟨.oneNode _,
      (share_leads users client order user).single _ rfl [] (List.append_nil _).symm⟩
  serial := by
    intro user
    obtain ⟨count, left, served, _⟩ := (share users client order).schedule_serial user
    rw [← share_append] at left served
    exact ⟨count, left, served⟩
  own := by
    intro user variant pageSize ttl moves discarded given before dispatch later split
    have leads := share_leads users client order user
    -- The session may stand between two dispatches, so its rest is run to the end first.
    have run := leads.run (Exchange.Run.alone _ client)
    rw [given] at run
    obtain ⟨happenings, obeyed, dispatches⟩ := scroller_observed run
    obtain ⟨mine, others, log, earlier⟩ := logOf_split split
    rw [log, List.append_assoc, List.cons_append] at dispatches
    obtain ⟨form, issued⟩ := obeyed.issued dispatches
    refine ⟨form, fun cursor named => ?_⟩
    obtain ⟨source, member, page, accepted, same⟩ := issued cursor named
    exact ⟨source, page, earlier source member, accepted, same⟩
  rounds := by
    intro before user dispatch later split
    obtain ⟨earlier, turns, log, makes⟩ := Sharing.schedule_made _ order rfl split
    obtain ⟨count, law⟩ := share_round users client earlier fresh dispatch.call
    have served : (share users client (earlier ++ [user])).client =
        ((share users client earlier).client.dispatch dispatch.call).2 := by
      rw [share_append]
      exact makes.client
    refine ⟨earlier, count, turns, log, ?_⟩
    rw [served, makes.reply]
    exact law

/-- Between the two dispatches that open a scan, a sender meets two nodes that fail. -/
theorem independent_scan_and_sender :
    let opened : Response :=
      { status := 200
        body :=
          "\x7b\"_scroll_id\":\"a\",\"_shards\":\x7b\"failed\":0\x7d,\"hits\":\x7b\"hits\":[]\x7d\x7d" }
    let batch : Batch := ⟨"logs", 1, [⟨.delete, "t", "1", none⟩]⟩
    let users : Bool → Participant
      | false => .scroller .scan 10 "1m"
          (.act (.init ⟨"idx", "t", "\x7b\x7d"⟩) fun _ => .act .next fun _ => .ended) none
      | true => .sender (.act batch fun _ => .ended)
    let client : Client :=
      { config := { hosts := ["http://a/", "http://b/"] }
        rotation :=
          { endpoints := ["http://a/", "http://b/"]
            current := 1
            failures := 0
            draws := .planned [1]
            current_lt := by decide
            failures_lt := by decide }
        transport :=
          { planned := [.answer opened, .failure, .answer { status := 503, body := "" }, .failure,
              .answer { status := 404, body := "" }] } }
    let order := [false, false, true, true, false]
    client.rotation.failures = 0 ∧ Independent users client order ∧
      (share users client order).log.map (fun entry => (entry.1, entry.2.call.path)) =
        [(false, "idx/t/_search?scroll=1m&size=10&search_type=scan"), (true, "logs/_bulk"),
          (false, "_search/scroll?scroll=1m")] := by
  intro opened batch users client order
  exact ⟨rfl, independent users client order rfl, by decide +kernel⟩

end Participant
end ClusterClient
