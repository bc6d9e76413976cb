import ClusterClient.Proofs.Client.Shared
import ClusterClient.Scroll.Session

/-! # What the operations of a session do

Each operation of a session on a shared client makes at most two dispatches. `Session.NextRun` lists
what a request for a page can do, `Session.Released` what giving back a cursor can do; the
operations do nothing else (`ClusterClient.Scroll.Session.next_run`,
`ClusterClient.Scroll.Session.clear_run`, `ClusterClient.Scroll.Session.init_run`,
`ClusterClient.Scroll.Session.drop_run`). What a session can go on with, it does go on with
(`ClusterClient.Scroll.Session.next_opened`, `ClusterClient.Scroll.Session.next_scanned`).
-/

namespace ClusterClient.Scroll

namespace Page

/-- A cursor is a text that is not empty. -/
theorem cursor?_eq_some {root : Members} {cursor : String} (named : cursor? root = some cursor) :
    cursor ≠ "" ∧ Keyed.get? "_scroll_id" root = some (.text cursor) := by
  obtain ⟨member, found, rest⟩ := Option.bind_eq_some_iff.mp named
  obtain ⟨value, isText, checked⟩ := Option.bind_eq_some_iff.mp rest
  cases member with
  | text given =>
      cases isText
      split_ifs at checked with empty
      cases checked
      exact ⟨fun none => empty (String.isEmpty_iff.mpr none), found⟩
  | _ => cases isText

/-- A page comes from an object whose hits and cursor are those of the page. -/
theorem ofText_ok {text : String} {page : Page} (read : ofText text = .ok page) :
    ∃ root, Json.parse? text = some (.object root) ∧ hits? root = some page.hits ∧
      cursor? root = some page.cursor := by
  unfold ofText at read
  split at read
  · cases read
  · rename_i document parsed
    cases document with
    | object root =>
        simp only [ofDocument, Json.members?] at read
        split_ifs at read
        split at read
        · cases read
        · split_ifs at read
          split at read
          · cases read
          · rename_i hits found
            split at read
            · cases read
            · rename_i cursor named
              cases read
              exact ⟨root, parsed, found, named⟩
    | _ => cases read

/-- The cursor of a page is the text in the response that names it, and it is not empty. -/
theorem ofText_cursor {text : String} {page : Page} (read : ofText text = .ok page) :
    page.cursor ≠ "" ∧ ∃ root, Json.parse? text = some (.object root) ∧
      Keyed.get? "_scroll_id" root = some (.text page.cursor) := by
  obtain ⟨root, parsed, _, named⟩ := ofText_ok read
  obtain ⟨nonempty, found⟩ := cursor?_eq_some named
  exact ⟨nonempty, root, parsed, found⟩

end Page

namespace Session

/-- **When a response is accepted.** It is a page, and a success or one of an unknown cursor that
has hits. -/
theorem accepted?_iff (response : Response) (page : Page) :
    accepted? response = some page ↔
      Page.ofText response.body = .ok page ∧
        ((200 ≤ response.status ∧ response.status < 300) ∨
          (response.status = 404 ∧ page.hits ≠ [])) := by
  unfold accepted?
  cases read : Page.ofText response.body with
  | error reason => simp only [reduceCtorEq, false_and]
  | ok given =>
      simp only [Response.isSuccess, decide_eq_true_eq, notFoundStatus, Bool.not_eq_true',
        List.isEmpty_eq_false_iff, Except.ok.injEq]
      constructor
      · intro taken
        split_ifs at taken with success missing
        · cases taken
          exact ⟨rfl, .inl success⟩
        · cases taken
          exact ⟨rfl, .inr missing⟩
      · rintro ⟨rfl, success | missing⟩
        · exact if_pos success
        · by_cases success : 200 ≤ response.status ∧ response.status < 300
          · exact if_pos success
          · rw [if_neg success, if_pos missing]

/-- The page that a reply is, if the session may go on with it. -/
def pageOf? : Reply → Option Page
  | .ok response => accepted? response
  | .error _ => none

/-- A page that is accepted has a cursor. -/
theorem pageOf?_cursor {reply : Reply} {page : Page} (accepted : pageOf? reply = some page) :
    page.cursor ≠ "" := by
  cases reply with
  | error error => cases accepted
  | ok response =>
      exact (Page.ofText_cursor ((accepted?_iff response page).mp accepted).1).1

/-- The dispatch that opens a search. -/
def opening (session : Session) (search : Search) (reply : Reply) : Dispatch :=
  ⟨⟨.post, session.openingPath search, search.body⟩, reply⟩

/-- The dispatch that continues behind a cursor. -/
def continuation (session : Session) (cursor : String) (reply : Reply) : Dispatch :=
  ⟨⟨.post, session.continuationPath, continuationBody cursor⟩, reply⟩

/-- The dispatch that gives a cursor back. -/
def handback (cursor : String) (reply : Reply) : Dispatch :=
  ⟨⟨.delete, releasePath, releaseBody cursor⟩, reply⟩

/-- What a request for the next page can do: the dispatches, the page and the session behind it. -/
inductive NextRun (session : Session) : List Dispatch → Option Page → Session → Prop where
  | idle (phase : session.phase = .idle) : NextRun session [] none session
  | unopened {search : Search} {reply : Reply} (phase : session.phase = .ready search)
      (refused : pageOf? reply = none) :
      NextRun session [session.opening search reply] none session
  | opened {search : Search} {reply : Reply} {page : Page} (phase : session.phase = .ready search)
      (accepted : pageOf? reply = some page) (variant : session.variant = .standard) :
      NextRun session [session.opening search reply] (some page) (session.behind search page)
  | scanUnread {search : Search} {reply second : Reply} {page : Page}
      (phase : session.phase = .ready search) (accepted : pageOf? reply = some page)
      (variant : session.variant = .scan) (refused : pageOf? second = none) :
      NextRun session
        [session.opening search reply, session.continuation page.cursor second]
        none (session.behind search page)
  | scanned {search : Search} {reply second : Reply} {page next : Page}
      (phase : session.phase = .ready search) (accepted : pageOf? reply = some page)
      (variant : session.variant = .scan) (read : pageOf? second = some next) :
      NextRun session
        [session.opening search reply, session.continuation page.cursor second]
        (some next) (session.behind search next)
  | unread {search : Search} {cursor : String} {reply : Reply}
      (phase : session.phase = .started search cursor) (refused : pageOf? reply = none) :
      NextRun session [session.continuation cursor reply] none session
  | read {search : Search} {cursor : String} {reply : Reply} {page : Page}
      (phase : session.phase = .started search cursor) (accepted : pageOf? reply = some page) :
      NextRun session [session.continuation cursor reply] (some page) (session.behind search page)

/-- What giving back the cursor of a session can do: one dispatch, if there is a cursor. -/
inductive Released (session : Session) : List Dispatch → Prop where
  | nothing (unopened : session.cursor? = none) : Released session []
  | sent {cursor : String} {reply : Reply} (held : session.cursor? = some cursor) :
      Released session [handback cursor reply]

variable {session after : Session} {log : List Dispatch} {page : Option Page}

/-- A page is fetched with one dispatch, and accepted from its reply. -/
theorem fetch_run {path body : String} (run : (session.fetch path body).Run log page) :
    ∃ reply, log = [⟨⟨.post, path, body⟩, reply⟩] ∧ page = pageOf? reply := by
  obtain ⟨reply, rest, split, run⟩ := Exchange.Run.of_call_bind run
  refine ⟨reply, ?_⟩
  cases reply with
  | error error =>
      obtain ⟨rfl, rfl⟩ := Exchange.run_done_iff.mp run
      exact ⟨split, rfl⟩
  | ok response =>
      cases taken : accepted? response with
      | none =>
          simp only [taken] at run
          obtain ⟨rfl, rfl⟩ := Exchange.run_done_iff.mp run
          exact ⟨split, taken.symm⟩
      | some given =>
          simp only [taken] at run
          obtain ⟨rfl, rfl⟩ := Exchange.run_done_iff.mp (Exchange.Run.of_note run)
          exact ⟨split, taken.symm⟩

/-- Going on takes one dispatch, and keeps the cursor that the page brings. -/
theorem proceed_run {search : Search} {cursor : String}
    (run : (session.proceed search cursor).Run log (page, after)) :
    ∃ reply, log = [session.continuation cursor reply] ∧ page = pageOf? reply ∧
      after = match pageOf? reply with
        | none => session
        | some page => session.behind search page := by
  obtain ⟨first, fetched, rest, rfl, fetching, run⟩ := Exchange.Run.of_bind run
  obtain ⟨reply, rfl, rfl⟩ := fetch_run fetching
  refine ⟨reply, ?_⟩
  cases read : pageOf? reply with
  | none =>
      simp only [read] at run
      obtain ⟨rfl, same⟩ := Exchange.run_done_iff.mp run
      cases same
      exact ⟨rfl, rfl, rfl⟩
  | some given =>
      simp only [read] at run
      obtain ⟨rfl, same⟩ := Exchange.run_done_iff.mp run
      cases same
      exact ⟨rfl, rfl, rfl⟩

/-- **A request for the next page, case by case.** -/
theorem next_run (run : session.next.Run log (page, after)) : NextRun session log page after := by
  unfold next at run
  cases phase : session.phase with
  | idle =>
      simp only [phase] at run
      obtain ⟨rfl, same⟩ := Exchange.run_done_iff.mp run
      cases same
      exact .idle phase
  | started search cursor =>
      simp only [phase] at run
      obtain ⟨reply, rfl, rfl, rfl⟩ := proceed_run run
      cases read : pageOf? reply with
      | none => exact .unread phase read
      | some given => exact .read phase read
  | ready search =>
      simp only [phase] at run
      obtain ⟨first, fetched, rest, rfl, fetching, run⟩ := Exchange.Run.of_bind run
      obtain ⟨reply, rfl, rfl⟩ := fetch_run fetching
      cases accepted : pageOf? reply with
      | none =>
          simp only [accepted] at run
          obtain ⟨rfl, same⟩ := Exchange.run_done_iff.mp run
          cases same
          exact .unopened phase accepted
      | some opened =>
          simp only [accepted] at run
          cases variant : session.variant with
          | standard =>
              simp only [variant] at run
              obtain ⟨rfl, same⟩ := Exchange.run_done_iff.mp run
              cases same
              exact .opened phase accepted variant
          | scan =>
              simp only [variant] at run
              obtain ⟨second, rfl, rfl, rfl⟩ := proceed_run run
              cases read : pageOf? second with
              | none => exact .scanUnread phase accepted variant read
              | some given => exact .scanned phase accepted variant read

/-- A session gives back the cursor that it has. -/
theorem releaseOwn_run (run : session.releaseOwn.Run log ()) : Released session log := by
  unfold releaseOwn at run
  cases held : session.cursor? with
  | none =>
      simp only [held] at run
      obtain ⟨rfl, _⟩ := Exchange.run_done_iff.mp run
      exact .nothing held
  | some cursor =>
      simp only [held] at run
      obtain ⟨reply, rest, rfl, ended⟩ := Exchange.Run.of_call_bind run
      obtain ⟨rfl, _⟩ := Exchange.run_done_iff.mp ended
      exact .sent held

/-- Ending a search gives its cursor back. -/
theorem clear_run (run : session.clear.Run log after) :
    Released session log ∧ after = { session with phase := .idle } := by
  obtain ⟨first, _, rest, rfl, released, run⟩ := Exchange.Run.of_bind run
  obtain ⟨rfl, rfl⟩ := Exchange.run_done_iff.mp run
  rw [List.append_nil]
  exact ⟨releaseOwn_run released, rfl⟩

/-- Setting a search gives the cursor of the one before back. -/
theorem init_run {search : Search} (run : (session.init search).Run log after) :
    Released session log ∧ after = { session with phase := .ready search } := by
  obtain ⟨first, _, rest, rfl, released, run⟩ := Exchange.Run.of_bind run
  obtain ⟨rfl, rfl⟩ := Exchange.run_done_iff.mp run
  rw [List.append_nil]
  exact ⟨releaseOwn_run released, rfl⟩

/-- Discarding a session gives its cursor back, unless the client is locked. -/
theorem drop_run {locked : Bool} (run : (session.drop locked).Run log ()) :
    if locked then log = [] else Released session log := by
  cases locked with
  | true => exact (Exchange.run_done_iff.mp run).1
  | false => exact releaseOwn_run run

section Accepted

variable {search : Search} {response second : Response} {page next : Page}

/-- A reply that is accepted is fetched as its page. -/
theorem fetch_accepted (path body : String) (accepted : accepted? response = some page) :
    (session.fetch path body).Run [⟨⟨.post, path, body⟩, .ok response⟩] (some page) := by
  have served : response.status ≠ Outcome.unavailableStatus := by
    have status := ((accepted?_iff response page).mp accepted).2
    intro overloaded
    rw [overloaded, Outcome.unavailableStatus] at status
    omega
  refine .answered response served ?_
  change Exchange.Run (match accepted? response with
    | none => _
    | some page => _) [] (some page)
  rw [accepted]
  exact .note (.done _)

/-- Behind such a reply the session goes on with the page. -/
theorem proceed_accepted (search : Search) (cursor : String)
    (accepted : accepted? response = some page) :
    (session.proceed search cursor).Run [session.continuation cursor (.ok response)]
      (some page, session.behind search page) :=
  .bind (fetch_accepted _ _ accepted) (.done _)

/-- A session of the standard variant opens with every response that is accepted. -/
theorem next_opened (phase : session.phase = .ready search)
    (accepted : accepted? response = some page) (variant : session.variant = .standard) :
    session.next.Run [session.opening search (.ok response)]
      (some page, session.behind search page) := by
  unfold Session.next
  rw [phase]
  refine .bind (fetch_accepted _ _ accepted) ?_
  rw [variant]
  exact .done _

/-- A session of the scan variant opens with two responses that are accepted. -/
theorem next_scanned (phase : session.phase = .ready search)
    (accepted : accepted? response = some page) (variant : session.variant = .scan)
    (read : accepted? second = some next) :
    session.next.Run
      [session.opening search (.ok response), session.continuation page.cursor (.ok second)]
      (some next, session.behind search next) := by
  unfold Session.next
  rw [phase]
  refine .bind (fetch_accepted _ _ accepted) ?_
  rw [variant]
  exact proceed_accepted search page.cursor read

end Accepted

end Session
end ClusterClient.Scroll
