import ClusterClient.Proofs.Scroll.Ledger

/-! # Asking again for a page

A request for a page that gives none leaves the session as it was, so the caller may simply ask
again. A scan stopped halfway is the one exception: its opening was accepted and the continuation
behind it was not, so it keeps the cursor of the opening, and every further request continues
(`ClusterClient.Scroll.Session.next_retryable`).
-/

namespace ClusterClient.Scroll.Session

/-- The dispatches of a scan that is stopped halfway: the opening is accepted, the continuation
behind it is not. -/
structure Halfway (session : Session) (log : List Dispatch) (search : Search) (opened : Page) :
    Prop where
  variant : session.variant = .scan
  phase : session.phase = .ready search
  sent : ∃ first second,
    log = [session.opening search first, session.continuation opened.cursor second] ∧
      pageOf? first = some opened ∧ pageOf? second = none

/-- Requests for the next page, one after the other on a shared client, with what they gave. -/
inductive Asked (start : Session) : List Dispatch → List (Option Page) → Session → Prop where
  | nothing : Asked start [] [] start
  | again {log more : List Dispatch} {pages : List (Option Page)} {page : Option Page}
      {session after : Session} (earlier : Asked start log pages session)
      (run : session.next.Run more (page, after)) :
      Asked start (log ++ more) (pages ++ [page]) after

variable {start session after : Session} {log : List Dispatch} {page : Option Page}

/-- A request for a page changes nothing but how far the session is. -/
theorem NextRun.settings (run : NextRun session log page after) :
    after = { session with phase := after.phase } ∧ after.search? = session.search? := by
  cases run with
  | idle phase => exact ⟨rfl, rfl⟩
  | unopened phase refused => exact ⟨rfl, rfl⟩
  | opened phase accepted variant => exact ⟨rfl, by simp only [search?, behind, phase]⟩
  | scanUnread phase accepted variant refused => exact ⟨rfl, by simp only [search?, behind, phase]⟩
  | scanned phase accepted variant read => exact ⟨rfl, by simp only [search?, behind, phase]⟩
  | unread phase refused => exact ⟨rfl, rfl⟩
  | read phase accepted => exact ⟨rfl, by simp only [search?, behind, phase]⟩

/-- A request that gives no page changes nothing, unless a scan is stopped halfway. -/
theorem NextRun.failed (run : NextRun session log none after) :
    after = session ∨ ∃ search opened, Halfway session log search opened := by
  cases run with
  | idle phase => exact .inl rfl
  | unopened phase refused => exact .inl rfl
  | scanUnread phase accepted variant refused =>
      exact .inr ⟨_, _, variant, phase, _, _, rfl, accepted, refused⟩
  | unread phase refused => exact .inl rfl

/-- A scan that is stopped halfway gives no page and holds the cursor of its opening. -/
theorem NextRun.stopped {search : Search} {opened : Page} (run : NextRun session log page after)
    (halfway : Halfway session log search opened) :
    page = none ∧ after = session.behind search opened := by
  obtain ⟨scan, ready, first, second, split, accepted, refused⟩ := halfway
  cases run with
  | idle phase => cases phase.symm.trans ready
  | unopened phase unopened => cases (List.cons.inj split).2
  | opened phase given variant => cases (List.cons.inj split).2
  | @scanUnread _ reply _ _ phase given variant unread =>
      cases phase.symm.trans ready
      obtain rfl : reply = first := congrArg Dispatch.reply (List.cons.inj split).1
      cases given.symm.trans accepted
      exact ⟨rfl, rfl⟩
  | @scanned _ _ reply _ _ phase given variant read =>
      obtain rfl : reply = second :=
        congrArg Dispatch.reply (List.cons.inj (List.cons.inj split).2).1
      cases read.symm.trans refused
  | unread phase unread => cases phase.symm.trans ready
  | read phase given => cases phase.symm.trans ready

/-- A page comes with the cursor that the session holds behind it. -/
theorem NextRun.delivered {given : Page} (run : NextRun session log (some given) after) :
    given.cursor ≠ "" ∧
      ∃ search, session.search? = some search ∧ after.phase = .started search given.cursor := by
  cases run with
  | opened phase accepted variant =>
      exact ⟨pageOf?_cursor accepted, _, by simp only [search?, phase], rfl⟩
  | scanned phase accepted variant read =>
      exact ⟨pageOf?_cursor read, _, by simp only [search?, phase], rfl⟩
  | read phase accepted =>
      exact ⟨pageOf?_cursor accepted, _, by simp only [search?, phase], rfl⟩

/-- A session that holds a cursor continues with it, and holds a cursor behind that. -/
theorem NextRun.continued {search : Search} {cursor : String}
    (started : session.phase = .started search cursor) (run : NextRun session log page after) :
    (∃ reply, log = [session.continuation cursor reply]) ∧
      ∃ next, after = { session with phase := .started search next } := by
  cases run with
  | idle phase => cases phase.symm.trans started
  | unopened phase refused => cases phase.symm.trans started
  | opened phase accepted variant => cases phase.symm.trans started
  | scanUnread phase accepted variant refused => cases phase.symm.trans started
  | scanned phase accepted variant read => cases phase.symm.trans started
  | unread phase refused =>
      cases phase.symm.trans started
      exact ⟨⟨_, rfl⟩, cursor, by rw [← started]⟩
  | read phase accepted =>
      cases phase.symm.trans started
      exact ⟨⟨_, rfl⟩, _, rfl⟩

/-- However often a session with a cursor is asked, it never opens its search again. -/
theorem Asked.continued {search : Search} {cursor : String} {pages : List (Option Page)}
    (started : start.phase = .started search cursor) (asked : Asked start log pages session) :
    (∀ dispatch ∈ log, ∃ cursor reply, dispatch = start.continuation cursor reply) ∧
      ∃ next, session = { start with phase := .started search next } := by
  induction asked with
  | nothing => exact ⟨fun _ none => absurd none List.not_mem_nil, cursor, by rw [← started]⟩
  | again earlier run ih =>
      obtain ⟨before, held, rfl⟩ := ih
      obtain ⟨⟨reply, rfl⟩, next, rfl⟩ := (next_run run).continued rfl
      refine ⟨fun dispatch member => ?_, next, rfl⟩
      rcases List.mem_append.mp member with former | added
      · exact before dispatch former
      · exact ⟨held, reply, List.mem_singleton.mp added⟩

/-- However often a session is asked in vain, it is as it was at first, or a scan that holds the
cursor of an opening. -/
theorem Asked.failed {pages : List (Option Page)} (asked : Asked start log pages session)
    (vain : ∀ page ∈ pages, page = none) :
    session = start ∨
      ∃ search opened reply, start.variant = .scan ∧ start.phase = .ready search ∧
        start.opening search reply ∈ log ∧ pageOf? reply = some opened ∧
          session = start.behind search opened := by
  induction asked with
  | nothing => exact .inl rfl
  | @again log more pages page before after earlier run ih =>
      obtain ⟨former, last⟩ := List.forall_mem_append.mp vain
      obtain rfl : page = none := last page (List.mem_singleton_self page)
      rcases ih former with rfl | ⟨search, opened, reply, scan, ready, sent, accepted, rfl⟩
      · rcases (next_run run).failed with same | ⟨search, opened, halfway⟩
        · exact .inl same
        · obtain ⟨scan, ready, first, second, split, accepted, _⟩ := id halfway
          refine .inr ⟨search, opened, first, scan, ready, ?_, accepted,
            ((next_run run).stopped halfway).2⟩
          rw [split]
          exact List.mem_append_right _ (List.mem_cons_self ..)
      · rcases (next_run run).failed with same | ⟨_, _, _, again, _⟩
        · exact .inr ⟨search, opened, reply, scan, ready, List.mem_append_left _ sent, accepted,
            same⟩
        · cases again

/-- What a request for the next page leaves of a session. -/
structure Kept (session : Session) (log : List Dispatch) (page : Option Page) (after : Session) :
    Prop where
  settings : after = { session with phase := after.phase }
  search : after.search? = session.search?
  failed : page = none →
    after = session ∨ ∃ search opened, Halfway session log search opened
  halfway : ∀ search opened, Halfway session log search opened →
    page = none ∧ after.phase = .started search opened.cursor ∧ opened.cursor ≠ "" ∧
      (∀ more next last, after.next.Run more (next, last) →
        ∃ reply, more = [session.continuation opened.cursor reply]) ∧
      ∀ more pages last, Asked after more pages last →
        ∀ dispatch ∈ more, ∃ cursor reply, dispatch = session.continuation cursor reply
  delivered : ∀ given, page = some given → given.cursor ≠ "" ∧
    ∃ search, session.search? = some search ∧ after.phase = .started search given.cursor

/-- A request for a page keeps what it should, in each of the ways in which it runs. -/
theorem NextRun.kept (run : NextRun session log page after) : Kept session log page after where
  settings := run.settings.1
  search := run.settings.2
  failed := by
    rintro rfl
    exact run.failed
  halfway := by
    intro search opened halfway
    obtain ⟨none, rfl⟩ := run.stopped halfway
    obtain ⟨_, _, _, _, _, accepted, _⟩ := halfway
    refine ⟨none, rfl, pageOf?_cursor accepted, ?_, ?_⟩
    · intro more next last asked
      exact ((next_run asked).continued rfl).1
    · intro more pages last asked
      exact (asked.continued rfl).1
  delivered := by
    rintro given rfl
    exact run.delivered

/-- What holds of a session that is asked for pages, on a client that others use as well or on one
of its own. -/
structure Retryable (session : Session) : Prop where
  shared : ∀ log page after, session.next.Run log (page, after) → Kept session log page after
  alone : ∀ client : Client, Kept session (client.log session.next)
    (client.run session.next).1.1 (client.run session.next).1.2
  repeated : ∀ log pages after, Asked session log pages after → (∀ page ∈ pages, page = none) →
    after = session ∨
      ∃ search opened reply, session.variant = .scan ∧ session.phase = .ready search ∧
        session.opening search reply ∈ log ∧ pageOf? reply = some opened ∧
          after = session.behind search opened

/-- **A page can always be asked for again.** A request that gives no page leaves the search and the
cursor of the session as they were, except that a scan whose opening was accepted goes on with the
cursor of the opening. -/
theorem next_retryable (session : Session) : Retryable session where
  shared := fun _ _ _ run => (next_run run).kept
  alone := fun client => (next_run (Exchange.Run.alone session.next client)).kept
  repeated := fun _ _ _ asked vain => asked.failed vain

/-- A scan whose continuation is refused by every node holds the cursor of its opening. -/
example :
    let opened : Response :=
      { status := 200
        body :=
          "\x7b\"_scroll_id\":\"a\",\"_shards\":\x7b\"failed\":0\x7d,\"hits\":\x7b\"hits\":[]\x7d\x7d" }
    let search : Search := ⟨"idx", "t", "\x7b\x7d"⟩
    let session := { Session.scan 100 "1m" 0 with phase := .ready search }
    let ((page, after), _) := (Client.oneNode [.answer opened, .failure]).run session.next
    page.isNone ∧ after.phase = .started search "a" := by
  decide +kernel

end ClusterClient.Scroll.Session
