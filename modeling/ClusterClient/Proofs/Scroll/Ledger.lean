import ClusterClient.Proofs.Json.Text
import ClusterClient.Proofs.Scroll.Operation
import Mathlib.Data.List.Induction

/-! # A session as an observer sees it

An observer who sees the operations of a session and its dispatches with their replies keeps a
`Ledger`: the search of the last `init`, and the cursor that the response accepted last has named.
Along every run the ledger says what the session holds, and every dispatch is one that the ledger
permits at that moment (`ClusterClient.Scroll.Session.Run.observed`). So the cursor is threaded from
response to request (`ClusterClient.Scroll.Session.cursor_threaded`).
-/

namespace ClusterClient.Scroll

/-- An operation of a session that goes on behind it. -/
inductive Move where
  | init (search : Search)
  | next
  | clear

/-- The operation, with the page that it gives. -/
def Move.work (session : Session) : Move → Exchange (Option Page × Session)
  | .init search => do
    let session ← session.init search
    return (none, session)
  | .next => session.next
  | .clear => do
    let session ← session.clear
    return (none, session)

/-- What an operation can do: the dispatches and the session behind it. -/
inductive MoveRun (session : Session) : Move → List Dispatch → Session → Prop where
  | init {search : Search} {log : List Dispatch} (released : Session.Released session log) :
      MoveRun session (.init search) log { session with phase := .ready search }
  | next {log : List Dispatch} {page : Option Page} {after : Session}
      (run : Session.NextRun session log page after) : MoveRun session .next log after
  | clear {log : List Dispatch} (released : Session.Released session log) :
      MoveRun session .clear log { session with phase := .idle }

/-- What a move dispatches is what the run of its operation does. -/
theorem Move.work_run {session after : Session} {log : List Dispatch} {page : Option Page}
    {move : Move} (carried : (move.work session).Run log (page, after)) :
    MoveRun session move log after := by
  cases move with
  | next => exact .next (Session.next_run carried)
  | init search =>
      obtain ⟨first, middle, rest, rfl, run, ended⟩ := Exchange.Run.of_bind carried
      obtain ⟨rfl, same⟩ := Exchange.run_done_iff.mp ended
      cases same
      obtain ⟨released, rfl⟩ := Session.init_run run
      rw [List.append_nil]
      exact .init released
  | clear =>
      obtain ⟨first, middle, rest, rfl, run, ended⟩ := Exchange.Run.of_bind carried
      obtain ⟨rfl, same⟩ := Exchange.run_done_iff.mp ended
      cases same
      obtain ⟨released, rfl⟩ := Session.clear_run run
      rw [List.append_nil]
      exact .clear released

/-- What happens to a session: a dispatch is made, or an operation has ended. -/
inductive Happening where
  | sent (dispatch : Dispatch)
  | did (move : Move)

/-- What happened from the start of a session on a shared client until it is in a given state. -/
inductive Session.Run (start : Session) : List Happening → Session → Prop where
  | start : Run start [] start
  | move {happenings : List Happening} {session after : Session} {log : List Dispatch}
      {page : Option Page} (move : Move) (reached : Run start happenings session)
      (carried : (move.work session).Run log (page, after)) :
      Run start (happenings ++ (log.map .sent ++ [.did move])) after

/-- Whether a happening leaves it at the search and the response accepted last. -/
def Happening.Quiet : Happening → Prop
  | .sent dispatch => Session.pageOf? dispatch.reply = none
  | .did move => move = .next

/-- The response accepted last named the cursor, and the session was neither set to a search nor
cleared since. -/
def LastAccepted (happenings : List Happening) (cursor : String) : Prop :=
  ∃ before dispatch page later, happenings = before ++ .sent dispatch :: later ∧
    Session.pageOf? dispatch.reply = some page ∧ page.cursor = cursor ∧
    ∀ happening ∈ later, happening.Quiet

/-- The session was set to the search last, and not cleared since. -/
def LastSet (happenings : List Happening) (search : Search) : Prop :=
  ∃ before later, happenings = before ++ .did (.init search) :: later ∧
    ∀ move, .did move ∈ later → move = .next

/-- The last cursor stays the last one while nothing is accepted. -/
theorem LastAccepted.concat {happenings : List Happening} {cursor : String}
    (last : LastAccepted happenings cursor) {happening : Happening} (quiet : happening.Quiet) :
    LastAccepted (happenings ++ [happening]) cursor := by
  obtain ⟨before, dispatch, page, later, rfl, taken, named, still⟩ := last
  refine ⟨before, dispatch, page, later ++ [happening], ?_, taken, named, ?_⟩
  · rw [List.append_assoc, List.cons_append]
  · intro other member
    rcases List.mem_append.mp member with earlier | added
    · exact still other earlier
    · rw [List.mem_singleton.mp added]
      exact quiet

/-- A cursor that was accepted is not empty. -/
theorem LastAccepted.nonempty {happenings : List Happening} {cursor : String}
    (last : LastAccepted happenings cursor) : cursor ≠ "" := by
  obtain ⟨_, _, page, _, _, accepted, rfl, _⟩ := last
  exact Session.pageOf?_cursor accepted

/-- The last search stays the last one while none is set. -/
theorem LastSet.concat {happenings : List Happening} {search : Search}
    (last : LastSet happenings search) {happening : Happening}
    (quiet : ∀ move, happening = .did move → move = .next) :
    LastSet (happenings ++ [happening]) search := by
  obtain ⟨before, later, rfl, still⟩ := last
  refine ⟨before, later ++ [happening], ?_, ?_⟩
  · rw [List.append_assoc, List.cons_append]
  · intro move member
    rcases List.mem_append.mp member with earlier | added
    · exact still move earlier
    · exact quiet move (List.mem_singleton.mp added).symm

/-- What an observer knows of a session. -/
structure Ledger where
  search : Option Search := none
  cursor : Option String := none

namespace Ledger

/-- What is known behind a reply: the cursor that it names, if it is accepted. -/
def learn (ledger : Ledger) (reply : Reply) : Ledger :=
  match Session.pageOf? reply with
  | none => ledger
  | some page => { ledger with cursor := some page.cursor }

/-- What is known behind a happening. The cursor is that of the response accepted last, until it is
given back or the session is cleared or set to another search. -/
def observe (ledger : Ledger) : Happening → Ledger
  | .sent dispatch =>
    if dispatch.call.method = .delete then { ledger with cursor := none }
    else ledger.learn dispatch.reply
  | .did .next => ledger
  | .did (.init search) => { search := some search }
  | .did .clear => {}

/-- What is known behind happenings. -/
def after (ledger : Ledger) (happenings : List Happening) : Ledger :=
  happenings.foldl observe ledger

/-- What may happen to a session that was started in the given way: with a search and no cursor the
search is sent, with a cursor this cursor is continued or given back, and the search is set or
forgotten only when there is no cursor. -/
inductive Permits (start : Session) (ledger : Ledger) : Happening → Prop where
  | opening {search : Search} {dispatch : Dispatch} (searching : ledger.search = some search)
      (unopened : ledger.cursor = none) (method : dispatch.call.method = .post)
      (path : dispatch.call.path =
        search.index ++ "/" ++ search.docType ++ "/_search?scroll=" ++ start.ttl ++ "&size="
          ++ toString start.pageSize
          ++ match start.variant with
            | .standard => ""
            | .scan => "&search_type=scan")
      (body : dispatch.call.body = search.body) : Permits start ledger (.sent dispatch)
  | continuation {search : Search} {cursor : String} {dispatch : Dispatch}
      (searching : ledger.search = some search) (held : ledger.cursor = some cursor)
      (method : dispatch.call.method = .post)
      (path : dispatch.call.path = "_search/scroll?scroll=" ++ start.ttl)
      (body : Json.parse? dispatch.call.body = some (.object [("scroll_id", .text cursor)])) :
      Permits start ledger (.sent dispatch)
  | handback {cursor : String} {dispatch : Dispatch} (held : ledger.cursor = some cursor)
      (method : dispatch.call.method = .delete) (path : dispatch.call.path = "_search/scroll/")
      (body : Json.parse? dispatch.call.body =
        some (.object [("scroll_id", .array [.text cursor])])) :
      Permits start ledger (.sent dispatch)
  | next : Permits start ledger (.did .next)
  | init {search : Search} (released : ledger.cursor = none) :
      Permits start ledger (.did (.init search))
  | clear (released : ledger.cursor = none) : Permits start ledger (.did .clear)

/-- Each happening is permitted by what is known before it. -/
def Obeys (start : Session) : Ledger → List Happening → Prop
  | _, [] => True
  | ledger, happening :: later =>
    ledger.Permits start happening ∧ Obeys start (ledger.observe happening) later

variable {start : Session}

theorem after_append (ledger : Ledger) (first second : List Happening) :
    ledger.after (first ++ second) = (ledger.after first).after second :=
  List.foldl_append

/-- Happenings obey the ledger if the first ones do, and the later ones do behind them. -/
theorem obeys_append (ledger : Ledger) (first second : List Happening) :
    Obeys start ledger (first ++ second) ↔
      Obeys start ledger first ∧ Obeys start (ledger.after first) second := by
  induction first generalizing ledger with
  | nil =>
      simp only [List.nil_append, Obeys, true_and]
      rfl
  | cons happening first ih =>
      simp only [List.cons_append, Obeys, ih, and_assoc]
      rfl

/-- Whatever happens, happens with the permission of what is known then. -/
theorem Obeys.permits {ledger : Ledger} {before later : List Happening} {happening : Happening}
    (obeyed : Obeys start ledger (before ++ happening :: later)) :
    (ledger.after before).Permits start happening :=
  ((obeys_append ledger before (happening :: later)).mp obeyed).2.1

theorem after_cons (ledger : Ledger) (happening : Happening) (later : List Happening) :
    ledger.after (happening :: later) = (ledger.observe happening).after later := rfl

/-- The reply to a search is learned. -/
theorem observe_post (ledger : Ledger) {dispatch : Dispatch}
    (method : dispatch.call.method = .post) :
    ledger.observe (.sent dispatch) = ledger.learn dispatch.reply := by
  rw [observe, method]
  rfl

/-- A cursor that is given back is forgotten. -/
theorem observe_delete (ledger : Ledger) {dispatch : Dispatch}
    (method : dispatch.call.method = .delete) :
    ledger.observe (.sent dispatch) = { ledger with cursor := none } :=
  if_pos method

/-- A reply that is not accepted teaches nothing. -/
theorem learn_refused (ledger : Ledger) {reply : Reply}
    (refused : Session.pageOf? reply = none) : ledger.learn reply = ledger := by
  simp only [learn, refused]

/-- A page that is accepted brings the cursor to go on with. -/
theorem learn_accepted (ledger : Ledger) {reply : Reply} {page : Page}
    (accepted : Session.pageOf? reply = some page) :
    ledger.learn reply = { ledger with cursor := some page.cursor } := by
  simp only [learn, accepted]

/-- A dispatch ends the cursor, is refused, or names the next cursor. -/
theorem observe_sent (ledger : Ledger) (dispatch : Dispatch) :
    ledger.observe (.sent dispatch) = { ledger with cursor := none } ∨
      (Session.pageOf? dispatch.reply = none ∧ ledger.observe (.sent dispatch) = ledger) ∨
      ∃ page, Session.pageOf? dispatch.reply = some page ∧
        ledger.observe (.sent dispatch) = { ledger with cursor := some page.cursor } := by
  by_cases method : dispatch.call.method = .delete
  · exact .inl (observe_delete ledger method)
  · rw [observe, if_neg method]
    cases taken : Session.pageOf? dispatch.reply with
    | none => exact .inr (.inl ⟨rfl, learn_refused ledger taken⟩)
    | some page => exact .inr (.inr ⟨page, rfl, learn_accepted ledger taken⟩)

theorem after_concat (ledger : Ledger) (happenings : List Happening) (happening : Happening) :
    ledger.after (happenings ++ [happening]) = (ledger.after happenings).observe happening :=
  ledger.after_append happenings [happening]

/-- The cursor that is known is the one that was named last. -/
theorem after_cursor (happenings : List Happening) {cursor : String}
    (known : (after {} happenings).cursor = some cursor) : LastAccepted happenings cursor := by
  induction happenings using List.reverseRecOn with
  | nil => cases known
  | append_singleton happenings happening ih =>
      rw [after_concat] at known
      rcases happening with dispatch | _ | _ | _
      · rcases (after {} happenings).observe_sent dispatch with
          ended | ⟨refused, same⟩ | ⟨page, accepted, named⟩
        · rw [ended] at known
          cases known
        · rw [same] at known
          exact (ih known).concat refused
        · rw [named] at known
          exact ⟨happenings, dispatch, page, [], rfl, accepted, Option.some.inj known,
            fun other member => absurd member List.not_mem_nil⟩
      · cases known
      · exact (ih known).concat rfl
      · cases known

/-- No dispatch changes the search. -/
theorem observe_sent_search (ledger : Ledger) (dispatch : Dispatch) :
    (ledger.observe (.sent dispatch)).search = ledger.search := by
  rcases ledger.observe_sent dispatch with ended | ⟨_, same⟩ | ⟨page, _, named⟩
  · rw [ended]
  · rw [same]
  · rw [named]

/-- The search that is known is the one that the session was set to last. -/
theorem after_search (happenings : List Happening) {search : Search}
    (known : (after {} happenings).search = some search) : LastSet happenings search := by
  induction happenings using List.reverseRecOn with
  | nil => cases known
  | append_singleton happenings happening ih =>
      rw [after_concat] at known
      rcases happening with dispatch | given | _ | _
      · rw [observe_sent_search] at known
        exact (ih known).concat fun move same => by cases same
      · cases known
        exact ⟨happenings, [], rfl, fun move member => absurd member List.not_mem_nil⟩
      · exact (ih known).concat fun move same => by cases same; rfl
      · cases known

end Ledger

namespace Session

/-- The search of a session. -/
def search? (session : Session) : Option Search :=
  match session.phase with
  | .idle => none
  | .ready search => some search
  | .started search _ => some search

/-- What the session itself holds of its search and its cursor. -/
def ledger (session : Session) : Ledger :=
  { search := session.search?, cursor := session.cursor? }

/-- A session that is ready has a search and no cursor. -/
theorem ledger_ready {session : Session} {search : Search} (phase : session.phase = .ready search) :
    session.ledger = { search := some search } := by
  simp only [ledger, search?, cursor?, phase]

/-- A session that has started has both. -/
theorem ledger_started {session : Session} {search : Search} {cursor : String}
    (phase : session.phase = .started search cursor) :
    session.ledger = { search := some search, cursor := some cursor } := by
  simp only [ledger, search?, cursor?, phase]

/-- Two sessions that differ at most in how far they are. -/
def SameKind (start session : Session) : Prop := ∃ phase, session = { start with phase }

variable {start session after : Session} {log : List Dispatch} {page : Option Page}

/-- A session stays of its kind in every phase. -/
theorem SameKind.rephase (kind : SameKind start session) (phase : Phase) :
    SameKind start { session with phase } := by
  obtain ⟨_, rfl⟩ := kind
  exact ⟨phase, rfl⟩

/-- A session that is ready may open its search. -/
theorem opening_permitted (kind : SameKind start session) {search : Search}
    (phase : session.phase = .ready search) (reply : Reply) :
    session.ledger.Permits start (.sent (session.opening search reply)) := by
  obtain ⟨_, rfl⟩ := kind
  rw [ledger_ready phase]
  exact .opening rfl rfl rfl rfl rfl

/-- A session that has started may go on behind its cursor. -/
theorem continuation_permitted (kind : SameKind start session) (search : Search) (cursor : String)
    (reply : Reply) :
    ({ search := some search, cursor := some cursor } : Ledger).Permits start
      (.sent (session.continuation cursor reply)) := by
  obtain ⟨_, rfl⟩ := kind
  exact .continuation rfl rfl rfl rfl (Json.parse?_textMember "scroll_id" cursor)

/-- An opening that is accepted names the cursor. -/
theorem observe_opened {search : Search} {reply : Reply} {page : Page}
    (phase : session.phase = .ready search) (accepted : pageOf? reply = some page) :
    session.ledger.observe (.sent (session.opening search reply)) =
      { search := some search, cursor := some page.cursor } := by
  rw [ledger_ready phase]
  exact Ledger.learn_accepted _ accepted

/-- Giving back the cursor is permitted, and behind it there is none. -/
theorem Released.observed (start : Session) (released : Released session log) :
    Ledger.Obeys start session.ledger (log.map .sent) ∧
      session.ledger.after (log.map .sent) = { search := session.search? } := by
  cases released with
  | nothing unopened =>
      refine ⟨trivial, ?_⟩
      simp only [List.map_nil, Ledger.after, List.foldl_nil, ledger, unopened]
  | @sent cursor reply held =>
      have permitted : session.ledger.Permits start (.sent (handback cursor reply)) :=
        .handback held rfl rfl (Json.parse?_listMember "scroll_id" cursor)
      exact ⟨⟨permitted, trivial⟩, rfl⟩

/-- The dispatches of a request for a page are permitted, and behind them the ledger says what the
session holds. -/
theorem NextRun.observed (kind : SameKind start session) (run : NextRun session log page after) :
    Ledger.Obeys start session.ledger (log.map .sent) ∧
      session.ledger.after (log.map .sent) = after.ledger ∧ SameKind start after := by
  cases run with
  | idle phase => exact ⟨trivial, rfl, kind⟩
  | unopened phase refused =>
      refine ⟨⟨opening_permitted kind phase _, trivial⟩, ?_, kind⟩
      exact Ledger.learn_refused session.ledger refused
  | opened phase accepted variant =>
      exact ⟨⟨opening_permitted kind phase _, trivial⟩, observe_opened phase accepted,
        kind.rephase _⟩
  | @scanUnread search reply second page phase accepted variant refused =>
      have opened := observe_opened phase accepted
      refine ⟨⟨opening_permitted kind phase _, ?_, trivial⟩, ?_, kind.rephase _⟩
      · rw [opened]
        exact continuation_permitted kind search page.cursor second
      · rw [List.map_cons, Ledger.after_cons, opened]
        exact Ledger.learn_refused _ refused
  | @scanned search reply second page next phase accepted variant read =>
      have opened := observe_opened phase accepted
      refine ⟨⟨opening_permitted kind phase _, ?_, trivial⟩, ?_, kind.rephase _⟩
      · rw [opened]
        exact continuation_permitted kind search page.cursor second
      · rw [List.map_cons, Ledger.after_cons, opened]
        exact Ledger.learn_accepted _ read
  | @unread search cursor reply phase refused =>
      have permitted := continuation_permitted kind search cursor reply
      rw [← ledger_started phase] at permitted
      exact ⟨⟨permitted, trivial⟩, Ledger.learn_refused _ refused, kind⟩
  | @read search cursor reply page phase accepted =>
      rw [ledger_started phase]
      exact ⟨⟨continuation_permitted kind search cursor reply, trivial⟩,
        Ledger.learn_accepted _ accepted, kind.rephase _⟩

/-- Everything that an operation does is permitted, and behind it the ledger says what the session
holds. -/
theorem move_observed (kind : SameKind start session) {move : Move}
    (run : MoveRun session move log after) :
    Ledger.Obeys start session.ledger (log.map .sent ++ [.did move]) ∧
      session.ledger.after (log.map .sent ++ [.did move]) = after.ledger ∧
      SameKind start after := by
  rw [Ledger.obeys_append, Ledger.after_append]
  cases run with
  | next run =>
      obtain ⟨obeyed, known, still⟩ := run.observed kind
      exact ⟨⟨obeyed, .next, trivial⟩, known, still⟩
  | init released =>
      obtain ⟨obeyed, known⟩ := released.observed start
      rw [known]
      exact ⟨⟨obeyed, .init rfl, trivial⟩, rfl, kind.rephase _⟩
  | clear released =>
      obtain ⟨obeyed, known⟩ := released.observed start
      rw [known]
      exact ⟨⟨obeyed, .clear rfl, trivial⟩, rfl, kind.rephase _⟩

/-- **The ledger says what the session holds.** Along a run everything happens with the permission
of what is known before it. -/
theorem Run.observed {happenings : List Happening} (fresh : start.phase = .idle)
    (run : Run start happenings session) :
    Ledger.Obeys start {} happenings ∧ Ledger.after {} happenings = session.ledger ∧
      SameKind start session := by
  induction run with
  | start => exact ⟨trivial, by simp only [ledger, search?, cursor?, fresh]; rfl, start.phase, rfl⟩
  | move move reached carried ih =>
      obtain ⟨before, known, kind⟩ := ih
      obtain ⟨obeyed, behind, still⟩ := move_observed kind (Move.work_run carried)
      rw [Ledger.obeys_append, Ledger.after_append, known]
      exact ⟨⟨before, obeyed⟩, behind, still⟩

/-- A cursor that is stored is not empty, and it is the one that was named last. -/
theorem Run.stored {happenings : List Happening} (fresh : start.phase = .idle)
    (run : Run start happenings session) {cursor : String}
    (held : session.cursor? = some cursor) :
    cursor ≠ "" ∧ LastAccepted happenings cursor := by
  obtain ⟨_, known, _⟩ := run.observed fresh
  have last : LastAccepted happenings cursor :=
    Ledger.after_cursor happenings ((congrArg Ledger.cursor known).trans held)
  exact ⟨last.nonempty, last⟩

/-- What holds of the cursor of a session behind the given happenings: what the session stores, what
each dispatch was permitted by, what the next request for a page does, and which responses are
accepted. -/
structure Threaded (start : Session) (happenings : List Happening) (session : Session) : Prop where
  known : session.ledger = Ledger.after {} happenings
  latest : ∀ before cursor, (Ledger.after {} before).cursor = some cursor →
    LastAccepted before cursor
  set : ∀ before search, (Ledger.after {} before).search = some search → LastSet before search
  searching : session.search? = none → session.cursor? = none
  stored : ∀ cursor, session.cursor? = some cursor →
    cursor ≠ "" ∧ LastAccepted happenings cursor
  permitted : ∀ before dispatch later, happenings = before ++ .sent dispatch :: later →
    (Ledger.after {} before).Permits start (.sent dispatch)
  next : ∀ log page after, session.next.Run log (page, after) → NextRun session log page after
  idle : session.phase = .idle → ∀ log page after, session.next.Run log (page, after) →
    log = [] ∧ page = none ∧ after = session
  accepted : ∀ response page, pageOf? (.ok response) = some page ↔
    Page.ofText response.body = .ok page ∧
      ((200 ≤ response.status ∧ response.status < 300) ∨
        (response.status = 404 ∧ page.hits ≠ []))
  unreachable : ∀ error, pageOf? (.error error) = none
  named : ∀ response page, pageOf? (.ok response) = some page →
    ∃ root, Json.parse? response.body = some (.object root) ∧
      Keyed.get? "_scroll_id" root = some (.text page.cursor)

/-- **The cursor is threaded.** Behind every run of a session on a shared client, its search and its
cursor are those of the last `init` and of the response accepted last, and every dispatch of the run
carried what was known when it was made. -/
theorem cursor_threaded {happenings : List Happening} (fresh : start.phase = .idle)
    (run : Run start happenings session) : Threaded start happenings session := by
  obtain ⟨obeyed, known, _⟩ := run.observed fresh
  refine
    { known := known.symm
      latest := fun before _ => Ledger.after_cursor before
      set := fun before _ => Ledger.after_search before
      searching := ?_
      stored := ?_
      permitted := ?_
      next := fun log page after asked => next_run asked
      idle := ?_
      accepted := accepted?_iff
      unreachable := fun _ => rfl
      named := fun response page accepted =>
        (Page.ofText_cursor ((accepted?_iff response page).mp accepted).1).2 }
  · intro unknown
    unfold search? at unknown
    unfold cursor?
    cases phase : session.phase with
    | idle => rfl
    | ready search => rfl
    | started search cursor =>
        rw [phase] at unknown
        cases unknown
  · exact fun cursor held => run.stored fresh held
  · rintro before dispatch later rfl
    exact obeyed.permits
  · intro phase log page after asked
    unfold next at asked
    rw [phase] at asked
    obtain ⟨rfl, same⟩ := Exchange.run_done_iff.mp asked
    cases same
    exact ⟨rfl, rfl, rfl⟩

/-- A scan whose second response does not know the cursor but has a hit. -/
theorem cursor_threaded_scan :
    let start := Session.scan 100 "1m" 0
    let search : Search := ⟨"idx", "t", "\x7b\x7d"⟩
    let first : Response :=
      { status := 200
        body :=
          "\x7b\"_scroll_id\":\"a\",\"_shards\":\x7b\"failed\":0\x7d,\"hits\":\x7b\"hits\":[]\x7d\x7d" }
    let second : Response :=
      { status := 404
        body :=
          "\x7b\"_scroll_id\":\"b\\n\",\"_shards\":\x7b\"failed\":0\x7d,\"hits\":\x7b\"hits\":[1]\x7d\x7d" }
    let happenings : List Happening :=
      [.did (.init search), .sent (start.opening search (.ok first)),
        .sent (start.continuation "a" (.ok second)), .did .next]
    let session := { start with phase := .started search "b\n" }
    start.phase = .idle ∧ Run start happenings session ∧ Threaded start happenings session := by
  intro start search first second happenings session
  obtain ⟨page, opened, given⟩ := Option.map_eq_some_iff.mp
    (by decide : (pageOf? (.ok first)).map Page.cursor = some "a")
  obtain ⟨next, read, named⟩ := Option.map_eq_some_iff.mp
    (by decide +kernel : (pageOf? (.ok second)).map Page.cursor = some "b\n")
  let ready := { start with phase := .ready search }
  have began : ((Move.init search).work start).Run [] (none, ready) := .done _
  have went : ready.next.Run
      [ready.opening search (.ok first), ready.continuation page.cursor (.ok second)]
      (some next, ready.behind search next) := next_scanned rfl opened rfl read
  have run := Run.move .next (.move (.init search) .start began) went
  rw [given, behind, named] at run
  exact ⟨rfl, run, cursor_threaded rfl run⟩

end Session
end ClusterClient.Scroll
