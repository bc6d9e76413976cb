import ClusterClient.Proofs.Scroll.Ledger
import Mathlib.Data.List.Count

/-! # Giving back what was opened

A session gives its cursor back whenever it stops holding one, and at no other time. Along every
run of a session on a shared client, the openings that were accepted and the cursors given back
differ in number by the one cursor that the session holds
(`ClusterClient.Scroll.Ledger.Obeys.balance`), so that they alternate
(`ClusterClient.Scroll.Session.cursor_released`).
-/

namespace ClusterClient.Scroll

namespace Happening

/-- Whether a search is opened: a page that may be accepted, asked for under another path than that
of a continuation. -/
def opens (start : Session) : Happening → Bool
  | .sent dispatch =>
    dispatch.call.method = .post ∧ dispatch.call.path ≠ start.continuationPath ∧
      (Session.pageOf? dispatch.reply).isSome
  | .did _ => false

/-- Whether a cursor is given back. -/
def releases : Happening → Bool
  | .sent dispatch => dispatch.call.method = .delete ∧ dispatch.call.path = "_search/scroll/"
  | .did _ => false

end Happening

/-- The path that opens a search is longer than the one that continues it. -/
theorem Session.openingPath_ne (session : Session) (search : Search) :
    session.openingPath search ≠ session.continuationPath := by
  intro same
  have lengths := congrArg String.length same
  unfold openingPath continuationPath at lengths
  repeat rw [String.length_append] at lengths
  have opening : "/_search?scroll=".length = 16 := by decide
  have size : "&size=".length = 6 := by decide
  have slash : "/".length = 1 := by decide
  have continuation : "_search/scroll?scroll=".length = 22 := by decide
  rw [opening, size, slash, continuation] at lengths
  omega

namespace Ledger

variable {start : Session} {ledger : Ledger}

/-- The number of cursors that are held. -/
def held (ledger : Ledger) : Nat :=
  match ledger.cursor with
  | none => 0
  | some _ => 1

theorem held_none (unopened : ledger.cursor = none) : ledger.held = 0 := by
  simp only [held, unopened]

theorem held_some {cursor : String} (opened : ledger.cursor = some cursor) : ledger.held = 1 := by
  simp only [held, opened]

/-- A request that opens a search does so if its reply is accepted. -/
theorem opens_opening {search : Search} {dispatch : Dispatch}
    (method : dispatch.call.method = .post)
    (path : dispatch.call.path = start.openingPath search) :
    Happening.opens start (.sent dispatch) = (Session.pageOf? dispatch.reply).isSome := by
  cases taken : (Session.pageOf? dispatch.reply).isSome with
  | false => exact decide_eq_false fun opened => Bool.false_ne_true (taken.symm.trans opened.2.2)
  | true =>
      exact decide_eq_true
        ⟨method, fun continued => start.openingPath_ne search (path.symm.trans continued), taken⟩

/-- No search gives a cursor back. -/
theorem releases_post {dispatch : Dispatch} (method : dispatch.call.method = .post) :
    Happening.releases (.sent dispatch) = false := by
  simp only [Happening.releases, method, reduceCtorEq, false_and, decide_false]

/-- **One happening.** A cursor comes with an opening and goes with a release. -/
theorem Permits.balance {happening : Happening} (permitted : ledger.Permits start happening) :
    (happening.opens start).toNat + ledger.held =
      happening.releases.toNat + (ledger.observe happening).held := by
  cases permitted with
  | @opening search dispatch searching unopened method path body =>
      rw [opens_opening method path, releases_post method, observe_post ledger method,
        held_none unopened]
      cases taken : Session.pageOf? dispatch.reply with
      | none =>
          rw [learn_refused ledger taken, held_none unopened]
          rfl
      | some page =>
          rw [learn_accepted ledger taken]
          rfl
  | @continuation search cursor dispatch searching opened method path body =>
      have continued : Happening.opens start (.sent dispatch) = false :=
        decide_eq_false fun opens => opens.2.1 path
      rw [continued, releases_post method, observe_post ledger method, held_some opened]
      cases taken : Session.pageOf? dispatch.reply with
      | none => rw [learn_refused ledger taken, held_some opened]
      | some page =>
          rw [learn_accepted ledger taken]
          rfl
  | @handback cursor dispatch opened method path body =>
      have unopened : Happening.opens start (.sent dispatch) = false := by
        simp only [Happening.opens, method, reduceCtorEq, false_and, decide_false]
      have released : Happening.releases (.sent dispatch) = true := by
        simp only [Happening.releases, method, path, and_self, decide_true]
      rw [unopened, released, observe_delete ledger method, held_some opened]
      rfl
  | next => exact (Nat.zero_add _).trans (Nat.zero_add _).symm
  | init released =>
      rw [held_none released]
      rfl
  | clear released =>
      rw [held_none released]
      rfl

/-- **Openings and releases balance.** They differ by the cursors held before and behind. -/
theorem Obeys.balance {happenings : List Happening} (obeyed : Obeys start ledger happenings) :
    happenings.countP (Happening.opens start) + ledger.held =
      happenings.countP Happening.releases + (ledger.after happenings).held := by
  induction happenings generalizing ledger with
  | nil => rfl
  | cons happening happenings ih =>
      have count (p : Happening → Bool) : (happening :: happenings).countP p =
          (p happening).toNat + happenings.countP p := by
        rw [List.countP_cons, Nat.add_comm]
        cases p happening with
        | false => rfl
        | true => rfl
      calc (happening :: happenings).countP (Happening.opens start) + ledger.held
          = happenings.countP (Happening.opens start) +
              ((happening.opens start).toNat + ledger.held) := by
            rw [count, Nat.add_right_comm, Nat.add_comm]
        _ = happening.releases.toNat +
              (happenings.countP (Happening.opens start) + (ledger.observe happening).held) := by
            rw [obeyed.1.balance, Nat.add_left_comm]
        _ = (happening :: happenings).countP Happening.releases +
              (ledger.after (happening :: happenings)).held := by
            rw [ih obeyed.2, count, after_cons, Nat.add_assoc]

/-- No more than one cursor is held. -/
theorem held_le_one (ledger : Ledger) : ledger.held ≤ 1 := by
  unfold held
  split
  · exact Nat.zero_le 1
  · exact Nat.le_refl 1

/-- What opens a search does not give a cursor back. -/
theorem releases_of_opens {happening : Happening} (opens : happening.opens start = true) :
    happening.releases = false := by
  cases happening with
  | did move => rfl
  | sent dispatch => exact releases_post (of_decide_eq_true opens).1

/-- A search is opened only without a cursor, and an opening that is accepted brings one. -/
theorem Permits.opened {happening : Happening} (permitted : ledger.Permits start happening)
    (opens : happening.opens start = true) :
    ledger.held = 0 ∧ (ledger.observe happening).held = 1 := by
  have balance := permitted.balance
  rw [opens, releases_of_opens opens, Bool.toNat_true, Bool.toNat_false] at balance
  have most := held_le_one (ledger.observe happening)
  omega

/-- Only a cursor that is held is given back, and behind it there is none. -/
theorem Permits.released {happening : Happening} (permitted : ledger.Permits start happening)
    (releases : happening.releases = true) :
    ledger.held = 1 ∧ (ledger.observe happening).held = 0 := by
  have balance := permitted.balance
  have unopened : happening.opens start = false := by
    cases opens : happening.opens start with
    | false => rfl
    | true => exact releases.symm.trans (releases_of_opens opens)
  rw [unopened, releases, Bool.toNat_true, Bool.toNat_false] at balance
  have most := held_le_one ledger
  omega

/-- What happens between two happenings, and what is known around it. -/
theorem Obeys.between {before between later : List Happening} {first second : Happening}
    (obeyed : Obeys start ledger (before ++ first :: between ++ second :: later)) :
    ∃ known : Ledger, known.Permits start first ∧ Obeys start (known.observe first) between ∧
      ((known.observe first).after between).Permits start second := by
  rw [obeys_append, obeys_append] at obeyed
  obtain ⟨⟨_, permitted, passed⟩, last, _⟩ := obeyed
  rw [after_append, after_cons] at last
  exact ⟨ledger.after before, permitted, passed, last⟩

/-- Between two openings that are accepted a cursor is given back. -/
theorem Obeys.release_between {before between later : List Happening} {first second : Happening}
    (obeyed : Obeys start ledger (before ++ first :: between ++ second :: later))
    (opened : first.opens start = true) (reopened : second.opens start = true) :
    ∃ happening ∈ between, happening.releases = true := by
  obtain ⟨known, permitted, passed, last⟩ := obeyed.between
  have balance := passed.balance
  rw [(permitted.opened opened).2, (last.opened reopened).1] at balance
  exact List.countP_pos_iff.mp (by omega)

/-- Between two cursors that are given back an opening is accepted. -/
theorem Obeys.opening_between {before between later : List Happening} {first second : Happening}
    (obeyed : Obeys start ledger (before ++ first :: between ++ second :: later))
    (released : first.releases = true) (again : second.releases = true) :
    ∃ happening ∈ between, happening.opens start = true := by
  obtain ⟨known, permitted, passed, last⟩ := obeyed.between
  have balance := passed.balance
  rw [(permitted.released released).2, (last.released again).1] at balance
  exact List.countP_pos_iff.mp (by omega)

/-- Of the dispatches that are permitted, the openings are those under the path of a search. -/
theorem Permits.opens_iff {dispatch : Dispatch}
    (permitted : ledger.Permits start (.sent dispatch)) :
    Happening.opens start (.sent dispatch) = true ↔
      (∃ search : Search, dispatch.call = ⟨.post, start.openingPath search, search.body⟩) ∧
        (Session.pageOf? dispatch.reply).isSome := by
  constructor
  · intro opens
    obtain ⟨post, other, taken⟩ := of_decide_eq_true opens
    cases permitted with
    | @opening search _ searching unopened method path body =>
        refine ⟨⟨search, ?_⟩, taken⟩
        rw [← body, ← method]
        exact congrArg (fun path => Call.mk dispatch.call.method path dispatch.call.body) path
    | continuation searching held method path body => exact absurd path other
    | handback held method path body =>
        rw [method] at post
        cases post
  · rintro ⟨⟨search, call⟩, taken⟩
    have method : dispatch.call.method = .post := by rw [call]
    have path : dispatch.call.path = start.openingPath search := by rw [call]
    rw [opens_opening method path]
    exact taken

end Ledger

namespace Session

variable {start session after : Session} {log : List Dispatch} {page : Option Page}

/-- A session holds a cursor if it has one. -/
theorem ledger_held (session : Session) :
    session.ledger.held = if session.cursor?.isSome then 1 else 0 := by
  cases cursor : session.cursor? with
  | none => exact Ledger.held_none cursor
  | some _ => exact Ledger.held_some cursor

/-- A request for a page gives nothing back, and behind it a cursor is still held. -/
theorem NextRun.posts (run : NextRun session log page after) :
    (∀ dispatch ∈ log, dispatch.call.method = .post) ∧
      (session.cursor?.isSome → after.cursor?.isSome) := by
  cases run with
  | idle phase => exact ⟨fun _ none => absurd none List.not_mem_nil, id⟩
  | unopened phase refused =>
      exact ⟨List.forall_mem_singleton.mpr rfl, id⟩
  | opened phase accepted variant =>
      exact ⟨List.forall_mem_singleton.mpr rfl, fun _ => rfl⟩
  | scanUnread phase accepted variant refused =>
      exact ⟨List.forall_mem_cons.mpr ⟨rfl, List.forall_mem_singleton.mpr rfl⟩, fun _ => rfl⟩
  | scanned phase accepted variant read =>
      exact ⟨List.forall_mem_cons.mpr ⟨rfl, List.forall_mem_singleton.mpr rfl⟩, fun _ => rfl⟩
  | unread phase refused => exact ⟨List.forall_mem_singleton.mpr rfl, id⟩
  | read phase accepted => exact ⟨List.forall_mem_singleton.mpr rfl, fun _ => rfl⟩

/-- A request for a page gives no cursor back. -/
theorem NextRun.releases_none (run : NextRun session log page after) :
    (log.map Happening.sent).countP Happening.releases = 0 := by
  rw [List.countP_eq_zero]
  intro happening member
  obtain ⟨dispatch, sent, rfl⟩ := List.mem_map.mp member
  rw [Ledger.releases_post (run.posts.1 dispatch sent)]
  exact Bool.false_ne_true

/-- A release gives back as many cursors as are held. -/
theorem Released.releases (released : Released session log) :
    (log.map Happening.sent).countP Happening.releases = session.ledger.held := by
  cases released with
  | nothing unopened => exact (Ledger.held_none unopened).symm
  | sent held => exact (Ledger.held_some held).symm

/-- The dispatches give back the cursor of the session, if it has one. -/
def GivesBack (session : Session) (log : List Dispatch) : Prop :=
  match session.cursor? with
  | none => log = []
  | some cursor => ∃ body reply, log = [⟨⟨.delete, "_search/scroll/", body⟩, reply⟩] ∧
      Json.parse? body = some (.object [("scroll_id", .array [.text cursor])])

/-- What is given back is the cursor of the session. -/
theorem Released.givesBack (released : Released session log) : session.GivesBack log := by
  unfold GivesBack
  cases released with
  | nothing unopened => rw [unopened]
  | @sent cursor reply held =>
      rw [held]
      exact ⟨_, reply, rfl, Json.parse?_listMember "scroll_id" cursor⟩

end Session

/-- An operation gives a cursor back just if it leaves the session without the one it held. -/
theorem MoveRun.releases {session after : Session} {log : List Dispatch} {move : Move}
    (run : MoveRun session move log after) :
    (log.map Happening.sent).countP Happening.releases =
      if session.cursor?.isSome ∧ after.cursor? = none then 1 else 0 := by
  cases run with
  | next run =>
      rw [run.releases_none, if_neg]
      rintro ⟨started, ended⟩
      have still := run.posts.2 started
      rw [ended] at still
      cases still
  | init released =>
      rw [released.releases, Session.ledger_held]
      exact (if_congr (and_iff_left rfl) rfl rfl).symm
  | clear released =>
      rw [released.releases, Session.ledger_held]
      exact (if_congr (and_iff_left rfl) rfl rfl).symm

namespace Session

variable {start session : Session}

/-- What holds of the cursors that a session gives back behind the given happenings. -/
structure Balanced (start : Session) (happenings : List Happening) (session : Session) : Prop where
  held : ∀ cursor, session.cursor? = some cursor → LastAccepted happenings cursor
  leaving : ∀ (move : Move) log page after, (move.work session).Run log (page, after) →
    (log.map Happening.sent).countP Happening.releases =
      if session.cursor?.isSome ∧ after.cursor? = none then 1 else 0
  init : ∀ search log after, (session.init search).Run log after →
    session.GivesBack log ∧ after = { session with phase := .ready search }
  next : ∀ log page after, session.next.Run log (page, after) →
    (∀ dispatch ∈ log, dispatch.call.method = .post) ∧
      (session.cursor?.isSome → after.cursor?.isSome)
  clear : ∀ log after, session.clear.Run log after →
    session.GivesBack log ∧ after = { session with phase := .idle }
  drop : ∀ locked log, (session.drop locked).Run log () →
    if locked then log = [] else session.GivesBack log
  opening : ∀ dispatch, .sent dispatch ∈ happenings →
    (Happening.opens start (.sent dispatch) = true ↔
      (∃ search : Search, dispatch.call = ⟨.post, start.openingPath search, search.body⟩) ∧
        (pageOf? dispatch.reply).isSome)
  balance : happenings.countP (Happening.opens start) =
    happenings.countP Happening.releases + if session.cursor?.isSome then 1 else 0
  throughout : ∀ before later, happenings = before ++ later →
    before.countP Happening.releases ≤ before.countP (Happening.opens start) ∧
      before.countP (Happening.opens start) ≤ before.countP Happening.releases + 1
  dropped : ∀ log, (session.drop false).Run log () →
    (happenings ++ log.map Happening.sent).countP (Happening.opens start) =
      (happenings ++ log.map Happening.sent).countP Happening.releases
  released_between : ∀ before first between second later,
    happenings = before ++ first :: between ++ second :: later →
      first.opens start = true → second.opens start = true →
        ∃ happening ∈ between, happening.releases = true
  opened_between : ∀ before first between second later,
    happenings = before ++ first :: between ++ second :: later →
      first.releases = true → second.releases = true →
        ∃ happening ∈ between, happening.opens start = true

/-- **The cursor is given back.** Along every run of a session on a shared client, the cursor that
was named last is given back whenever the session stops holding it, once for each opening that was
accepted, and no other cursor is given back. -/
theorem cursor_released {happenings : List Happening} (fresh : start.phase = .idle)
    (run : Run start happenings session) : Balanced start happenings session := by
  obtain ⟨obeyed, known, _⟩ := run.observed fresh
  refine
    { held := fun cursor stored => (run.stored fresh stored).2
      leaving := fun move log page after carried => (Move.work_run carried).releases
      init := ?_
      next := fun log page after asked => (next_run asked).posts
      clear := ?_
      drop := ?_
      opening := ?_
      balance := ?_
      throughout := ?_
      dropped := ?_
      released_between := ?_
      opened_between := ?_ }
  · intro search log after begun
    exact ⟨(init_run begun).1.givesBack, (init_run begun).2⟩
  · intro log after ended
    exact ⟨(clear_run ended).1.givesBack, (clear_run ended).2⟩
  · intro locked log discarded
    have released := drop_run discarded
    cases locked with
    | true => exact released
    | false => exact released.givesBack
  · intro dispatch member
    obtain ⟨before, later, rfl⟩ := List.append_of_mem member
    exact obeyed.permits.opens_iff
  · have balance := obeyed.balance
    rw [known, ledger_held] at balance
    exact balance
  · rintro before later rfl
    have balance := ((Ledger.obeys_append {} before later).mp obeyed).1.balance
    rw [Ledger.held_none rfl, Nat.add_zero] at balance
    have most := Ledger.held_le_one (Ledger.after {} before)
    omega
  · intro log discarded
    have released : Released session log := drop_run discarded
    obtain ⟨permitted, behind⟩ := released.observed start
    rw [← known] at permitted behind
    have balance := ((Ledger.obeys_append {} happenings _).mpr ⟨obeyed, permitted⟩).balance
    rw [Ledger.after_append, behind] at balance
    exact balance
  · rintro before first between second later rfl
    exact obeyed.release_between
  · rintro before first between second later rfl
    exact obeyed.opening_between

/-- A session that is set to another search while it holds a cursor, which is not known any more. -/
theorem cursor_released_standard :
    let start := Session.standard 100 "1m"
    let search : Search := ⟨"idx", "t", "\x7b\x7d"⟩
    let first : Response :=
      { status := 200
        body :=
          "\x7b\"_scroll_id\":\"a\",\"_shards\":\x7b\"failed\":0\x7d,\"hits\":\x7b\"hits\":[]\x7d\x7d" }
    let gone : Response := { status := 404, body := "" }
    let happenings : List Happening :=
      [.did (.init search), .sent (start.opening search (.ok first)), .did .next,
        .sent (handback "a" (.ok gone)), .did (.init search)]
    let session := { start with phase := .ready search }
    start.phase = .idle ∧ Run start happenings session ∧ Balanced start happenings session := by
  intro start search first gone happenings session
  obtain ⟨page, opened, given⟩ := Option.map_eq_some_iff.mp
    (by decide : (pageOf? (.ok first)).map Page.cursor = some "a")
  have began : ((Move.init search).work start).Run [] (none, session) := .done _
  have went : session.next.Run [session.opening search (.ok first)]
      (some page, session.behind search page) := next_opened rfl opened rfl
  rw [behind, given] at went
  have again : ((Move.init search).work { start with phase := .started search "a" }).Run
      [handback "a" (.ok gone)] (none, session) := .answered gone (by decide) (.done _)
  have run := Run.move (.init search) (.move .next (.move (.init search) .start began) went) again
  exact ⟨rfl, run, cursor_released rfl run⟩

end Session
end ClusterClient.Scroll
