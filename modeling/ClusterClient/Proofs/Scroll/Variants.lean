import ClusterClient.Proofs.Client.Echo
import ClusterClient.Proofs.Independence

/-! # A scan is a standard session with one hidden page

A session of the scan variant does what one of the standard variant does with the same settings,
search and cursor, but for two things: the path that opens the search has a suffix, and the page
that opens it is passed over. On the same client, whatever its nodes answer, the two get the same
pages, keep the same cursors, send the same requests but for the suffix and leave the client in the
same state (`ClusterClient.Scroll.Session.scan_refines_standard`). This carries over to all that a
user does with a session (`ClusterClient.Scroll.Session.carryOut_echoed`).
-/

namespace ClusterClient.Scroll

namespace Session

open Exchange

/-- The session with another variant. -/
def inVariant (variant : Variant) (session : Session) : Session := { session with variant }

/-- What the path that opens a scan has behind that of the standard variant. -/
def scanSuffix : String := "&search_type=scan"

/-- A scan opens its search under the path of the standard variant and its own suffix. -/
theorem openingPath_scan (session : Session) (search : Search) :
    (session.inVariant .scan).openingPath search =
      (session.inVariant .standard).openingPath search ++ scanSuffix := by
  simp only [openingPath, inVariant, scanSuffix, String.append_empty]

/-- The answer to an operation, with the session behind it in another variant. -/
def turned (variant : Variant) (answer : Option Page × Session) : Option Page × Session :=
  (answer.1, answer.2.inVariant variant)

section Echo

variable (session : Session) (variant : Variant)

/-- Fetching a page under a longer path echoes fetching it. -/
theorem fetch_echoes (suffix path body : String) :
    ((session.inVariant variant).fetch (path ++ suffix) body).Echoes [suffix] variant.name id
      (session.fetch path body) := by
  simp only [fetch, call, send_bind, done_bind]
  refine .send ⟨.post, path, body⟩ (List.mem_singleton_self suffix) fun reply heard same => ?_
  cases heard with
  | error _ =>
      cases reply with
      | error _ => exact .done none
      | ok _ => cases same
  | ok response =>
      cases reply with
      | error _ => cases same
      | ok given =>
          cases same
          cases accepted : accepted? response with
          | none =>
              simp only [accepted]
              exact .done none
          | some page =>
              have counted : Event.page variant.name = (Event.page session.variant.name).paged
                  variant.name := rfl
              simp only [accepted, count, note_bind, done_bind, inVariant, counted]
              exact .note (.done (some page))

/-- Behind the opening, sessions of both variants make the same calls. -/
theorem proceed_echoes (search : Search) (cursor : String) :
    ((session.inVariant variant).proceed search cursor).Echoes [""] variant.name (turned variant)
      (session.proceed search cursor) := by
  have fetched := session.fetch_echoes variant "" session.continuationPath (continuationBody cursor)
  rw [String.append_empty] at fetched
  refine fetched.bind fun page => ?_
  cases page with
  | none => exact .done (none, session)
  | some page => exact .done (some page, session.behind search page)

/-- Unless it opens a search, a request for a page is the same in both variants. -/
theorem next_echoes (unready : ∀ search, session.phase ≠ .ready search) :
    (session.inVariant variant).next.Echoes [""] variant.name (turned variant) session.next := by
  obtain ⟨own, pageSize, ttl, phase⟩ := session
  cases phase with
  | idle => exact .done (none, _)
  | ready search => exact absurd rfl (unready search)
  | started search cursor => exact proceed_echoes _ variant search cursor

/-- The request that opens a search. -/
def launch (session : Session) (search : Search) : Exchange (Option Page) :=
  session.fetch (session.openingPath search) search.body

/-- The opening of a scan echoes that of the standard variant, with the suffix. -/
theorem launch_echoes (search : Search) :
    ((session.inVariant .scan).launch search).Echoes [scanSuffix] Variant.scan.name id
      ((session.inVariant .standard).launch search) := by
  rw [launch, openingPath_scan]
  exact (session.inVariant .standard).fetch_echoes .scan scanSuffix _ _

variable {session} {search : Search} (ready : session.phase = .ready search)
include ready

/-- The first page of the standard variant is the one that opens the search. -/
theorem next_standard :
    (session.inVariant .standard).next = (do
      match ← (session.inVariant .standard).launch search with
      | none => return (none, session.inVariant .standard)
      | some page => return (some page, (session.inVariant .standard).behind search page)) := by
  obtain ⟨own, pageSize, ttl, phase⟩ := session
  cases ready
  rfl

/-- The first page of a scan is the one behind that. -/
theorem next_scan :
    (session.inVariant .scan).next = (do
      match ← (session.inVariant .scan).launch search with
      | none => return (none, session.inVariant .scan)
      | some page =>
        ((session.inVariant .scan).behind search page).proceed search page.cursor) := by
  obtain ⟨own, pageSize, ttl, phase⟩ := session
  cases ready
  rfl

/-- A session of the standard variant gives the answer to its opening. -/
theorem launch_of_next {client after : Client} {page : Option Page} {behind : Session}
    (run : client.run (session.inVariant .standard).next = ((page, behind), after)) :
    client.run ((session.inVariant .standard).launch search) = (page, after) ∧
      behind = page.elim (session.inVariant .standard)
        ((session.inVariant .standard).behind search) := by
  rw [next_standard ready, Client.run_bind] at run
  cases launched : client.run ((session.inVariant .standard).launch search) with
  | mk answer between =>
      rw [launched] at run
      cases answer with
      | none =>
          cases run
          exact ⟨rfl, rfl⟩
      | some page =>
          cases run
          exact ⟨rfl, rfl⟩

end Echo

/-- How the client behind a scan stands to the client behind the same search in the standard
variant: they differ in nothing but the URLs of the requests that opened the search and the name
under which the pages since `before` were counted. -/
structure Matches (before scanned standard : Client) (opening rest : List Request) : Prop where
  state : scanned.bare = standard.bare
  standardRequests : standard.transport.executed = before.transport.executed ++ opening ++ rest
  scanRequests : scanned.transport.executed =
    before.transport.executed ++ opening.map (Request.extended scanSuffix) ++ rest
  counted : ∃ events : List Event,
    standard.metrics = events.foldl Registry.record before.metrics ∧
      scanned.metrics =
        (events.map (Event.paged Variant.scan.name)).foldl Registry.record before.metrics

namespace Matches

variable {before scanned standard : Client} {opening rest : List Request}

theorem refl (client : Client) : Matches client client client [] [] :=
  ⟨rfl, by simp only [List.append_nil], by simp only [List.map_nil, List.append_nil],
    [], rfl, rfl⟩

/-- Behind the opening of a search on the same client. -/
theorem of_opening {α : Type} {work other : Exchange α} {client : Client}
    (echoed : Echoed [scanSuffix] Variant.scan.name id work other client client) :
    Matches client (client.run work).2 (client.run other).2 (client.requests other) [] where
  state := echoed.bare
  standardRequests := by rw [client.run_executed, List.append_nil]
  scanRequests := by rw [client.run_executed, echoed.requests, List.append_nil]
  counted := ⟨client.events other, client.run_counted other, echoed.metrics⟩

/-- Behind work that is the same in both variants. -/
theorem trans {α β : Type} {image : β → α} {work : Exchange α} {other : Exchange β}
    (first : Matches before scanned standard opening rest)
    (echoed : Echoed [""] Variant.scan.name image work other scanned standard) :
    Matches before (scanned.run work).2 (standard.run other).2 opening
      (rest ++ standard.requests other) where
  state := echoed.bare
  standardRequests := by
    rw [standard.run_executed, first.standardRequests, List.append_assoc]
  scanRequests := by
    have unchanged : Request.extended "" = id := funext Request.extended_empty
    rw [scanned.run_executed, first.scanRequests, echoed.requests, unchanged, List.map_id,
      List.append_assoc]
  counted := by
    obtain ⟨events, counted, paged⟩ := first.counted
    refine ⟨events ++ standard.events other, ?_, ?_⟩
    · rw [standard.run_counted, counted, List.foldl_append]
    · rw [echoed.metrics, paged, List.map_append, List.foldl_append]

end Matches

/-- What a scan does, next to a session of the standard variant that has the same settings, search
and cursor, on the same client. -/
structure RefinesStandard (session : Session) (client : Client) : Prop where
  /-- If a search is not opened, there is no page in both variants. -/
  unopened : ∀ search behind standard, session.phase = .ready search →
    client.run (session.inVariant .standard).next = ((none, behind), standard) →
    ∃ scanned opening,
      client.run (session.inVariant .scan).next = ((none, behind.inVariant .scan), scanned) ∧
        Matches client scanned standard opening []
  /-- The page that opens a search is passed over. -/
  opened : ∀ search page middle between result behind standard, session.phase = .ready search →
    client.run (session.inVariant .standard).next = ((some page, middle), between) →
    between.run middle.next = ((result, behind), standard) →
    ∃ scanned opening rest,
      client.run (session.inVariant .scan).next = ((result, behind.inVariant .scan), scanned) ∧
        between.transport.executed = client.transport.executed ++ opening ∧
        Matches client scanned standard opening rest
  next : ∀ result behind standard, (∀ search, session.phase ≠ .ready search) →
    client.run (session.inVariant .standard).next = ((result, behind), standard) →
    ∃ scanned rest,
      client.run (session.inVariant .scan).next = ((result, behind.inVariant .scan), scanned) ∧
        Matches client scanned standard [] rest
  clear : client.run (session.inVariant .scan).clear =
    ((client.run (session.inVariant .standard).clear).1.inVariant .scan,
      (client.run (session.inVariant .standard).clear).2)
  init : ∀ search, client.run ((session.inVariant .scan).init search) =
    ((client.run ((session.inVariant .standard).init search)).1.inVariant .scan,
      (client.run ((session.inVariant .standard).init search)).2)
  drop : ∀ locked, client.run ((session.inVariant .scan).drop locked) =
    client.run ((session.inVariant .standard).drop locked)

/-- **Scan is standard with one hidden page.** -/
theorem scan_refines_standard (session : Session) (client : Client) :
    RefinesStandard session client where
  unopened := by
    intro search behind standard ready run
    obtain ⟨launched, rfl⟩ := launch_of_next ready run
    have first := (session.launch_echoes search).run (rfl : client.bare = client.bare)
    have matched := Matches.of_opening first
    have value := first.value
    rw [launched] at value matched
    rw [next_scan ready, Client.run_bind, value]
    exact ⟨_, _, rfl, matched⟩
  opened := by
    intro search page middle between result behind standard ready run continued
    obtain ⟨launched, rfl⟩ := launch_of_next ready run
    have first := (session.launch_echoes search).run (rfl : client.bare = client.bare)
    have executed := client.run_executed ((session.inVariant .standard).launch search)
    have second := (((session.inVariant .standard).behind search page).proceed_echoes .scan search
      page.cursor).run first.bare
    have matched := (Matches.of_opening first).trans second
    have passed := first.value
    have value := second.value
    rw [launched] at executed matched passed value
    change between.run
      (((session.inVariant .standard).behind search page).proceed search page.cursor) = _
      at continued
    rw [continued] at matched value
    rw [next_scan ready, Client.run_bind, passed]
    exact ⟨_, _, _, Prod.ext value rfl, executed, matched⟩
  next := by
    intro result behind standard unready run
    have same := ((session.inVariant .standard).next_echoes .scan unready).run
      (rfl : client.bare = client.bare)
    have matched := (Matches.refl client).trans same
    have value := same.value
    rw [run] at matched value
    exact ⟨_, _, Prod.ext value rfl, matched⟩
  clear := by
    rw [Session.clear, Client.run_bind, Session.clear, Client.run_bind]
    rfl
  init := by
    intro search
    rw [Session.init, Client.run_bind, Session.init, Client.run_bind]
    rfl
  drop := by
    intro locked
    rfl

/-- The next page, where the page that opens a search is passed over. -/
def nextPassing (session : Session) : Exchange (Option Page × Session) :=
  match session.phase with
  | .ready _ => do
    match ← session.next with
    | (none, behind) => return (none, behind)
    | (some _, behind) => behind.next
  | _ => session.next

/-- Passing the first page by is launching the search and going on. -/
theorem nextPassing_ready {session : Session} {search : Search}
    (ready : session.phase = .ready search) :
    (session.inVariant .standard).nextPassing = (do
      match ← (session.inVariant .standard).launch search with
      | none => return (none, session.inVariant .standard)
      | some page =>
        ((session.inVariant .standard).behind search page).proceed search page.cursor) := by
  have phase : (session.inVariant .standard).phase = .ready search := ready
  simp only [nextPassing, phase]
  rw [next_standard ready, bind_assoc]
  refine congrArg _ (funext fun page => ?_)
  cases page with
  | none => rfl
  | some page => rfl

/-- There is nothing to pass by once the search is open. -/
theorem nextPassing_unready {session : Session}
    (unready : ∀ search, session.phase ≠ .ready search) :
    session.nextPassing = session.next := by
  unfold nextPassing
  split
  · rename_i search ready
    exact absurd ready (unready search)
  · rfl

/-- In every phase the next page of a scan echoes that of the standard variant, where the page that
opens a search is passed over. -/
theorem next_echoes_passing (session : Session) :
    (session.inVariant .scan).next.Echoes ["", scanSuffix] Variant.scan.name (turned .scan)
      (session.inVariant .standard).nextPassing := by
  have further : [""] ⊆ ["", scanSuffix] := List.cons_subset_cons _ (List.nil_subset _)
  have launching : [scanSuffix] ⊆ ["", scanSuffix] := List.subset_cons_self _ _
  by_cases unready : ∀ search, session.phase ≠ .ready search
  · have still : ∀ search, (session.inVariant .standard).phase ≠ .ready search := unready
    rw [nextPassing_unready still]
    exact ((session.inVariant .standard).next_echoes .scan unready).mono further
  · obtain ⟨search, ready⟩ := not_forall_not.mp unready
    rw [next_scan ready, nextPassing_ready ready]
    refine ((session.launch_echoes search).mono launching).bind fun page => ?_
    cases page with
    | none => exact .done (none, session.inVariant .standard)
    | some page =>
        exact (proceed_echoes ((session.inVariant .standard).behind search page) .scan search
          page.cursor).mono further

/-- A scan gives its cursor back like a standard session. -/
theorem releaseOwn_echoes (session : Session) :
    session.releaseOwn.Echoes ["", scanSuffix] Variant.scan.name id session.releaseOwn := by
  unfold releaseOwn
  cases session.cursor? with
  | none => exact .done ()
  | some cursor => exact .send_same _ (List.mem_cons_self ..) fun _ _ _ => .done ()

/-- A scan sets its search like a standard session. -/
theorem init_echoes (session : Session) (search : Search) :
    ((session.inVariant .scan).init search).Echoes ["", scanSuffix] Variant.scan.name
      (inVariant .scan) ((session.inVariant .standard).init search) :=
  session.releaseOwn_echoes.bind fun _ =>
    .done { session.inVariant .standard with phase := .ready search }

/-- A scan ends its search like a standard session. -/
theorem clear_echoes (session : Session) :
    (session.inVariant .scan).clear.Echoes ["", scanSuffix] Variant.scan.name (inVariant .scan)
      (session.inVariant .standard).clear :=
  session.releaseOwn_echoes.bind fun _ =>
    .done { session.inVariant .standard with phase := .idle }

end Session

/-- An operation of a session of the standard variant, where the page that opens a search is passed
over. -/
def Move.passing (session : Session) : Move → Exchange (Option Page × Session)
  | .next => (session.inVariant .standard).nextPassing
  | move => move.work (session.inVariant .standard)

/-- Every move of a scan echoes that of a standard session that passes the first page by. -/
theorem Move.work_echoes (move : Move) (session : Session) :
    (move.work (session.inVariant .scan)).Echoes ["", Session.scanSuffix] Variant.scan.name
      (Session.turned .scan) (move.passing session) := by
  cases move with
  | next => exact session.next_echoes_passing
  | init search =>
      refine (session.init_echoes search).bind fun behind => ?_
      exact .done (none, behind)
  | clear =>
      refine session.clear_echoes.bind fun behind => ?_
      exact .done (none, behind)

/-- **Whole sessions.** Whatever is done with a scan, it echoes what is done with a session of the
standard variant, where each page that opens a search is passed over. -/
theorem Session.carryOut_echoes (moves : Script Move (Option Page)) (session : Session) :
    (moves.carryOut Move.work (session.inVariant .scan)).Echoes ["", scanSuffix]
      Variant.scan.name (fun got => (got.1, got.2.inVariant .scan))
      (moves.carryOut Move.passing session) := by
  induction moves generalizing session with
  | ended => exact .done ([], session)
  | act move next ih =>
      refine (move.work_echoes session).bind fun answer => ?_
      refine (ih answer.1 answer.2).bind fun rest => ?_
      exact .done (answer.1 :: rest.1, rest.2)

/-- On the same client the two get the same pages and leave the client in the same state. -/
theorem Session.carryOut_echoed (moves : Script Move (Option Page)) (session : Session)
    (client : Client) :
    Exchange.Echoed ["", scanSuffix] Variant.scan.name (fun got => (got.1, got.2.inVariant .scan))
      (moves.carryOut Move.work (session.inVariant .scan)) (moves.carryOut Move.passing session)
      client client :=
  (session.carryOut_echoes moves).run rfl

end ClusterClient.Scroll
