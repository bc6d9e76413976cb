import ClusterClient.Command.Export
import ClusterClient.Proofs.Scroll.Release

/-! # What ends an export

An export asks for pages until one has no hits or none comes. Whether none came because there is
none or because a request failed makes no difference to it
(`ClusterClient.Command.exportHits_ends`): it succeeds either way, and only the reply to its last
request for a page tells whether the hits are all there are.
-/

namespace ClusterClient.Command

open Scroll

/-- Whether a reply says that there are no more hits. -/
def RanDry : Reply → Prop
  | .error _ => False
  | .ok response =>
    response.status = 404 ∨ ∃ page, Session.accepted? response = some page ∧ page.hits = []

/-- Whether a request for a page failed: no node answered, or the answer cannot be trusted. -/
def Failed : Reply → Prop
  | .error _ => True
  | .ok response => response.status ≠ 404 ∧ Session.accepted? response = none

/-- The dispatches that ask for pages. -/
def asked (log : List Dispatch) : List Dispatch := log.filter fun dispatch =>
  dispatch.call.method = .post

/-- Whether the bound on the number of pages makes no difference: with a larger one no more requests
are sent. -/
def Settled (client : Client) (bound : Nat) (options : ExportOptions) (disk : Disk) : Prop :=
  client.log (exportHits (bound + 1) options disk) = client.log (exportHits bound options disk)

/-- A reply behind which there is no next page, or a page without hits. -/
def Final (reply : Reply) : Prop := ∀ page, Session.pageOf? reply = some page → page.hits = []

/-- A reply that ends the pages says that there are no more, unless it is a failure. -/
theorem Final.ranDry_iff {reply : Reply} (final : Final reply) :
    RanDry reply ↔ ¬ Failed reply := by
  cases reply with
  | error error => exact ⟨False.elim, fun right => right trivial⟩
  | ok response =>
      constructor
      · rintro (missing | ⟨page, accepted, _⟩) ⟨known, refused⟩
        · exact known missing
        · rw [accepted] at refused
          cases refused
      · intro right
        by_cases missing : response.status = 404
        · exact .inl missing
        · cases accepted : Session.accepted? response with
          | none => exact absurd ⟨missing, accepted⟩ right
          | some page => exact .inr ⟨page, accepted, final page accepted⟩

section Pages

variable {session : Session}

/-- Whether a page keeps an export going. -/
def Continues (page : Option Page) : Prop := ∃ given, page = some given ∧ given.hits ≠ []

/-- The last of the dispatches for a page tells which page there is, and there is at most one before
it, which brings a page of its own. -/
theorem last_dispatch {log : List Dispatch} {page : Option Page} {after : Session}
    (run : Session.NextRun session log page after) (active : session.phase ≠ .idle) :
    ∃ before last, log = before ++ [last] ∧ Session.pageOf? last.reply = page ∧
      before.length ≤ 1 ∧ ∀ dispatch ∈ before, Session.pageOf? dispatch.reply ≠ none := by
  have opened : ∀ {dispatch : Dispatch} {given : Page},
      Session.pageOf? dispatch.reply = some given →
        ∀ other ∈ [dispatch], Session.pageOf? other.reply ≠ none := by
    intro dispatch given accepted
    rw [List.forall_mem_singleton, accepted]
    exact Option.some_ne_none given
  cases run with
  | idle phase => exact absurd phase active
  | unopened phase refused => exact ⟨[], _, rfl, refused, Nat.zero_le 1, List.forall_mem_nil _⟩
  | opened phase accepted variant =>
      exact ⟨[], _, rfl, accepted, Nat.zero_le 1, List.forall_mem_nil _⟩
  | scanUnread phase accepted variant refused =>
      exact ⟨[_], _, rfl, refused, Nat.le_refl 1, opened accepted⟩
  | scanned phase accepted variant read =>
      exact ⟨[_], _, rfl, read, Nat.le_refl 1, opened accepted⟩
  | unread phase refused => exact ⟨[], _, rfl, refused, Nat.zero_le 1, List.forall_mem_nil _⟩
  | read phase accepted => exact ⟨[], _, rfl, accepted, Nat.zero_le 1, List.forall_mem_nil _⟩

/-- The last of the dispatches for a page that does not keep an export going. -/
theorem last_final {log : List Dispatch} {page : Option Page} {after : Session}
    (run : Session.NextRun session log page after) (active : session.phase ≠ .idle)
    (stops : ¬ Continues page) : ∃ before last, log = before ++ [last] ∧ Final last.reply := by
  obtain ⟨before, last, split, rfl, _⟩ := last_dispatch run active
  refine ⟨before, last, split, ?_⟩
  intro given came
  by_contra some_hit
  exact stops ⟨given, came, some_hit⟩

/-- Behind a page the session has a search. -/
theorem active_behind {log : List Dispatch} {page : Option Page} {after : Session}
    (run : Session.NextRun session log page after) (came : page.isSome = true) :
    after.phase ≠ .idle := by
  cases run with
  | idle phase => cases came
  | unopened phase refused => cases came
  | scanUnread phase accepted variant refused => cases came
  | unread phase refused => cases came
  | opened phase accepted variant => exact Phase.noConfusion
  | scanned phase accepted variant read => exact Phase.noConfusion
  | read phase accepted => exact Phase.noConfusion

/-- A session with a search asks the cluster for a page. -/
theorem log_ne_nil {log : List Dispatch} {page : Option Page} {after : Session}
    (run : Session.NextRun session log page after) (active : session.phase ≠ .idle) : log ≠ [] := by
  cases run with
  | idle phase => exact absurd phase active
  | _ => exact List.cons_ne_nil _ _

variable (client : Client)

/-- A request for a page on a client of one's own is a run of it. -/
theorem next_alone (session : Session) :
    Session.NextRun session (client.log session.next) (client.run session.next).1.1
      (client.run session.next).1.2 :=
  Session.next_run (Exchange.Run.alone session.next client)

/-- A page without hits, or none, ends the export of pages. -/
theorem exportPages_stops (stops : ¬ Continues (client.run session.next).1.1) (bound : Nat) :
    client.log (exportPages (bound + 1) session) = client.log session.next ∧
      client.run (exportPages (bound + 1) session) =
        (([], (client.run session.next).1.2), (client.run session.next).2) := by
  rw [exportPages, Client.log_bind, Client.run_bind]
  cases came : (client.run session.next).1 with
  | mk page after =>
      rw [came] at stops
      cases page with
      | none => exact ⟨List.append_nil _, rfl⟩
      | some page =>
          have empty : page.hits.isEmpty = true := by
            rw [List.isEmpty_iff]
            by_contra some_hit
            exact stops ⟨page, rfl, some_hit⟩
          simp only [empty, if_true]
          exact ⟨List.append_nil _, rfl⟩

/-- Behind a page with hits the export goes on, with a bound that is one less. -/
theorem exportPages_continues {page : Page} (came : (client.run session.next).1.1 = some page)
    (hits : page.hits ≠ []) (bound : Nat) :
    client.log (exportPages (bound + 1) session) =
        client.log session.next ++
          (client.run session.next).2.log (exportPages bound (client.run session.next).1.2) ∧
      client.run (exportPages (bound + 1) session) =
        (client.run session.next).2.run
          (exportPages bound (client.run session.next).1.2 >>= fun rest =>
            .done (page.hits ++ rest.1, rest.2)) := by
  have some_hit : page.hits.isEmpty = false := List.isEmpty_eq_false_iff.mpr hits
  rw [exportPages, Client.log_bind, Client.run_bind]
  generalize client.run session.next = next at came
  obtain ⟨⟨given, after⟩, behind⟩ := next
  cases came
  simp only [some_hit, Bool.false_eq_true, if_false]
  rw [Client.log_bind]
  exact ⟨congrArg _ (List.append_nil _), rfl⟩

/-- What is known of an export that asks for no page more. -/
structure Ended (client : Client) (bound : Nat) (session : Session) : Prop where
  bounded : ∀ more,
    client.run (exportPages (bound + more) session) = client.run (exportPages bound session)
  last : ∃ before last,
    client.log (exportPages bound session) = before ++ [last] ∧ Final last.reply

/-- By induction on the bound: a page that stops the export is the last one, and behind any other
page the export goes on with a smaller bound. -/
theorem exportPages_ends {client : Client} {bound : Nat} (active : session.phase ≠ .idle)
    (settled : client.log (exportPages (bound + 1) session) =
      client.log (exportPages bound session)) : Ended client bound session := by
  induction bound generalizing client session with
  | zero =>
      -- With no page at all nothing is sent, but a session with a search would send something.
      have asks := log_ne_nil (next_alone client session) active
      have nothing : client.log (exportPages 0 session) = [] := rfl
      rw [nothing] at settled
      by_cases more : Continues (client.run session.next).1.1
      · obtain ⟨page, came, hits⟩ := more
        rw [(exportPages_continues client came hits 0).1] at settled
        exact absurd (List.append_eq_nil_iff.mp settled).1 asks
      · rw [(exportPages_stops client more 0).1] at settled
        exact absurd settled asks
  | succ bound ih =>
      have run := next_alone client session
      have later : ∀ more, bound + 1 + more = bound + more + 1 := fun more => by omega
      by_cases more : Continues (client.run session.next).1.1
      · obtain ⟨page, came, hits⟩ := more
        have further := exportPages_continues client came hits
        rw [(further (bound + 1)).1, (further bound).1] at settled
        have behind := ih (active_behind run (came ▸ rfl)) (List.append_cancel_left settled)
        constructor
        · intro more
          rw [later, (further (bound + more)).2, (further bound).2, Client.run_bind,
            Client.run_bind, behind.bounded]
        · obtain ⟨before, last, log, final⟩ := behind.last
          refine ⟨client.log session.next ++ before, last, ?_, final⟩
          rw [(further bound).1, log, List.append_assoc]
      · have stop := exportPages_stops client more
        constructor
        · intro more
          rw [later, (stop (bound + more)).2, (stop bound).2]
        · obtain ⟨before, last, log, final⟩ := last_final run active more
          exact ⟨before, last, (stop bound).1.trans log, final⟩

/-- Pages are asked for by posting. -/
theorem exportPages_posts (bound : Nat) (session : Session) (client : Client) :
    ∀ dispatch ∈ client.log (exportPages bound session), dispatch.call.method = .post := by
  induction bound generalizing client session with
  | zero => exact List.forall_mem_nil _
  | succ bound ih =>
      have first := (next_alone client session).posts.1
      by_cases more : Continues (client.run session.next).1.1
      · obtain ⟨page, came, hits⟩ := more
        rw [(exportPages_continues client came hits bound).1, List.forall_mem_append]
        exact ⟨first, ih _ _⟩
      · rw [(exportPages_stops client more bound).1]
        exact first

end Pages

section Export

variable {options : ExportOptions} {disk opened : Disk}

/-- The session of an export once its search is set. -/
def ExportOptions.searching (options : ExportOptions) : Session :=
  { options.session with phase := .ready ⟨options.index, options.docType, options.query⟩ }

/-- What was exported, once pages have come and the cursor is given back. -/
def ExportOptions.delivered (options : ExportOptions) (opened : Disk) (hits : List Json) :
    Exported :=
  ⟨hits.length, (deliver opened options.output (hitLines hits)).1,
    (deliver opened options.output (hitLines hits)).2⟩

/-- An export whose query can be read and whose output can be opened asks for the pages, gives the
cursor back and delivers the hits. -/
theorem exportHits_eq (valid : (Json.parse? options.query).isSome = true)
    (creatable : openOutput disk options.output = .ok opened) (bound : Nat) :
    exportHits bound options disk =
      exportPages bound options.searching >>= fun pages =>
        pages.2.clear >>= fun _ => .done (.ok (options.delivered opened pages.1)) := by
  have parsed : (Json.parse? options.query).isNone = false := by
    rw [Option.isNone_eq_false_iff]
    exact valid
  have fresh : options.session.init ⟨options.index, options.docType, options.query⟩ =
      .done options.searching := by
    unfold ExportOptions.searching ExportOptions.session
    split_ifs
    · rfl
    · rfl
  rw [exportHits, parsed, if_neg Bool.false_ne_true, creatable]
  simp only [fresh, Exchange.done_bind]
  rfl

/-- Giving the cursor back asks for no page. -/
theorem asked_clear (session : Session) (client : Client) :
    asked (client.log session.clear) = [] := by
  have released := (Session.clear_run (Exchange.Run.alone session.clear client)).1
  generalize client.log session.clear = log at released
  cases released with
  | nothing unopened => rfl
  | sent held => rfl

/-- All requests of an export but the release of its cursor are those for its pages. -/
theorem asked_export (valid : (Json.parse? options.query).isSome = true)
    (creatable : openOutput disk options.output = .ok opened) (bound : Nat) (client : Client) :
    asked (client.log (exportHits bound options disk)) =
      client.log (exportPages bound options.searching) := by
  have pages := exportPages_posts bound options.searching client
  have all : asked (client.log (exportPages bound options.searching)) =
      client.log (exportPages bound options.searching) :=
    List.filter_eq_self.mpr fun dispatch member => decide_eq_true (pages dispatch member)
  have nothing := asked_clear (client.run (exportPages bound options.searching)).1.2
    (client.run (exportPages bound options.searching)).2
  rw [asked] at all nothing
  rw [exportHits_eq valid creatable, Client.log_bind, Client.log_bind, asked, List.filter_append,
    List.filter_append, all, nothing]
  exact List.append_nil _

/-- **What ends an export.** It succeeds, with a result that no larger bound changes, whatever came
of its last request for a page: either there were no more hits, or the request failed. -/
theorem exportHits_ends (client : Client) (bound : Nat) (options : ExportOptions) (disk : Disk)
    (valid : (Json.parse? options.query).isSome = true)
    (creatable : openOutput disk options.output = .ok opened)
    (settled : Settled client bound options disk) :
    ∃ exported last,
      (∀ more, (client.run (exportHits (bound + more) options disk)).1 = .ok exported) ∧
        (asked (client.log (exportHits bound options disk))).getLast? = some last ∧
        (RanDry last.reply ↔ ¬ Failed last.reply) := by
  have pages : client.log (exportPages (bound + 1) options.searching) =
      client.log (exportPages bound options.searching) := by
    rw [← asked_export valid creatable, ← asked_export valid creatable, settled]
  have ended := exportPages_ends Phase.noConfusion pages
  obtain ⟨before, last, log, final⟩ := ended.last
  refine ⟨options.delivered opened (client.run (exportPages bound options.searching)).1.1, last,
    ?_, ?_, final.ranDry_iff⟩
  · intro more
    rw [exportHits_eq valid creatable, Client.run_bind, ended.bounded more, Client.run_bind]
    rfl
  · rw [asked_export valid creatable, log, List.getLast?_concat]

/-- An export of a page after the other, to the standard output. -/
def plainExport : ExportOptions where
  index := "idx"
  docType := "_doc"
  query := "\x7b\x7d"
  pageSize := 1
  ttl := "1m"
  scan := false
  primaryShards := 0
  output := none

/-- A cluster that answers with one page and then no more. -/
def failing : Client := Client.oneNode [.answer
  { status := 200
    body := "\x7b\"_scroll_id\":\"S1\",\"_shards\":\x7b\"failed\":0\x7d,"
      ++ "\"hits\":\x7b\"hits\":[\x7b\"_id\":\"1\"\x7d]\x7d\x7d" }]

set_option maxRecDepth 4000 in
/-- Two pages are more than this cluster has. -/
theorem failing_settled : Settled failing 2 plainExport {} := rfl

/-- The second request for a page fails, and the export succeeds with the hit of the first. -/
theorem exportHits_ends_failing :
    (Json.parse? plainExport.query).isSome = true ∧
      openOutput {} plainExport.output = .ok {} ∧
      Settled failing 2 plainExport {} ∧
      ∃ exported last,
        (∀ more, (failing.run (exportHits (2 + more) plainExport {})).1 = .ok exported) ∧
          (asked (failing.log (exportHits 2 plainExport {}))).getLast? = some last ∧
          (RanDry last.reply ↔ ¬ Failed last.reply) :=
  ⟨by decide, rfl, failing_settled,
    exportHits_ends failing 2 plainExport {} (by decide) rfl failing_settled⟩

set_option maxRecDepth 4000 in
/-- **A successful export need not be complete.** -/
theorem exportHits_incomplete :
    ¬ ∀ (client : Client) (bound : Nat) (options : ExportOptions) (disk : Disk)
        (exported : Exported), Settled client bound options disk →
      (client.run (exportHits bound options disk)).1 = .ok exported →
      ∃ last, (asked (client.log (exportHits bound options disk))).getLast? = some last ∧
        RanDry last.reply := by
  intro complete
  obtain ⟨last, found, dry⟩ := complete failing 2 plainExport {}
    ⟨1, "\x7b\"_id\":\"1\"\x7d\n", {}⟩ failing_settled rfl
  have failed : (asked (failing.log (exportHits 2 plainExport {}))).getLast? =
      some (Session.continuation plainExport.searching "S1"
        (.error (.unavailable .post plainExport.searching.continuationPath))) := rfl
  rw [failed] at found
  cases found
  exact dry

end Export

end ClusterClient.Command
