import ClusterClient.Proofs.Bulk.Wire
import ClusterClient.Proofs.Command.Export
import ClusterClient.Proofs.Disk
import Mathlib

/-! # What an export delivers

An export writes the hits of the pages that its session gives, each on a line of its own, up to the
first page without hits or until none comes. Then it gives back the cursor of the page that was
accepted last, if one was (`ClusterClient.Command.exportHits_delivers`). If the query is no JSON
text or the output cannot be made, nothing is sent.
-/

namespace ClusterClient.Command

open Scroll

/-- The pages that a session gives one after the other until one has no hits or none comes. -/
inductive Paged : Client → Session → List Page → Prop
  | last {client : Client} {session : Session}
      (stops : ¬ Continues (client.run session.next).1.1) : Paged client session []
  | page {client : Client} {session : Session} {page : Page} {pages : List Page}
      (came : (client.run session.next).1.1 = some page) (hits : page.hits ≠ [])
      (others : Paged (client.run session.next).2 (client.run session.next).1.2 pages) :
      Paged client session (page :: pages)

/-- The pages that were accepted. -/
def acceptedPages (log : List Dispatch) : List Page :=
  log.filterMap fun dispatch => Session.pageOf? dispatch.reply

/-- Lines of text, each ended by a line feed. -/
def endedLines (lines : List String) : String := String.join (lines.map (· ++ "\n"))

/-- What an export has written: the lines, to the standard output or to a file. -/
structure Writes (options : ExportOptions) (disk : Disk) (lines : List String)
    (exported : Exported) : Prop where
  count : exported.count = lines.length
  whole : ∀ line ∈ lines, '\n' ∉ line.toList ∧ '\r' ∉ line.toList
  breaks : (endedLines lines).toList.count '\n' = exported.count
  standard : options.output = none →
    exported.printed = endedLines lines ∧ exported.disk = disk
  file : ∀ path, options.output = some path →
    exported.printed = "" ∧ exported.disk.read? path = some (endedLines lines).toUTF8 ∧
      ∀ other, disk.place? other ≠ disk.place? path → exported.disk.read? other = disk.read? other

/-- The dispatches of an export end with the release of the cursor of the page that was accepted
last, and no cursor is released if no page was accepted. -/
def CleansUp (log : List Dispatch) : Prop :=
  match (acceptedPages (asked log)).getLast? with
  | none => log = asked log
  | some page => ∃ body reply,
      log = asked log ++ [⟨⟨.delete, "_search/scroll/", body⟩, reply⟩] ∧
        Json.parse? body = some (.object [("scroll_id", .array [.text page.cursor])])

/-- What an export does. -/
structure Delivers (client : Client) (bound : Nat) (options : ExportOptions) (disk : Disk) :
    Prop where
  invalid : Json.parse? options.query = none →
    client.log (exportHits bound options disk) = [] ∧
      client.run (exportHits bound options disk) = (.error .invalidQuery, client)
  uncreated : ∀ error, (Json.parse? options.query).isSome → openOutput disk options.output =
    .error error → client.log (exportHits bound options disk) = [] ∧
      client.run (exportHits bound options disk) = (.error error, client)
  delivered : ∀ opened, (Json.parse? options.query).isSome →
    openOutput disk options.output = .ok opened → Settled client bound options disk →
      ∃ pages exported, Paged client options.searching pages ∧
        Writes options disk ((pages.flatMap Page.hits).map Json.compact) exported ∧
        ∀ enough, bound ≤ enough →
          (client.run (exportHits enough options disk)).1 = .ok exported ∧
            CleansUp (client.log (exportHits enough options disk))

section Pages

variable {session after : Session} {log : List Dispatch} {page : Option Page}

/-- Behind a request for a page the session holds the cursor of the page accepted last. -/
theorem cursor_next (run : Session.NextRun session log page after) :
    after.cursor? = ((acceptedPages log).getLast?.map Page.cursor).or session.cursor? := by
  cases run with
  | idle phase => rfl
  | unopened phase refused =>
      simp [acceptedPages, Session.opening, refused]
  | opened phase accepted variant =>
      simp [acceptedPages, Session.opening, accepted, Session.behind, Session.cursor?]
  | scanUnread phase accepted variant refused =>
      simp [acceptedPages, Session.opening, Session.continuation, accepted, refused,
        Session.behind, Session.cursor?]
  | scanned phase accepted variant read =>
      simp [acceptedPages, Session.opening, Session.continuation, accepted, read,
        Session.behind, Session.cursor?]
  | unread phase refused =>
      simp [acceptedPages, Session.continuation, refused]
  | read phase accepted =>
      simp [acceptedPages, Session.continuation, accepted, Session.behind, Session.cursor?]

/-- The pages of two logs are those of the first and then those of the second. -/
theorem acceptedPages_append (log more : List Dispatch) :
    acceptedPages (log ++ more) = acceptedPages log ++ acceptedPages more := List.filterMap_append

/-- Behind the pages the session holds the cursor of the page accepted last. -/
theorem cursor_exportPages (bound : Nat) (session : Session) (client : Client) :
    (client.run (exportPages bound session)).1.2.cursor? =
      ((acceptedPages (client.log (exportPages bound session))).getLast?.map Page.cursor).or
        session.cursor? := by
  induction bound generalizing client session with
  | zero => rfl
  | succ bound ih =>
      have first := cursor_next (next_alone client session)
      by_cases more : Continues (client.run session.next).1.1
      · obtain ⟨page, came, hits⟩ := more
        have further := exportPages_continues client came hits bound
        have behind := ih (client.run session.next).1.2 (client.run session.next).2
        rw [further.1, further.2, Client.run_bind, acceptedPages_append, List.getLast?_append,
          Option.map_or, Option.or_assoc, ← first, ← behind]
        rfl
      · have stop := exportPages_stops client more bound
        rw [stop.1, stop.2, first]

/-- A bound that is larger than the number of pages makes no difference to the hits. -/
theorem Paged.hits {client : Client} {session : Session} {pages : List Page}
    (paged : Paged client session pages) {bound : Nat} (enough : pages.length < bound) :
    (client.run (exportPages bound session)).1.1 = pages.flatMap Page.hits := by
  induction paged generalizing bound with
  | last stops =>
      obtain ⟨bound, rfl⟩ := Nat.exists_eq_succ_of_ne_zero (Nat.ne_zero_of_lt enough)
      rw [(exportPages_stops _ stops bound).2]
      rfl
  | page came hits others ih =>
      obtain ⟨bound, rfl⟩ := Nat.exists_eq_succ_of_ne_zero (Nat.ne_zero_of_lt enough)
      rw [(exportPages_continues _ came hits bound).2, Client.run_bind, List.flatMap_cons,
        ← ih (Nat.lt_of_succ_lt_succ enough)]
      rfl

/-- The pages of an export that asks for no page more. By induction on the bound, as the export goes
on behind every page with hits. -/
theorem exportPages_paged {client : Client} {bound : Nat} (active : session.phase ≠ .idle)
    (settled : client.log (exportPages (bound + 1) session) =
      client.log (exportPages bound session)) :
    ∃ pages, Paged client session pages ∧ pages.length < bound := by
  induction bound generalizing client session with
  | zero =>
      have asks := log_ne_nil (next_alone client session) active
      have nothing : client.log (exportPages 0 session) = [] := rfl
      rw [nothing] at settled
      by_cases more : Continues (client.run session.next).1.1
      · obtain ⟨page, came, hits⟩ := more
        rw [(exportPages_continues client came hits 0).1] at settled
        exact absurd (List.append_eq_nil_iff.mp settled).1 asks
      · rw [(exportPages_stops client more 0).1] at settled
        exact absurd settled asks
  | succ bound ih =>
      by_cases more : Continues (client.run session.next).1.1
      · obtain ⟨page, came, hits⟩ := more
        have further := exportPages_continues client came hits
        rw [(further (bound + 1)).1, (further bound).1] at settled
        have still := active_behind (next_alone client session) (came ▸ rfl)
        obtain ⟨pages, others, fewer⟩ := ih still (List.append_cancel_left settled)
        exact ⟨page :: pages, .page came hits others, Nat.succ_lt_succ fewer⟩
      · exact ⟨[], .last more, Nat.succ_pos bound⟩

end Pages

section Output

variable {options : ExportOptions} {disk opened : Disk} {hits : List Json}

/-- A hit takes one line. -/
theorem hitLines_eq (hits : List Json) : hitLines hits = endedLines (hits.map Json.compact) := by
  rw [← String.toList_inj, hitLines, endedLines, String.toList_ofList, String.toList_join,
    List.map_map, List.flatMap_map]
  refine congrArg (fun line => hits.flatMap line) (funext fun hit => ?_)
  simp [Json.compact]

/-- Lines without line breaks are as many as the line feeds that end them. -/
theorem count_endedLines {lines : List String} (whole : ∀ line ∈ lines, '\n' ∉ line.toList) :
    (endedLines lines).toList.count '\n' = lines.length := by
  rw [endedLines, String.toList_join]
  induction lines with
  | nil => rfl
  | cons line lines ih =>
      obtain ⟨first, others⟩ := List.forall_mem_cons.mp whole
      rw [List.map_cons, List.flatMap_cons, List.count_append, ih others, List.length_cons]
      simp [List.count_eq_zero_of_not_mem first, Nat.add_comm]

/-- To open a file is to write nothing into it. -/
theorem openOutput_file {path : String} (created : openOutput disk (some path) = .ok opened) :
    disk.write? path .empty = some opened := by
  rw [openOutput] at created
  split at created
  · cases created
  · rename_i made written
    cases created
    exact written

/-- A file that was made takes all lines. -/
theorem deliver_file {path : String} (created : disk.write? path .empty = some opened)
    (text : String) :
    (deliver opened (some path) text).1 = "" ∧
      (deliver opened (some path) text).2.read? path = some text.toUTF8 ∧
      ∀ other, disk.place? other ≠ disk.place? path →
        (deliver opened (some path) text).2.read? other = disk.read? other := by
  obtain ⟨last, written⟩ := Disk.write?_again created text.toUTF8
  have disk' : (deliver opened (some path) text).2 = last := by
    rw [deliver, written]
    rfl
  rw [disk']
  refine ⟨rfl, Disk.read?_write? written, ?_⟩
  intro other different
  have different' : opened.place? other ≠ opened.place? path := by
    rwa [Disk.place?_write? created]
  exact (Disk.read?_write?_other written different').trans
    (Disk.read?_write?_other created different)

/-- The output of an export has the lines for its hits. -/
theorem writes_delivered (creatable : openOutput disk options.output = .ok opened)
    (hits : List Json) :
    Writes options disk (hits.map Json.compact) (options.delivered opened hits) where
  count := (List.length_map _).symm
  whole := by
    intro line member
    obtain ⟨hit, _, rfl⟩ := List.mem_map.mp member
    exact (Json.printable_compact hit).no_break
  breaks := by
    have whole : ∀ line ∈ hits.map Json.compact, '\n' ∉ line.toList := by
      intro line member
      obtain ⟨hit, _, rfl⟩ := List.mem_map.mp member
      exact (Json.printable_compact hit).no_break.1
    rw [count_endedLines whole, List.length_map]
    rfl
  standard := by
    intro unnamed
    rw [unnamed] at creatable
    cases creatable
    rw [ExportOptions.delivered, unnamed, ← hitLines_eq]
    exact ⟨rfl, rfl⟩
  file := by
    intro path named
    rw [named] at creatable
    rw [ExportOptions.delivered, named, ← hitLines_eq]
    exact deliver_file (openOutput_file creatable) (hitLines hits)

end Output

section Release

/-- The dispatches for pages, and those that give the cursor back. -/
theorem log_export {options : ExportOptions} {disk opened : Disk}
    (valid : (Json.parse? options.query).isSome = true)
    (creatable : openOutput disk options.output = .ok opened) (bound : Nat) (client : Client) :
    ∃ rest, client.log (exportHits bound options disk) =
        asked (client.log (exportHits bound options disk)) ++ rest ∧
      Session.Released (client.run (exportPages bound options.searching)).1.2 rest := by
  have released := (Session.clear_run (Exchange.Run.alone
    (client.run (exportPages bound options.searching)).1.2.clear
    (client.run (exportPages bound options.searching)).2)).1
  refine ⟨_, ?_, released⟩
  rw [asked_export valid creatable, exportHits_eq valid creatable, Client.log_bind,
    Client.log_bind]
  exact congrArg _ (List.append_nil _)

/-- **The cursor of the page accepted last is given back**, and nothing else. -/
theorem cleansUp_export {options : ExportOptions} {disk opened : Disk}
    (valid : (Json.parse? options.query).isSome = true)
    (creatable : openOutput disk options.output = .ok opened) (bound : Nat) (client : Client) :
    CleansUp (client.log (exportHits bound options disk)) := by
  obtain ⟨rest, split, released⟩ := log_export valid creatable bound client
  have given := released.givesBack
  have unopened : options.searching.cursor? = none := rfl
  rw [Session.GivesBack, cursor_exportPages, unopened, Option.or_none] at given
  rw [CleansUp, split, ← split, asked_export valid creatable]
  rw [asked_export valid creatable] at split
  cases last : (acceptedPages (client.log (exportPages bound options.searching))).getLast? with
  | none =>
      rw [last] at given
      simp only [Option.map_none] at given
      rw [given, List.append_nil] at split
      exact split
  | some page =>
      rw [last] at given
      obtain ⟨body, reply, rfl, named⟩ := given
      exact ⟨body, reply, split, named⟩

end Release

/-- **What an export delivers.** It writes the hits of all pages before the first one without hits
or before none comes, each on a line of its own, and its last dispatch gives back the cursor of the
page that was accepted last, if one was. Without a query or an output it sends nothing. -/
theorem exportHits_delivers (client : Client) (bound : Nat) (options : ExportOptions)
    (disk : Disk) : Delivers client bound options disk where
  invalid := by
    intro unread
    have none : (Json.parse? options.query).isNone = true := by rw [unread]; rfl
    rw [exportHits, if_pos none]
    exact ⟨rfl, rfl⟩
  uncreated := by
    intro error valid refused
    have some : (Json.parse? options.query).isNone = false := by
      rw [Option.isNone_eq_false_iff]
      exact valid
    rw [exportHits, some, if_neg Bool.false_ne_true, refused]
    exact ⟨rfl, rfl⟩
  delivered := by
    intro opened valid creatable settled
    have pages : client.log (exportPages (bound + 1) options.searching) =
        client.log (exportPages bound options.searching) := by
      rw [← asked_export valid creatable, ← asked_export valid creatable, settled]
    obtain ⟨pages, paged, fewer⟩ := exportPages_paged Phase.noConfusion pages
    refine ⟨pages, options.delivered opened (pages.flatMap Page.hits), paged,
      writes_delivered creatable _, ?_⟩
    intro enough larger
    refine ⟨?_, cleansUp_export valid creatable enough client⟩
    rw [exportHits_eq valid creatable, Client.run_bind, Client.run_bind,
      ← paged.hits (fewer.trans_le larger)]
    rfl

/-- A cluster that answers with a page of one hit, whose text takes two lines, and a page without
hits under another cursor. -/
def emptying : Client := Client.oneNode
  [.answer
    { status := 200
      body := "\x7b\"_scroll_id\":\"S1\",\"_shards\":\x7b\"failed\":0\x7d,"
        ++ "\"hits\":\x7b\"hits\":[\"a\\nb\"]\x7d\x7d" },
    .answer
    { status := 200
      body := "\x7b\"_scroll_id\":\"S2\",\"_shards\":\x7b\"failed\":0\x7d,"
        ++ "\"hits\":\x7b\"hits\":[]\x7d\x7d" }]

/-- An export to a file. -/
def fileExport : ExportOptions := { plainExport with output := some "out" }

/-- The file of the export can be made. -/
theorem fileExport_created : ∃ opened, openOutput {} fileExport.output = .ok opened := by
  have made : (Disk.write? {} "out" .empty).isSome = true := by cbv
  obtain ⟨opened, written⟩ := Option.isSome_iff_exists.mp made
  refine ⟨opened, ?_⟩
  have named : fileExport.output = some "out" := rfl
  rw [named, openOutput, written]

set_option maxRecDepth 4000 in
/-- Two pages are enough for all that this cluster has. -/
theorem emptying_settled : Settled emptying 2 fileExport {} := by
  obtain ⟨opened, created⟩ := fileExport_created
  have valid : (Json.parse? fileExport.query).isSome = true := by decide
  rw [Settled, exportHits_eq valid created, exportHits_eq valid created]
  rfl

/-- The hit is written to the file, and the cursor of the page without hits is given back. -/
theorem exportHits_delivers_file :
    ∃ pages exported, Paged emptying fileExport.searching pages ∧
      Writes fileExport {} ((pages.flatMap Page.hits).map Json.compact) exported ∧
      ∀ enough, 2 ≤ enough →
        (emptying.run (exportHits enough fileExport {})).1 = .ok exported ∧
          CleansUp (emptying.log (exportHits enough fileExport {})) := by
  obtain ⟨opened, created⟩ := fileExport_created
  exact (exportHits_delivers emptying 2 fileExport {}).delivered opened (by decide) created
    emptying_settled

end ClusterClient.Command
