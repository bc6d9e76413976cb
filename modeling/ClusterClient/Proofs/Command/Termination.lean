import ClusterClient.Command.Program
import ClusterClient.Proofs.Client.Plan
import ClusterClient.Proofs.Command.Delivery

/-! # When an export ends

Each page with hits takes at least one outcome that is planned, unless the outcome that stands
behind the plan is such a page itself. If it is none, then an export ends by itself after no more
pages than there are planned outcomes, and behind the plan it sends at most the requests of its last
page and of the release of its cursor (`ClusterClient.Command.exportHits_finishes`).
-/

namespace ClusterClient.Command

open Scroll

/-- Whether an outcome is no page with hits. -/
def Quiet (outcome : Outcome) : Prop :=
  ∀ response page, outcome = .answer response → Session.accepted? response = some page →
    page.hits = []

/-- A quiet outcome leads to a reply that ends the pages. -/
theorem Quiet.final {outcome : Outcome} (quiet : Quiet outcome) (call : Call) :
    Final (outcome.reply call) := by
  intro page accepted
  rw [Outcome.reply] at accepted
  cases taken : outcome.accepted? with
  | none =>
      rw [taken] at accepted
      cases accepted
  | some response =>
      rw [taken] at accepted
      exact quiet response page ((Outcome.accepted?_eq_some_iff _ _).mp taken).1 accepted

/-- No dispatch takes more requests than there are nodes. -/
theorem cost_le (outcome : Outcome) {nodes : Nat} (positive : 1 ≤ nodes) :
    outcome.cost nodes ≤ nodes := by
  unfold Outcome.cost
  split
  · exact positive
  · exact Nat.le_refl nodes

section Pages

variable {client : Client} {session : Session} {pages : List Page}

/-- **A page with hits stays within the plan**, as the last dispatch for it does not get the
standing reply. -/
theorem next_within (quiet : Quiet client.transport.standing) (active : session.phase ≠ .idle)
    (more : Continues (client.run session.next).1.1) :
    (client.run session.next).2.transport.foreseen ≤ client.transport.foreseen ∧
      (client.run session.next).2.transport.planned.length < client.transport.planned.length := by
  obtain ⟨within, beyond, split, plan⟩ := client.run_plan session.next
  obtain ⟨before, last, log, replied, _⟩ := last_dispatch (next_alone client session) active
  rcases List.eq_nil_or_concat beyond with rfl | ⟨front, late, rfl⟩
  · have foreseen := plan.foreseen
    have taken := plan.taken
    have length := congrArg List.length (log.symm.trans split)
    simp only [List.length_append, List.length_singleton, List.length_nil] at length
    rw [List.length_nil, Nat.zero_mul] at foreseen
    exact ⟨foreseen, by omega⟩
  · obtain ⟨page, came, hits⟩ := more
    rw [log, List.concat_eq_append, ← List.append_assoc] at split
    have same : last = late := List.singleton_inj.mp (List.append_inj' split rfl).2
    have reply := plan.replies late (by simp)
    rw [came, same, reply] at replied
    exact absurd (quiet.final _ page replied) hits

/-- **A request for a page goes little beyond the plan.** Only a scan makes two dispatches, and the
first of them has got a page, so that it takes one request if it is behind the plan. -/
theorem next_beyond (client : Client) (active : session.phase ≠ .idle) :
    (client.run session.next).2.transport.foreseen ≤
      client.transport.foreseen + (client.hosts.length + 1) := by
  obtain ⟨within, beyond, split, plan⟩ := client.run_plan session.next
  obtain ⟨before, last, log, _, few, opened⟩ := last_dispatch (next_alone client session) active
  have positive : 1 ≤ client.hosts.length := client.rotation.size_pos
  have length := congrArg List.length (log.symm.trans split)
  simp only [List.length_append, List.length_singleton] at length
  refine plan.foreseen.trans (Nat.add_le_add_left ?_ _)
  cases standing : client.transport.standing.accepted? with
  | some response =>
      simp only [Outcome.cost, standing, Nat.mul_one]
      omega
  | none =>
      have most : beyond.length ≤ 1 := by
        by_contra two
        -- Both dispatches are behind the plan, where no reply is a page.
        have nothing : within = [] := List.eq_nil_of_length_eq_zero (by omega)
        subst nothing
        obtain ⟨first, rfl⟩ := List.length_eq_one_iff.mp (show before.length = 1 by omega)
        have among : first ∈ beyond := by
          rw [← List.nil_append beyond, ← split, log]
          exact List.mem_cons_self
        have reply := plan.replies first among
        rw [Outcome.reply, standing] at reply
        exact opened first List.mem_cons_self (by rw [reply]; rfl)
      calc beyond.length * client.transport.standing.cost client.hosts.length
          ≤ 1 * client.hosts.length := Nat.mul_le_mul most (cost_le _ positive)
        _ ≤ client.hosts.length + 1 := by omega

/-- Giving a cursor back is at most one dispatch. -/
theorem clear_beyond (client : Client) (session : Session) :
    (client.run session.clear).2.transport.foreseen ≤
      client.transport.foreseen + client.hosts.length := by
  obtain ⟨within, beyond, split, plan⟩ := client.run_plan session.clear
  have released := (Session.clear_run (Exchange.Run.alone session.clear client)).1
  have positive : 1 ≤ client.hosts.length := client.rotation.size_pos
  have most : beyond.length ≤ 1 := by
    have length := congrArg List.length split
    rw [List.length_append] at length
    generalize client.log session.clear = log at released length
    cases released with
    | nothing unopened => rw [List.length_nil] at length; omega
    | sent held => rw [List.length_singleton] at length; omega
  refine plan.foreseen.trans (Nat.add_le_add_left ?_ _)
  exact (Nat.mul_le_mul most (cost_le _ positive)).trans (Nat.one_mul _).le

/-- By induction on the bound: a page with hits leaves as many requests foreseen as there were, and
behind any other page no further one is asked for. -/
theorem exportPages_beyond (client : Client) (quiet : Quiet client.transport.standing)
    (active : session.phase ≠ .idle) (bound : Nat) :
    (client.run (exportPages bound session)).2.transport.foreseen ≤
      client.transport.foreseen + (client.hosts.length + 1) := by
  induction bound generalizing client session with
  | zero => exact Nat.le_add_right _ _
  | succ bound ih =>
      by_cases more : Continues (client.run session.next).1.1
      · have within := next_within quiet active more
        obtain ⟨page, came, hits⟩ := more
        obtain ⟨standing, hosts⟩ := client.run_standing session.next
        have still := active_behind (next_alone client session) (came ▸ rfl)
        have rest := ih (client.run session.next).2 (standing ▸ quiet) still
        rw [(exportPages_continues client came hits bound).2, Client.run_bind]
        rw [hosts] at rest
        exact rest.trans (Nat.add_le_add_right within.1 _)
      · rw [(exportPages_stops client more bound).2]
        exact next_beyond client active

/-- **The pages come to an end.** By induction on the plan, of which each page with hits takes at
least one outcome. -/
theorem exists_paged (client : Client) (quiet : Quiet client.transport.standing)
    (active : session.phase ≠ .idle) :
    ∃ pages, Paged client session pages ∧
      pages.length ≤ client.transport.planned.length := by
  induction left : client.transport.planned.length using Nat.strong_induction_on
    generalizing client session with
  | _ left ih =>
      by_cases more : Continues (client.run session.next).1.1
      · have fewer := (next_within quiet active more).2
        obtain ⟨page, came, hits⟩ := more
        obtain ⟨standing, _⟩ := client.run_standing session.next
        have still := active_behind (next_alone client session) (came ▸ rfl)
        obtain ⟨pages, others, count⟩ := ih _ (left ▸ fewer) _ (standing ▸ quiet) still rfl
        refine ⟨page :: pages, .page came hits others, ?_⟩
        rw [List.length_cons]
        omega
      · exact ⟨[], .last more, Nat.zero_le _⟩

/-- A bound that is larger than the number of pages makes no difference at all. -/
theorem Paged.bounded (paged : Paged client session pages) {bound : Nat}
    (enough : pages.length < bound) :
    client.run (exportPages bound session) = client.run (exportPages (pages.length + 1) session) ∧
      client.log (exportPages bound session) =
        client.log (exportPages (pages.length + 1) session) := by
  induction paged generalizing bound with
  | @last client session stops =>
      obtain ⟨bound, rfl⟩ := Nat.exists_eq_succ_of_ne_zero (Nat.ne_zero_of_lt enough)
      have stop := exportPages_stops client stops
      exact ⟨(stop bound).2.trans (stop 0).2.symm, (stop bound).1.trans (stop 0).1.symm⟩
  | @page client session page pages came hits others ih =>
      obtain ⟨bound, rfl⟩ := Nat.exists_eq_succ_of_ne_zero (Nat.ne_zero_of_lt enough)
      obtain ⟨runs, logs⟩ := ih (Nat.lt_of_succ_lt_succ enough)
      have further := exportPages_continues client came hits
      constructor
      · rw [(further bound).2, List.length_cons, (further _).2, Client.run_bind, Client.run_bind,
          runs]
      · rw [(further bound).1, List.length_cons, (further _).1, logs]

end Pages

section Export

variable {client : Client} {options : ExportOptions}

/-- An export sends nothing, or it asks for pages and gives the cursor back, whatever the bound on
the number of pages is. -/
theorem exportHits_cases (options : ExportOptions) (disk : Disk) :
    (∃ error, ∀ bound, exportHits bound options disk = .done (.error error)) ∨
      ∃ opened, ∀ bound, exportHits bound options disk =
        exportPages bound options.searching >>= fun pages =>
          pages.2.clear >>= fun _ => .done (.ok (options.delivered opened pages.1)) := by
  by_cases valid : (Json.parse? options.query).isSome = true
  · cases creatable : openOutput disk options.output with
    | ok opened => exact .inr ⟨opened, exportHits_eq valid creatable⟩
    | error error =>
        have read : (Json.parse? options.query).isNone = false :=
          Option.isNone_eq_false_iff.mpr valid
        refine .inl ⟨error, fun bound => ?_⟩
        rw [exportHits, read, if_neg Bool.false_ne_true, creatable]
  · refine .inl ⟨.invalidQuery, fun bound => ?_⟩
    rw [exportHits, if_pos (Option.isNone_iff_eq_none.mpr (Option.not_isSome_iff_eq_none.mp valid))]

/-- An export goes no further beyond the plan than its last page and its release do together. -/
theorem exportHits_beyond (client : Client) (options : ExportOptions) (disk : Disk)
    (quiet : Quiet client.transport.standing) (bound : Nat) :
    (client.run (exportHits bound options disk)).2.transport.foreseen ≤
      client.transport.foreseen + (2 * client.hosts.length + 1) := by
  rcases exportHits_cases options disk with ⟨error, refused⟩ | ⟨opened, sent⟩
  · rw [refused]
    exact Nat.le_add_right _ _
  · have active : options.searching.phase ≠ .idle := Phase.noConfusion
    have pages := exportPages_beyond client quiet active bound
    have release := clear_beyond (client.run (exportPages bound options.searching)).2
      (client.run (exportPages bound options.searching)).1.2
    rw [(client.run_standing _).2] at release
    rw [sent, Client.run_bind, Client.run_bind, Client.run_done]
    exact release.trans (by omega)

/-- Nor does a larger bound make any difference to the export of the pages. -/
theorem Paged.exported {pages : List Page} (paged : Paged client options.searching pages)
    (disk : Disk) {bound : Nat} (enough : pages.length < bound) :
    client.run (exportHits bound options disk) =
        client.run (exportHits (pages.length + 1) options disk) ∧
      client.log (exportHits bound options disk) =
        client.log (exportHits (pages.length + 1) options disk) := by
  obtain ⟨runs, logs⟩ := paged.bounded enough
  rcases exportHits_cases options disk with ⟨error, refused⟩ | ⟨opened, sent⟩
  · rw [refused, refused]
    exact ⟨rfl, rfl⟩
  · simp only [sent, Client.run_bind, Client.log_bind, runs, logs, and_self]

/-- What holds of an export that ends by itself: it comes to a page without hits or to none, the
number of pages that the program allows is never too small, and there is a limit to its requests. -/
structure Finishes (client : Client) (options : ExportOptions) (disk : Disk) : Prop where
  pages : ∃ pages, Paged client options.searching pages ∧
    pages.length ≤ client.transport.planned.length
  unbounded : ∀ bound, Program.pageBound client ≤ bound →
    client.run (exportHits bound options disk) =
      client.run (exportHits (Program.pageBound client) options disk)
  settled : ∀ bound, Program.pageBound client ≤ bound → Settled client bound options disk
  requests : ∀ bound,
    (client.run (exportHits bound options disk)).2.transport.executed.length ≤
      client.transport.executed.length +
        (client.transport.planned.length + 2 * client.hosts.length + 1)

/-- **Every export ends.** On a client of any number of nodes, behind whose planned outcomes no page
with hits comes, an export ends by itself, and it sends no more requests than there are planned
outcomes and two for each node and one. -/
theorem exportHits_finishes (client : Client) (options : ExportOptions) (disk : Disk)
    (quiet : ∀ response page, client.transport.standing = .answer response →
      Session.accepted? response = some page → page.hits = []) :
    Finishes client options disk := by
  have active : options.searching.phase ≠ .idle := Phase.noConfusion
  obtain ⟨pages, paged, count⟩ := exists_paged client quiet active
  have enough : ∀ bound, Program.pageBound client ≤ bound → pages.length < bound :=
    fun bound allowed => Nat.lt_of_le_of_lt count allowed
  refine ⟨⟨pages, paged, count⟩, ?_, ?_, ?_⟩
  · intro bound allowed
    have least := (paged.exported disk (enough _ (Nat.le_refl _))).1
    exact (paged.exported disk (enough bound allowed)).1.trans least.symm
  · intro bound allowed
    have next := (paged.exported disk (enough _ (Nat.le_succ_of_le allowed))).2
    exact next.trans (paged.exported disk (enough bound allowed)).2.symm
  · intro bound
    have total := exportHits_beyond client options disk quiet bound
    unfold Transport.foreseen at total
    omega

/-- The answer with a page that holds the given hits. -/
def pageOf (hits : String) : Outcome :=
  .answer
    { status := 200
      body := "\x7b\"_scroll_id\":\"S1\",\"_shards\":\x7b\"failed\":0\x7d,\"hits\":\x7b\"hits\":["
        ++ hits ++ "]\x7d\x7d" }

/-- A single node that always answers with a page without hits. -/
def hitless : Client :=
  { Client.oneNode [] with transport := { planned := [], standing := pageOf "" } }

/-- Two nodes, the first of which fails once. Then come two pages with a hit, and from there on
pages without one. -/
def dwindling : Client where
  config := { hosts := ["http://a/", "http://b/"] }
  rotation :=
    { endpoints := ["http://a/", "http://b/"]
      current := 0
      failures := 0
      draws := .planned []
      current_lt := by decide
      failures_lt := by decide }
  transport := { planned := [.failure, pageOf "1", pageOf "2"], standing := pageOf "" }

/-- A page without hits is quiet. -/
theorem quiet_pageOf : Quiet (pageOf "") := by
  intro response page same accepted
  have read : (Session.accepted? response).all (fun page => page.hits.isEmpty) = true := by
    cases same
    decide
  rw [accepted] at read
  exact List.isEmpty_iff.mp read

set_option maxRecDepth 8000 in
/-- A scan of the two nodes opens its search at the second request, takes the hit of the page behind
that, and ends at the first outcome behind the plan. A scan of the single node sends as many
requests as an export may send at most. -/
theorem exportHits_finishes_dwindling :
    (∀ response page, dwindling.transport.standing = .answer response →
        Session.accepted? response = some page → page.hits = []) ∧
      Finishes dwindling { plainExport with scan := true } {} ∧
      (dwindling.run (exportHits (Program.pageBound dwindling)
          { plainExport with scan := true } {})).1.toOption.map Exported.printed =
        some "2\n" ∧
      (dwindling.run (exportHits (Program.pageBound dwindling)
          { plainExport with scan := true } {})).2.transport.executed.length = 5 ∧
      Finishes hitless { plainExport with scan := true } {} ∧
      (hitless.run (exportHits 1 { plainExport with scan := true } {})).2.transport.executed.length
        = hitless.transport.planned.length + 2 * hitless.hosts.length + 1 :=
  ⟨quiet_pageOf, exportHits_finishes dwindling _ {} quiet_pageOf, rfl, rfl,
    exportHits_finishes hitless _ {} quiet_pageOf, rfl⟩

end Export

end ClusterClient.Command
