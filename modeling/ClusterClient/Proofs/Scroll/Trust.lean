import ClusterClient.Proofs.Json.Content
import ClusterClient.Proofs.Scroll.Operation

/-! # Which responses are pages

A response is a page exactly if what is read from it can be trusted
(`ClusterClient.Scroll.ofText_validates`): it is an object that reports no error, did not time out,
says that no shards failed, and has hits and a cursor. Otherwise the reason given is the first of
these conditions that it violates. The verdict follows from the members that the conditions name.
-/

namespace ClusterClient.Scroll

section Conditions

variable (member : String → Option Meaning)

/-- No error is reported. -/
def Quiet : Prop :=
  member "error" = none ∨ member "error" = some .null ∨ member "error" = some (.bool false)

/-- It is not said that the request timed out. -/
def Timely : Prop := member "timed_out" = none ∨ member "timed_out" = some (.bool false)

/-- The number of failed shards. -/
def Counts (failed : ℚ) : Prop :=
  (member "_shards").bind (Meaning.member? "failed") = some (.number failed)

/-- The hits. -/
def Lists (items : List Meaning) : Prop :=
  (member "hits").bind (Meaning.member? "hits") = some (.array items)

/-- The cursor, which is not empty. -/
def HasCursor (cursor : String) : Prop := member "_scroll_id" = some (.text cursor) ∧ cursor ≠ ""

/-- Whether a response can be trusted, and the hits and the cursor that it has then. -/
structure Trustworthy (items : List Meaning) (cursor : String) : Prop where
  quiet : Quiet member
  timely : Timely member
  counts : ∃ failed, Counts member failed ∧ failed ≤ 0
  lists : Lists member items
  hasCursor : HasCursor member cursor

end Conditions

/-- The first condition that a response violates. -/
inductive Violates : Meaning → Rejection → Prop
  | notAnObject {meaning : Meaning} (other : ∀ member, meaning ≠ .object member) :
      Violates meaning .notAnObject
  | errorReported {member : String → Option Meaning} (reported : ¬ Quiet member) :
      Violates (.object member) .errorReported
  | timedOut {member : String → Option Meaning} (quiet : Quiet member) (late : ¬ Timely member) :
      Violates (.object member) .timedOut
  | missingShards {member : String → Option Meaning} (quiet : Quiet member)
      (timely : Timely member) (uncounted : ∀ failed, ¬ Counts member failed) :
      Violates (.object member) .missingShards
  | shardsFailed {member : String → Option Meaning} {failed : ℚ} (quiet : Quiet member)
      (timely : Timely member) (counted : Counts member failed) (some : 0 < failed) :
      Violates (.object member) (.shardsFailed (min ⌊failed⌋₊ (2 ^ 64 - 1)))
  | missingHits {member : String → Option Meaning} {failed : ℚ} (quiet : Quiet member)
      (timely : Timely member) (counted : Counts member failed) (none : failed ≤ 0)
      (unlisted : ∀ items, ¬ Lists member items) : Violates (.object member) .missingHits
  | missingCursor {member : String → Option Meaning} {failed : ℚ} {items : List Meaning}
      (quiet : Quiet member) (timely : Timely member) (counted : Counts member failed)
      (none : failed ≤ 0) (listed : Lists member items)
      (unnamed : ∀ cursor, ¬ HasCursor member cursor) : Violates (.object member) .missingCursor

/-- Responses that agree in what the conditions name. -/
structure Agree (member other : String → Option Meaning) : Prop where
  error : member "error" = other "error"
  timedOut : member "timed_out" = other "timed_out"
  failed : (member "_shards").bind (Meaning.member? "failed") =
    (other "_shards").bind (Meaning.member? "failed")
  hits : (∃ items, Lists member items) ↔ ∃ items, Lists other items
  cursor : member "_scroll_id" = other "_scroll_id"

/-- What a check of responses does, from what is read from them. -/
structure Validates (reads : String → Meaning → Prop)
    (check : String → Except Rejection Page) : Prop where
  malformed {text : String} : check text = .error .malformed ↔ ∀ meaning, ¬ reads text meaning
  refused {text : String} {meaning : Meaning} {reason : Rejection} : reads text meaning →
    (check text = .error reason ↔ Violates meaning reason)
  accepted {text : String} {meaning : Meaning} : reads text meaning →
    ((∃ page, check text = .ok page) ↔
      ∃ member items cursor, meaning = .object member ∧ Trustworthy member items cursor)
  page {text : String} {page : Page} : check text = .ok page →
    Json.parse? text = some page.document ∧
      (page.document.get? "hits").bind (Json.get? "hits") = some (.array page.hits) ∧
      page.document.get? "_scroll_id" = some (.text page.cursor) ∧
      ∃ member, reads text (.object member) ∧
        page.document.meaning JsonNumber.worth = .object member ∧
        Trustworthy member (page.hits.map (Json.meaning JsonNumber.worth)) page.cursor
  unaffected {text other : String} {member member' : String → Option Meaning} :
    reads text (.object member) → reads other (.object member') → Agree member member' →
      (check text).map (fun _ => ()) = (check other).map fun _ => ()

/-- A response violates a condition or can be trusted. -/
theorem violates_or_trustworthy (meaning : Meaning) :
    (∃ reason, Violates meaning reason) ∨
      ∃ member items cursor, meaning = .object member ∧ Trustworthy member items cursor := by
  by_cases object : ∃ member, meaning = .object member
  · obtain ⟨member, rfl⟩ := object
    by_cases quiet : Quiet member
    · by_cases timely : Timely member
      · by_cases counted : ∃ failed, Counts member failed
        · obtain ⟨failed, counted⟩ := counted
          rcases lt_or_ge 0 failed with some | none
          · exact .inl ⟨_, .shardsFailed quiet timely counted some⟩
          · by_cases listed : ∃ items, Lists member items
            · obtain ⟨items, listed⟩ := listed
              by_cases named : ∃ cursor, HasCursor member cursor
              · obtain ⟨cursor, named⟩ := named
                exact .inr ⟨member, items, cursor, rfl,
                  ⟨quiet, timely, ⟨failed, counted, none⟩, listed, named⟩⟩
              · exact .inl ⟨_, .missingCursor quiet timely counted none listed
                  (not_exists.mp named)⟩
            · exact .inl ⟨_, .missingHits quiet timely counted none (not_exists.mp listed)⟩
        · exact .inl ⟨_, .missingShards quiet timely (not_exists.mp counted)⟩
      · exact .inl ⟨_, .timedOut quiet timely⟩
    · exact .inl ⟨_, .errorReported quiet⟩
  · exact .inl ⟨_, .notAnObject (not_exists.mp object)⟩

namespace Agree

variable {member other : String → Option Meaning}

theorem symm (agree : Agree member other) : Agree other member :=
  ⟨agree.error.symm, agree.timedOut.symm, agree.failed.symm, agree.hits.symm, agree.cursor.symm⟩

/-- Members that agree are quiet together. -/
theorem quiet (agree : Agree member other) (quiet : Quiet member) : Quiet other := by
  rwa [Quiet, ← agree.error]

/-- Members that agree are timely together. -/
theorem timely (agree : Agree member other) (timely : Timely member) : Timely other := by
  rwa [Timely, ← agree.timedOut]

/-- Members that agree count the same failed shards. -/
theorem counts (agree : Agree member other) {failed : ℚ} (counted : Counts member failed) :
    Counts other failed := by
  rwa [Counts, ← agree.failed]

/-- Members that agree name the same cursor. -/
theorem hasCursor (agree : Agree member other) {cursor : String} (named : HasCursor member cursor) :
    HasCursor other cursor := by
  rwa [HasCursor, ← agree.cursor]

/-- Members that agree list items together, though not the same ones. -/
theorem lists (agree : Agree member other) {items : List Meaning} (listed : Lists member items) :
    ∃ items, Lists other items :=
  agree.hits.mp ⟨items, listed⟩

/-- They violate the same condition first. -/
theorem violates (agree : Agree member other) {reason : Rejection}
    (violates : Violates (.object member) reason) : Violates (.object other) reason := by
  cases violates with
  | notAnObject different => exact absurd rfl (different member)
  | errorReported reported => exact .errorReported (mt agree.symm.quiet reported)
  | timedOut quiet late => exact .timedOut (agree.quiet quiet) (mt agree.symm.timely late)
  | missingShards quiet timely uncounted =>
      exact .missingShards (agree.quiet quiet) (agree.timely timely)
        fun failed counted => uncounted failed (agree.symm.counts counted)
  | shardsFailed quiet timely counted some =>
      exact .shardsFailed (agree.quiet quiet) (agree.timely timely) (agree.counts counted) some
  | missingHits quiet timely counted none unlisted =>
      refine .missingHits (agree.quiet quiet) (agree.timely timely) (agree.counts counted) none ?_
      intro items listed
      obtain ⟨own, listed⟩ := agree.symm.lists listed
      exact unlisted own listed
  | missingCursor quiet timely counted none listed unnamed =>
      obtain ⟨items, listed⟩ := agree.lists listed
      exact .missingCursor (agree.quiet quiet) (agree.timely timely) (agree.counts counted) none
        listed fun cursor named => unnamed cursor (agree.symm.hasCursor named)

/-- They can be trusted alike. -/
theorem trustworthy (agree : Agree member other) {items : List Meaning} {cursor : String}
    (trusted : Trustworthy member items cursor) :
    ∃ items, Trustworthy other items cursor := by
  obtain ⟨quiet, timely, ⟨failed, counted, none⟩, listed, named⟩ := trusted
  obtain ⟨items, listed⟩ := agree.lists listed
  exact ⟨items, agree.quiet quiet, agree.timely timely, ⟨failed, agree.counts counted, none⟩,
    listed, agree.hasCursor named⟩

end Agree

/-- The members of an object by what they mean. -/
def view (root : Members) (key : String) : Option Meaning :=
  (Keyed.get? key root).map (Json.meaning JsonNumber.worth)

section Root

variable {root : Members}

/-- A document is quiet if its page does not report an error. -/
theorem quiet_iff : Quiet (view root) ↔ Page.reportsError root = false := by
  unfold Quiet view Page.reportsError
  rcases Keyed.get? "error" root with _ | (_ | (_ | _) | _ | _ | _ | _) <;> simp [Json.meaning]

/-- A document is timely if its page does not say that the time was up. -/
theorem timely_iff : Timely (view root) ↔ Page.saysTimedOut root = false := by
  unfold Timely view Page.saysTimedOut
  rcases Keyed.get? "timed_out" root with _ | (_ | (_ | _) | _ | _ | _ | _) <;> simp [Json.meaning]

/-- Members of members are found in the meaning as in the object. -/
theorem view_bind (ordered : (Json.object root).Ordered) (key inner : String) :
    (view root key).bind (Meaning.member? inner) =
      ((Keyed.get? key root).bind (Json.get? inner)).map (Json.meaning JsonNumber.worth) := by
  cases found : Keyed.get? key root with
  | none => rw [view, found]; rfl
  | some value =>
      have below : value.Ordered := ordered.get? found
      rw [view, found, Option.map_some, Option.bind_some, Option.bind_some,
        Json.member?_meaning below]

/-- A document counts failed shards if its page reads a number there, which is worth as many. -/
theorem counts_iff (ordered : (Json.object root).Ordered) {failed : ℚ} :
    Counts (view root) failed ↔ ∃ d, Page.failedShards? root = some d ∧ d.worth = failed := by
  rw [Counts, view_bind ordered, Json.map_meaning_eq_number]
  have same : Page.failedShards? root =
      ((Keyed.get? "_shards" root).bind (Json.get? "failed")).bind fun failed =>
        failed.number?.map JsonNumber.toDouble := by
    simp only [Page.failedShards?, Option.bind_assoc, Option.map_eq_bind]
    rfl
  rw [same]
  rcases (Keyed.get? "_shards" root).bind (Json.get? "failed") with _ | (_ | _ | _ | _ | _ | _) <;>
    simp [Json.number?, JsonNumber.worth]

/-- The hits are found on the way through two members. -/
theorem hits?_eq : Page.hits? root =
    ((Keyed.get? "hits" root).bind (Json.get? "hits")).bind Json.items? := by
  simp only [Page.hits?, Option.bind_assoc]
  rfl

/-- A document lists items if its page has hits that mean them. -/
theorem lists_iff (ordered : (Json.object root).Ordered) {items : List Meaning} :
    Lists (view root) items ↔
      ∃ held, Page.hits? root = some held ∧ held.map (Json.meaning JsonNumber.worth) = items := by
  rw [Lists, view_bind ordered, Json.map_meaning_eq_array, hits?_eq]
  rcases (Keyed.get? "hits" root).bind (Json.get? "hits") with _ | (_ | _ | _ | _ | _ | _) <;>
    simp [Json.items?]

/-- A document names a cursor if its page has it. -/
theorem hasCursor_iff {cursor : String} :
    HasCursor (view root) cursor ↔ Page.cursor? root = some cursor := by
  constructor
  · rintro ⟨named, nonempty⟩
    have found := Json.map_meaning_eq_text.mp named
    have some : ¬ cursor.isEmpty = true := mt String.isEmpty_iff.mp nonempty
    simp only [Page.cursor?, found, Option.bind_eq_bind, Option.bind_some, Json.text?, if_neg some]
  · intro named
    obtain ⟨nonempty, found⟩ := Page.cursor?_eq_some named
    exact ⟨Json.map_meaning_eq_text.mpr found, nonempty⟩

/-- The view of an object is what the object means. -/
theorem meaning_view (sorted : Keyed.Sorted root) :
    (Json.object root).meaning JsonNumber.worth = .object (view root) :=
  Json.meaning_object sorted

/-- Without a failed shard it is the hits and the cursor that count. -/
theorem ofDocument_complete (ordered : (Json.object root).Ordered) (quiet : Quiet (view root))
    (timely : Timely (view root)) {failed : ℚ} (counted : Counts (view root) failed)
    (whole : failed ≤ 0) :
    Page.ofDocument (.object root) =
      match Page.hits? root, Page.cursor? root with
      | none, _ => .error .missingHits
      | some _, none => .error .missingCursor
      | some hits, some cursor => .ok ⟨.object root, hits, cursor⟩ := by
  obtain ⟨d, found, rfl⟩ := (counts_iff ordered).mp counted
  simp only [Page.ofDocument, Json.members?, quiet_iff.mp quiet, timely_iff.mp timely, found,
    if_neg Bool.false_ne_true, if_neg (mt d.isPositive_iff.mp (not_lt.mpr whole))]
  cases Page.hits? root with
  | none => rfl
  | some hits =>
      cases Page.cursor? root with
      | none => rfl
      | some cursor => rfl

end Root

/-- A response is refused for the first condition that it violates. -/
theorem ofDocument_refused {document : Json} (ordered : document.Ordered) {reason : Rejection}
    (violates : Violates (document.meaning JsonNumber.worth) reason) :
    Page.ofDocument document = .error reason := by
  cases ordered with
  | @object root sorted inside =>
      have ordered : (Json.object root).Ordered := .object sorted inside
      rw [meaning_view sorted] at violates
      cases violates with
      | notAnObject other => exact absurd rfl (other _)
      | errorReported reported =>
          rw [quiet_iff, Bool.not_eq_false] at reported
          exact if_pos reported
      | timedOut quiet late =>
          rw [timely_iff, Bool.not_eq_false] at late
          simp only [Page.ofDocument, Json.members?, quiet_iff.mp quiet, late,
            if_neg Bool.false_ne_true, if_true]
      | missingShards quiet timely uncounted =>
          have unsaid : Page.failedShards? root = none := by
            by_contra some
            obtain ⟨d, found⟩ := Option.ne_none_iff_exists'.mp some
            exact uncounted _ ((counts_iff ordered).mpr ⟨d, found, rfl⟩)
          simp only [Page.ofDocument, Json.members?, quiet_iff.mp quiet, timely_iff.mp timely,
            if_neg Bool.false_ne_true, unsaid]
      | shardsFailed quiet timely counted some =>
          obtain ⟨d, found, rfl⟩ := (counts_iff ordered).mp counted
          simp only [Page.ofDocument, Json.members?, quiet_iff.mp quiet, timely_iff.mp timely,
            if_neg Bool.false_ne_true, found, if_pos (d.isPositive_iff.mpr some),
            Double.toUnsigned64_eq some]
      | missingHits quiet timely counted whole unlisted =>
          have absent : Page.hits? root = none := by
            by_contra some
            obtain ⟨held, found⟩ := Option.ne_none_iff_exists'.mp some
            exact unlisted _ ((lists_iff ordered).mpr ⟨held, found, rfl⟩)
          rw [ofDocument_complete ordered quiet timely counted whole, absent]
      | missingCursor quiet timely counted whole listed unnamed =>
          obtain ⟨held, hits, _⟩ := (lists_iff ordered).mp listed
          have absent : Page.cursor? root = none := by
            by_contra some
            obtain ⟨cursor, found⟩ := Option.ne_none_iff_exists'.mp some
            exact unnamed cursor (hasCursor_iff.mpr found)
          rw [ofDocument_complete ordered quiet timely counted whole, hits, absent]
  | _ =>
      cases violates with
      | notAnObject => rfl

/-- A response that can be trusted is a page with its hits and its cursor. -/
theorem ofDocument_accepted {root : Members} (ordered : (Json.object root).Ordered)
    {items : List Meaning} {cursor : String} (trusted : Trustworthy (view root) items cursor) :
    ∃ hits, Page.ofDocument (.object root) = .ok ⟨.object root, hits, cursor⟩ ∧
      (Keyed.get? "hits" root).bind (Json.get? "hits") = some (.array hits) ∧
      hits.map (Json.meaning JsonNumber.worth) = items := by
  obtain ⟨quiet, timely, ⟨failed, counted, whole⟩, listed, named⟩ := trusted
  rw [Lists, view_bind ordered] at listed
  obtain ⟨hits, found, same⟩ := Json.map_meaning_eq_array.mp listed
  have read : Page.hits? root = some hits := by
    rw [hits?_eq, found]
    rfl
  refine ⟨hits, ?_, found, same⟩
  rw [ofDocument_complete ordered quiet timely counted whole, read, hasCursor_iff.mp named]

/-- A page with the parts of the response that it was read from. -/
structure Page.IsOf (page : Page) (text : String) (root : Members) : Prop where
  document : page.document = .object root
  parsed : Json.parse? text = some page.document
  hits : (Keyed.get? "hits" root).bind (Json.get? "hits") = some (.array page.hits)
  cursor : Keyed.get? "_scroll_id" root = some (.text page.cursor)

/-- A page is refused for the condition that its document violates first. -/
theorem ofText_refused {text : String} {meaning : Meaning} (read : Read text meaning)
    {reason : Rejection} (violates : Violates meaning reason) :
    Page.ofText text = .error reason := by
  obtain ⟨value, parsed, rfl⟩ := read_iff.mp read
  rw [Page.ofText, parsed]
  exact ofDocument_refused (Json.parse?_ordered parsed) violates

/-- **The verdict.** A response that is read is refused for the first condition that it violates, or
it is a page that can be trusted. -/
theorem ofText_verdict {text : String} {meaning : Meaning} (read : Read text meaning) :
    (∃ reason, Page.ofText text = .error reason ∧ Violates meaning reason) ∨
      ∃ page root, Page.ofText text = .ok page ∧ page.IsOf text root ∧
        meaning = .object (view root) ∧
        Trustworthy (view root) (page.hits.map (Json.meaning JsonNumber.worth)) page.cursor := by
  rcases violates_or_trustworthy meaning with
    ⟨reason, violates⟩ | ⟨member, items, cursor, rfl, trusted⟩
  · exact .inl ⟨reason, ofText_refused read violates, violates⟩
  · obtain ⟨root, parsed, ordered, same⟩ := read_object_iff.mp read
    obtain rfl : member = view root := same
    obtain ⟨hits, page, found, rfl⟩ := ofDocument_accepted ordered trusted
    have named := Json.map_meaning_eq_text.mp trusted.hasCursor.1
    refine .inr ⟨⟨.object root, hits, cursor⟩, root, ?_, ⟨rfl, parsed, found, named⟩, rfl, trusted⟩
    rw [Page.ofText, parsed]
    exact page

/-- What is read is not malformed. -/
theorem not_violates_malformed (meaning : Meaning) : ¬ Violates meaning .malformed := nofun

/-- What can be trusted violates no condition. -/
theorem Trustworthy.not_violates {member : String → Option Meaning} {items : List Meaning}
    {cursor : String} (trusted : Trustworthy member items cursor) (reason : Rejection) :
    ¬ Violates (.object member) reason := by
  obtain ⟨quiet, timely, ⟨failed, counted, whole⟩, listed, named⟩ := trusted
  intro violates
  cases violates with
  | notAnObject other => exact other member rfl
  | errorReported reported => exact reported quiet
  | timedOut _ late => exact late timely
  | missingShards _ _ uncounted => exact uncounted failed counted
  | shardsFailed _ _ counted' some =>
      cases Option.some.inj (counted.symm.trans counted')
      exact absurd some (not_lt.mpr whole)
  | missingHits _ _ _ _ unlisted => exact unlisted items listed
  | missingCursor _ _ _ _ _ unnamed => exact unnamed cursor named

/-- No other reason is given. -/
theorem ofText_error_iff {text : String} {meaning : Meaning} (read : Read text meaning)
    {reason : Rejection} : Page.ofText text = .error reason ↔ Violates meaning reason := by
  refine ⟨fun refused => ?_, ofText_refused read⟩
  rcases ofText_verdict read with ⟨own, other, violates⟩ | ⟨page, _, accepted, _⟩
  · cases refused.symm.trans other
    exact violates
  · cases refused.symm.trans accepted

/-- A page is accepted if its document is a trustworthy object. -/
theorem ofText_accepted_iff {text : String} {meaning : Meaning} (read : Read text meaning) :
    (∃ page, Page.ofText text = .ok page) ↔
      ∃ member items cursor, meaning = .object member ∧ Trustworthy member items cursor := by
  constructor
  · rintro ⟨page, accepted⟩
    rcases ofText_verdict read with ⟨reason, refused, _⟩ | ⟨_, root, _, _, same, trusted⟩
    · cases refused.symm.trans accepted
    · exact ⟨_, _, _, same, trusted⟩
  · rintro ⟨member, items, cursor, rfl, trusted⟩
    rcases ofText_verdict read with ⟨reason, _, violates⟩ | ⟨page, _, accepted, _⟩
    · exact absurd violates (trusted.not_violates reason)
    · exact ⟨page, accepted⟩

/-- What a page was read from. -/
theorem ofText_source {text : String} {page : Page} (accepted : Page.ofText text = .ok page) :
    ∃ root, (Json.object root).Ordered ∧ Read text (.object (view root)) ∧ page.IsOf text root ∧
      Trustworthy (view root) (page.hits.map (Json.meaning JsonNumber.worth)) page.cursor := by
  obtain ⟨root, parsed, _⟩ := Page.ofText_ok accepted
  have ordered := Json.parse?_ordered parsed
  have read : Read text (.object (view root)) := read_object_iff.mpr ⟨root, parsed, ordered, rfl⟩
  rcases ofText_verdict read with ⟨_, refused, _⟩ | ⟨own, root', accepted', isOf, same, trusted⟩
  · cases refused.symm.trans accepted
  · cases accepted.symm.trans accepted'
    have document := isOf.parsed
    rw [isOf.document] at document
    cases parsed.symm.trans document
    exact ⟨root, ordered, read, isOf, trusted⟩

/-- **A response is a page exactly if it can be trusted.** -/
theorem ofText_validates : Validates Read Page.ofText where
  malformed := by
    intro text
    constructor
    · intro refused meaning read
      exact not_violates_malformed meaning ((ofText_error_iff read).mp refused)
    · intro unread
      cases parsed : Json.parse? text with
      | none => rw [Page.ofText, parsed]
      | some value => exact absurd (read_iff.mpr ⟨value, parsed, rfl⟩) (unread _)
  refused := fun read => ofText_error_iff read
  accepted := ofText_accepted_iff
  page := by
    intro text page accepted
    obtain ⟨root, ordered, read, isOf, trusted⟩ := ofText_source accepted
    refine ⟨isOf.parsed, ?_⟩
    rw [isOf.document]
    cases ordered with
    | object sorted inside =>
        exact ⟨isOf.hits, isOf.cursor, _, read, meaning_view sorted, trusted⟩
  unaffected := by
    intro text other member member' read read' agree
    rcases ofText_verdict read with
      ⟨reason, refused, violates⟩ | ⟨page, _, accepted, _, same, trusted⟩
    · rw [refused, ofText_refused read' (agree.violates violates)]
    · cases same
      obtain ⟨items, trusted'⟩ := agree.trustworthy trusted
      obtain ⟨page', accepted'⟩ := (ofText_accepted_iff read').mpr ⟨_, _, _, rfl, trusted'⟩
      rw [accepted, accepted']
      rfl

/-- By the grammar the text is an object that reports an error. -/
theorem oversized_spells :
    (Doc.object [("error", .number huge)]).Spells "\x7b\"error\":1e400\x7d" := by
  have written : Written (.mark '\x7b' :: .text "error" :: .mark ':' :: _) _ :=
    .mark (.quoted (.mark written_huge))
  have spells := written [] [] .nil nofun
  exact spells

/-- **Numerals have limits.** A response that reports an error may not be read. -/
theorem ofText_limited : ¬ Validates Says Page.ofText := by
  intro validates
  have said : Says "\x7b\"error\":1e400\x7d" _ := ⟨_, oversized_spells, rfl⟩
  have unread : Json.parse? "\x7b\"error\":1e400\x7d" = none := by decide
  have malformed : Page.ofText "\x7b\"error\":1e400\x7d" = .error .malformed := by
    rw [Page.ofText, unread]
  exact validates.malformed.mp malformed _ said

end ClusterClient.Scroll
