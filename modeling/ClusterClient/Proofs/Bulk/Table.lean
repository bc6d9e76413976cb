import ClusterClient.Proofs.Bulk.Count
import ClusterClient.Proofs.Json.Content

/-! # The decision table of reconciliation

The number of failed operations follows from what is read from the response
(`ClusterClient.Bulk.failures_reconcile`): from `errors`, from `items`, and of an item only from the
status of its one action. It does not follow from what the response says by the grammar alone
(`ClusterClient.Bulk.failures_limited`), because a numeral beyond the greatest double makes a
response unreadable.
-/

namespace ClusterClient

namespace Keyed

variable {α : Type} {entries : Keyed α}

/-- One entry is left exactly if no other key that is asked for has an entry. -/
theorem filter_eq_singleton_iff (sorted : Sorted entries) (asked : String → Bool) {key : String}
    {value : α} :
    entries.filter (fun entry => asked entry.1) = [(key, value)] ↔
      asked key = true ∧ get? key entries = some value ∧
        ∀ other, asked other = true → other ≠ key → get? other entries = none := by
  have kept (entry : String × α) :
      entry ∈ entries.filter (fun entry => asked entry.1) ↔
        get? entry.1 entries = some entry.2 ∧ asked entry.1 = true := by
    rw [List.mem_filter, ← mem_iff_get? sorted]
  constructor
  · intro only
    rw [only] at kept
    obtain ⟨found, own⟩ := (kept (key, value)).mp (List.mem_singleton_self _)
    refine ⟨own, found, ?_⟩
    intro other wanted different
    by_contra some
    obtain ⟨held, present⟩ := Option.ne_none_iff_exists'.mp some
    have same := List.mem_singleton.mp ((kept (other, held)).mpr ⟨present, wanted⟩)
    exact different (Prod.mk.inj same).1
  · rintro ⟨own, found, others⟩
    have same : ∀ entry ∈ entries.filter (fun entry => asked entry.1), entry = (key, value) := by
      intro entry member
      obtain ⟨present, wanted⟩ := (kept entry).mp member
      by_cases equal : entry.1 = key
      · rw [equal, found, Option.some.injEq] at present
        exact Prod.ext equal present.symm
      · rw [others entry.1 wanted equal] at present
        cases present
    have ordered : Sorted (entries.filter fun entry => asked entry.1) :=
      sorted.sublist List.filter_sublist
    have present := (kept (key, value)).mpr ⟨found, own⟩
    rw [List.eq_replicate_of_mem same] at ordered present ⊢
    generalize (entries.filter fun entry => asked entry.1).length = count at ordered present ⊢
    match count with
    | 0 => cases present
    | 1 => rfl
    | more + 2 =>
        exact absurd (List.rel_of_pairwise_cons ordered List.mem_cons_self) (lt_irrefl key)

end Keyed

namespace Bulk

/-- Whether an item says that its operation succeeded: it is an object with exactly one action, and
the status of this action is a number from 200 up to but not including 300. -/
def Succeeds (item : Meaning) : Prop :=
  ∃ (action : Action) (result : Meaning) (status : ℚ),
    item.member? action.name = some result ∧
      (∀ other : Action, other ≠ action → item.member? other.name = none) ∧
        result.member? "status" = some (.number status) ∧ 200 ≤ status ∧ status < 300

open Classical in
/-- The number of items that do not succeed. -/
noncomputable def failed (items : List Meaning) : Nat :=
  items.countP fun item => ¬ Succeeds item

/-- The statuses that an item gives its actions. -/
def statuses (item : Meaning) (action : Action) : Option (Option Meaning) :=
  (item.member? action.name).map fun result => result.member? "status"

/-- A response that lists items and does not say that there were no errors. -/
def Lists (reads : String → Meaning → Prop) (text : String) (items : List Meaning) : Prop :=
  ∃ member, reads text (.object member) ∧ member "errors" ≠ some (.bool false) ∧
    member "items" = some (.array items)

/-- How many operations a response leaves failed of those that were sent, from what is read from
it. -/
structure DecisionTable (reads : String → Meaning → Prop) (count : String → Nat → Nat) : Prop where
  unread {text : String} (sent : Nat) :
    (∀ member, ¬ reads text (.object member)) → count text sent = sent
  fine {text : String} {member : String → Option Meaning} (sent : Nat) :
    reads text (.object member) → member "errors" = some (.bool false) → count text sent = 0
  unlisted {text : String} {member : String → Option Meaning} (sent : Nat) :
    reads text (.object member) → member "errors" ≠ some (.bool false) →
      (∀ items, member "items" ≠ some (.array items)) → count text sent = 0
  listed {text : String} {items : List Meaning} (sent : Nat) :
    Lists reads text items → count text sent = failed items

/-- The decision table, and what it means for responses that list items: the count adds up, the
order of the items does not matter, and neither does anything but the statuses of their actions. -/
structure Reconciles (reads : String → Meaning → Prop) (count : String → Nat → Nat) : Prop
    extends DecisionTable reads count where
  appended {text first second : String} {items others : List Meaning} (sent part rest : Nat) :
    Lists reads first items → Lists reads second others → Lists reads text (items ++ others) →
      count text sent = count first part + count second rest
  permuted {text other : String} {items others : List Meaning} (sent part : Nat) :
    Lists reads text items → Lists reads other others → items.Perm others →
      count text sent = count other part
  alike {text other : String} {items others : List Meaning} (sent part : Nat) :
    Lists reads text items → Lists reads other others →
      items.map statuses = others.map statuses → count text sent = count other part

/-- Whether the statuses of an item say that its operation succeeded. -/
def SaySuccess (given : Action → Option (Option Meaning)) : Prop :=
  ∃ (action : Action) (status : ℚ), given action = some (some (.number status)) ∧
    (∀ other : Action, other ≠ action → given other = none) ∧ 200 ≤ status ∧ status < 300

/-- Whether an item succeeds depends on the statuses of its actions alone. -/
theorem succeeds_iff (item : Meaning) : Succeeds item ↔ SaySuccess (statuses item) := by
  simp only [SaySuccess, statuses, Option.map_eq_some_iff, Option.map_eq_none_iff]
  constructor
  · rintro ⟨action, result, status, own, others, found, low, high⟩
    exact ⟨action, status, ⟨result, own, found⟩, others, low, high⟩
  · rintro ⟨action, status, ⟨result, own, found⟩, others, low, high⟩
    exact ⟨action, result, status, own, others, found, low, high⟩

open Classical in
/-- The failed items are counted by the statuses of their actions alone. -/
theorem failed_eq (items : List Meaning) :
    failed items = (items.map statuses).countP fun given => ¬ SaySuccess given := by
  rw [failed, List.countP_map]
  refine List.countP_congr fun item _ => ?_
  simp only [Function.comp, succeeds_iff]

/-- All that holds of the count besides follows from the table: items count one by one, so neither
their order nor anything else in the document makes a difference. -/
theorem DecisionTable.reconciles {reads : String → Meaning → Prop} {count : String → Nat → Nat}
    (table : DecisionTable reads count) : Reconciles reads count where
  toDecisionTable := table
  appended := by
    intro text first second items others sent part rest one other both
    rw [table.listed sent both, table.listed part one, table.listed rest other]
    exact List.countP_append ..
  permuted := by
    intro text other items others sent part one another permuted
    rw [table.listed sent one, table.listed part another]
    exact permuted.countP_eq _
  alike := by
    intro text other items others sent part one another same
    rw [table.listed sent one, table.listed part another, failed_eq, failed_eq, same]

/-- Whether a key names an action. -/
def namesAction (key : String) : Bool := (Action.ofName? key).isSome

/-- The four names in the table are the names of the actions. -/
theorem namesAction_iff (name : String) :
    namesAction name = true ↔ ∃ action : Action, action.name = name := by
  rw [namesAction, Action.ofName?, List.find?_isSome]
  constructor
  · rintro ⟨action, _, same⟩
    exact ⟨action, beq_iff_eq.mp same⟩
  · rintro ⟨action, same⟩
    exact ⟨action, by cases action <;> decide, beq_iff_eq.mpr same⟩

theorem name_injective {action other : Action} (same : action.name = other.name) :
    action = other := by
  cases action <;> cases other <;> first | rfl | exact absurd same (by decide)

/-- A status is a success if the number that it is read as lies from 200 up to but not including
300. -/
theorem isSuccessStatus_iff (status : Json) :
    isSuccessStatus status = true ↔
      ∃ x : ℚ, status.meaning JsonNumber.worth = .number x ∧ 200 ≤ x ∧ x < 300 := by
  cases status with
  | number number =>
      simp only [isSuccessStatus, Json.number?, Json.meaning, Meaning.number.injEq,
        exists_eq_left', Bool.and_eq_true, Bool.not_eq_true', ← Bool.not_eq_true,
        Double.atLeast_iff, not_le]
      rfl
  | _ => simp [isSuccessStatus, Json.number?, Json.meaning]

/-- The result of an action reports success by its status. -/
theorem reportsSuccess_iff {result : Json} (ordered : result.Ordered) :
    ((result.get? "status").map isSuccessStatus).getD false = true ↔
      ∃ x : ℚ, (result.meaning JsonNumber.worth).member? "status" = some (.number x) ∧
        200 ≤ x ∧ x < 300 := by
  rw [Json.member?_meaning ordered]
  cases result.get? "status" with
  | none => exact iff_of_false Bool.false_ne_true (by rintro ⟨x, none, _⟩; cases none)
  | some status =>
      rw [Option.map_some, Option.getD_some, isSuccessStatus_iff]
      simp only [Option.map_some, Option.some.injEq]

/-- An object reports success by the result of its one action. -/
theorem itemSucceeded_object {members : Members} (sorted : Keyed.Sorted members) :
    itemSucceeded (.object members) = true ↔
      ∃ (action : Action) (result : Json), Keyed.get? action.name members = some result ∧
        (∀ other : Action, other ≠ action → Keyed.get? other.name members = none) ∧
          ((result.get? "status").map isSuccessStatus).getD false = true := by
  have asked (action : Action) : namesAction action.name = true :=
    (namesAction_iff _).mpr ⟨action, rfl⟩
  constructor
  · intro succeeded
    rw [itemSucceeded, Json.members?] at succeeded
    simp only at succeeded
    split at succeeded
    · rename_i key result only
      obtain ⟨own, found, others⟩ := (Keyed.filter_eq_singleton_iff sorted namesAction).mp only
      obtain ⟨action, rfl⟩ := (namesAction_iff key).mp own
      refine ⟨action, result, found, ?_, succeeded⟩
      intro other different
      exact others other.name (asked other) (mt name_injective different)
    · cases succeeded
  · rintro ⟨action, result, found, others, succeeded⟩
    have only : (members.filter fun member => (Action.ofName? member.1).isSome) =
        [(action.name, result)] := by
      apply (Keyed.filter_eq_singleton_iff sorted namesAction).mpr
      refine ⟨asked action, found, ?_⟩
      intro name wanted different
      obtain ⟨other, rfl⟩ := (namesAction_iff name).mp wanted
      exact others other fun same => different (congrArg Action.name same)
    rw [itemSucceeded, Json.members?]
    simp only [only]
    exact succeeded

/-- **One item.** -/
theorem itemSucceeded_iff {item : Json} (ordered : item.Ordered) :
    itemSucceeded item = true ↔ Succeeds (item.meaning JsonNumber.worth) := by
  cases ordered with
  | @object members sorted inside =>
      have view (key : String) : ((Json.object members).meaning JsonNumber.worth).member? key =
          (Keyed.get? key members).map (Json.meaning JsonNumber.worth) :=
        Json.member?_meaning (.object sorted inside) JsonNumber.worth key
      have below {key : String} {result : Json} (found : Keyed.get? key members = some result) :
          result.Ordered := inside _ ((Keyed.mem_iff_get? sorted).mpr found)
      rw [itemSucceeded_object sorted]
      simp only [Succeeds, view, Option.map_eq_some_iff, Option.map_eq_none_iff]
      constructor
      · rintro ⟨action, result, found, others, succeeded⟩
        obtain ⟨status, given, low, high⟩ := (reportsSuccess_iff (below found)).mp succeeded
        exact ⟨action, _, status, ⟨result, found, rfl⟩, others, given, low, high⟩
      · rintro ⟨action, _, status, ⟨result, found, rfl⟩, others, given, low, high⟩
        have succeeded := (reportsSuccess_iff (below found)).mpr ⟨status, given, low, high⟩
        exact ⟨action, result, found, others, succeeded⟩
  | _ =>
      refine iff_of_false Bool.false_ne_true ?_
      rintro ⟨action, result, status, own, _⟩
      cases own

/-- The items that report no success. -/
theorem countP_items {items : List Json} (ordered : ∀ item ∈ items, item.Ordered) :
    (items.countP fun item => !itemSucceeded item) =
      failed (items.map (Json.meaning JsonNumber.worth)) := by
  rw [failed, List.countP_map]
  refine List.countP_congr fun item member => ?_
  rw [Bool.not_eq_true', ← Bool.not_eq_true, itemSucceeded_iff (ordered item member)]
  simp only [Function.comp, decide_eq_true_eq]

/-- For an object the count is the one that it reports, whatever was sent. -/
theorem failures_object {text : String} {root : Members}
    (parsed : Json.parse? text = some (.object root)) (sent : Nat) :
    failures text sent = reportedFailures root := by
  rw [failures, parsed]
  rfl

/-- **The count follows the table.** -/
theorem failures_table : DecisionTable Read failures where
  unread := by
    intro text sent none
    unfold failures
    split
    · rfl
    · rename_i root found
      obtain ⟨value, parsed, isObject⟩ := Option.bind_eq_some_iff.mp found
      rw [members?_eq_some isObject] at parsed
      have read := read_object_iff.mpr ⟨root, parsed, Json.parse?_ordered parsed, rfl⟩
      exact absurd read (none _)
  fine := by
    intro text member sent read fine
    obtain ⟨root, parsed, _, rfl⟩ := read_object_iff.mp read
    rw [failures_object parsed, reportedFailures, Json.map_meaning_eq_bool.mp fine]
  unlisted := by
    intro text member sent read errors unlisted
    obtain ⟨root, parsed, _, rfl⟩ := read_object_iff.mp read
    rw [failures_object parsed]
    refine (reportedFailures_cases root).resolve_right ?_
    rintro ⟨items, _, listed⟩
    exact unlisted _ (Json.map_meaning_eq_array.mpr ⟨items, listed, rfl⟩)
  listed := by
    rintro text items sent ⟨member, read, errors, listed⟩
    obtain ⟨root, parsed, ordered, rfl⟩ := read_object_iff.mp read
    obtain ⟨held, found, rfl⟩ := Json.map_meaning_eq_array.mp listed
    have below : (Json.array held).Ordered := ordered.get? found
    rw [failures_object parsed, reportedFailures_eq (mt Json.map_meaning_eq_bool.mpr errors) found]
    cases below with
    | array inside => exact countP_items inside

/-- **Reconciliation equals its decision table**, for what is read from the response. -/
theorem failures_reconcile : Reconciles Read failures := failures_table.reconciles

/-- A response that says that there were no errors. -/
def flawless : Doc := .object [("errors", .bool false), ("x", .number huge)]

/-- By the grammar the text is an object with two members. -/
theorem flawless_spells : flawless.Spells "\x7b\"errors\":false,\"x\":1e400\x7d" := by
  have member : Written (.mark ',' :: .text "x" :: .mark ':' :: _) _ :=
    .mark (.quoted (.mark written_huge))
  have flag : Written ([.constant (some false)] ++ _) _ :=
    .append (.lexeme (.constant (some false))) member (led_mark (by decide) _)
  have written : Written (.mark '\x7b' :: .text "errors" :: .mark ':' :: _) _ :=
    .mark (.quoted (.mark flag))
  have spells := written [] [] .nil nofun
  exact spells

/-- **Numerals have limits.** A response may say that there were no errors and not be read. -/
theorem failures_limited : ¬ Reconciles Says failures := by
  intro reconciles
  have said : Says "\x7b\"errors\":false,\"x\":1e400\x7d" _ := ⟨flawless, flawless_spells, rfl⟩
  have none := reconciles.fine 3 said rfl
  exact absurd none (by decide)

end Bulk
end ClusterClient
