import ClusterClient.Command.Load
import ClusterClient.Proofs.Bulk.Count
import ClusterClient.Proofs.Bulk.Wire
import ClusterClient.Proofs.Text.Line
import Mathlib.Data.List.Infix

/-! # What a load sends

The documents of a load are cut into groups of the batch size, and what is left over is a group of
its own (`ClusterClient.Command.Grouped`). A load sends each group in one batch, in order, and
nothing else; a line that is no document ends it, and then only the full groups are sent
(`ClusterClient.Command.load_groups`). All of this is so up to the greatest size that a batch can
have; a load in larger batches ends the program before its input is opened
(`ClusterClient.Command.load_overflows`).
-/

namespace ClusterClient.Command

open Bulk

/-- Whether a load goes on behind a line: it is blank or has a document. -/
def IsSound (line : String) : Prop :=
  isBlankText line = true ∨ (Json.parse? line).isSome = true

instance (line : String) : Decidable (IsSound line) := inferInstanceAs (Decidable (_ ∨ _))

/-- The document on a line that is not blank. -/
def document? (line : String) : Option Json :=
  if isBlankText line then none else Json.parse? line

/-- The documents on lines. -/
def documentsOn (lines : List String) : List Json := lines.filterMap document?

/-- Elements are cut into groups of the given size, behind which fewer than that are left. -/
structure Grouped {α : Type} (size : Nat) (elements : List α) (full : List (List α))
    (left : List α) : Prop where
  all : full.flatten ++ left = elements
  full_length : ∀ group ∈ full, group.length = size
  left_length : left.length < size

namespace Grouped

variable {α : Type} {size : Nat} {elements left : List α} {full : List (List α)}

/-- Fewer elements than make a group are all left over. -/
theorem nil (room : left.length < size) : Grouped size left [] left :=
  ⟨rfl, List.forall_mem_nil _, room⟩

/-- A full group before the others. -/
theorem cons (grouped : Grouped size elements full left) {group : List α}
    (filled : group.length = size) : Grouped size (group ++ elements) (group :: full) left where
  all := by rw [List.flatten_cons, List.append_assoc, grouped.all]
  full_length := List.forall_mem_cons.mpr ⟨filled, grouped.full_length⟩
  left_length := grouped.left_length

/-- A full group has an element, as the size is no less than one. -/
theorem full_ne_nil (grouped : Grouped size elements full left) (positive : 1 ≤ size) :
    ∀ group ∈ full, group ≠ [] := by
  rintro group member rfl
  have length := grouped.full_length [] member
  rw [List.length_nil] at length
  omega

/-- Full groups hold as many elements as the size says, each. -/
theorem length_flatten (grouped : Grouped size elements full left) :
    full.flatten.length = full.length * size := by
  rw [List.length_flatten, List.map_congr_left grouped.full_length, List.map_const',
    List.sum_replicate_nat]

/-- The elements are those of the full groups and those that are left. -/
theorem length_eq (grouped : Grouped size elements full left) :
    elements.length = full.length * size + left.length := by
  rw [← grouped.all, List.length_append, grouped.length_flatten]

/-- There are as many full groups as the size divides into. -/
theorem count (grouped : Grouped size elements full left) :
    full.length = elements.length / size := by
  have room := grouped.left_length
  rw [grouped.length_eq, Nat.mul_comm, Nat.mul_add_div (by omega), Nat.div_eq_of_lt room]
  rfl

/-- The full groups are the first elements, as many as make full groups. -/
theorem flatten_full (grouped : Grouped size elements full left) :
    full.flatten = elements.take (elements.length / size * size) := by
  rw [← grouped.count, ← grouped.length_flatten, ← grouped.all, List.take_left]

/-- All groups, the last of which may be smaller than the others. -/
def rounded (full : List (List α)) (left : List α) : List (List α) :=
  if left.isEmpty then full else full ++ [left]

/-- All groups together are the elements. -/
theorem flatten_rounded (grouped : Grouped size elements full left) :
    (rounded full left).flatten = elements := by
  rw [← grouped.all, rounded]
  cases left with
  | nil => exact (List.append_nil _).symm
  | cons first rest =>
      rw [List.isEmpty_cons, if_neg Bool.false_ne_true, List.flatten_append,
        List.flatten_singleton]

/-- The number of all groups is the quotient by the size, rounded up. -/
theorem count_rounded (grouped : Grouped size elements full left) :
    (rounded full left).length = (elements.length + size - 1) / size := by
  have room := grouped.left_length
  have total := grouped.length_eq
  rw [rounded]
  cases left with
  | nil =>
      have whole : elements.length + size - 1 = size * full.length + (size - 1) := by
        rw [total, List.length_nil, Nat.mul_comm]
        rw [List.length_nil] at room
        omega
      rw [whole, Nat.mul_add_div room, Nat.div_eq_of_lt (Nat.sub_lt room Nat.one_pos)]
      rfl
  | cons first rest =>
      have beyond : elements.length + size - 1 = size * (full.length + 1) + rest.length := by
        rw [total, List.length_cons, Nat.mul_add, Nat.mul_comm]
        omega
      have remainder : rest.length < size := by
        rw [List.length_cons] at room
        omega
      rw [beyond, Nat.mul_add_div (by omega), Nat.div_eq_of_lt remainder]
      rw [List.isEmpty_cons, if_neg Bool.false_ne_true, List.length_append]
      rfl

/-- No group is empty, as what is left makes one only if there is something left. -/
theorem rounded_ne_nil (grouped : Grouped size elements full left) (positive : 1 ≤ size) :
    ∀ group ∈ rounded full left, group ≠ [] := by
  have filled := grouped.full_ne_nil positive
  rw [rounded]
  cases left with
  | nil => exact filled
  | cons first rest =>
      rw [List.isEmpty_cons, if_neg Bool.false_ne_true, List.forall_mem_append]
      refine ⟨filled, ?_⟩
      rw [List.forall_mem_singleton]
      exact List.cons_ne_nil first rest

/-- Every group but the last has the size, and the last has no more. -/
theorem rounded_length (grouped : Grouped size elements full left) (positive : 1 ≤ size) :
    (∀ group ∈ (rounded full left).dropLast, group.length = size) ∧
      ∀ group ∈ (rounded full left).getLast?, 1 ≤ group.length ∧ group.length ≤ size := by
  rw [rounded]
  cases left with
  | nil =>
      constructor
      · exact fun group member => grouped.full_length group (List.mem_of_mem_dropLast member)
      · intro group last
        have filled := grouped.full_length group (List.mem_of_getLast? last)
        omega
  | cons first rest =>
      have room := grouped.left_length
      rw [List.isEmpty_cons, if_neg Bool.false_ne_true, List.dropLast_concat, List.getLast?_concat]
      refine ⟨grouped.full_length, ?_⟩
      rintro group ⟨⟩
      rw [List.length_cons] at room ⊢
      omega

end Grouped

namespace LoadOptions

variable (options : LoadOptions)

/-- The operation for a document. -/
def operation (document : Json) : Operation :=
  ⟨options.action, options.docType, documentId document options.idField, some document.compact⟩

/-- The batch for a group of documents. -/
def batchFor (group : List Json) : Batch :=
  ⟨options.index, options.batchSize, group.map options.operation⟩

/-- Batches of groups that are not empty have operations. -/
theorem batchFor_ne_nil {groups : List (List Json)} (filled : ∀ group ∈ groups, group ≠ []) :
    ∀ batch ∈ groups.map options.batchFor, batch.operations ≠ [] := by
  intro batch member
  obtain ⟨group, among, rfl⟩ := List.mem_map.mp member
  rw [batchFor, ne_eq, List.map_eq_nil_iff]
  exact filled group among

/-- The size of a group of documents. -/
def bytes (group : List Json) : Nat := (group.map fun document => document.compact.utf8ByteSize).sum

/-- A load under way, in which a group of documents waits. -/
def waiting (group : List Json) (summary : LoadSummary) : Loading :=
  { batch := options.batchFor group, pendingBytes := bytes group, summary }

/-- A load writes documents and deletes none. -/
theorem action_ne_delete : options.action ≠ .delete := by
  unfold action
  split_ifs <;> decide

/-- The operation for a document stands on sound lines. -/
theorem operation_sound (document : Json) : (options.operation document).Sound :=
  ⟨options.action_ne_delete, (Json.printable_compact document).no_break⟩

/-- Every document fits into the batch of a load, whatever else is in it. -/
theorem add_document (loading : Loading) (document : Json) :
    loading.add options (documentId document options.idField) document.compact =
      .ok { loading with
        batch := loading.batch.push (options.operation document)
        pendingBytes := loading.pendingBytes + document.compact.utf8ByteSize } := by
  rw [Loading.add, Batch.add_compact _ options.action_ne_delete]
  rfl

/-- A document that is added waits behind the others. -/
theorem add_waiting (group : List Json) (summary : LoadSummary) (document : Json) :
    (options.waiting group summary).add options (documentId document options.idField)
        document.compact =
      .ok (options.waiting (group ++ [document]) summary) := by
  have batch : (options.batchFor group).push (options.operation document) =
      options.batchFor (group ++ [document]) := by
    rw [batchFor, batchFor, List.map_append]
    rfl
  have size : bytes (group ++ [document]) = bytes group + document.compact.utf8ByteSize := by
    rw [bytes, bytes, List.map_append, List.sum_append, List.map_singleton, List.sum_singleton]
  rw [add_document, waiting, batch, waiting, size]

/-- A flush performs the batch for the group that waits, and counts it. -/
theorem flush_waiting (group : List Json) (summary : LoadSummary) :
    (options.waiting group summary).flush =
      (options.batchFor group).perform >>= fun failed =>
        .done (options.waiting [] (summary.add group.length failed (bytes group))) := by
  have size : (options.batchFor group).size = group.length := List.length_map _
  rw [← size]
  rfl

/-- The batch for a group is full if the group is. -/
theorem isFull_batchFor (group : List Json) :
    (options.batchFor group).isFull = decide (options.batchSize ≤ group.length) := by
  rw [Batch.isFull, Batch.size, batchFor, List.length_map]

/-- A full group is flushed. -/
theorem flushIfFull_full {group : List Json} (fills : options.batchSize ≤ group.length)
    (summary : LoadSummary) :
    (options.waiting group summary).flushIfFull = (options.waiting group summary).flush := by
  have full : (options.waiting group summary).batch.isFull = true :=
    (options.isFull_batchFor group).trans (decide_eq_true fills)
  rw [Loading.flushIfFull, if_pos full]

/-- A group with room left goes on waiting. -/
theorem flushIfFull_room {group : List Json} (room : group.length < options.batchSize)
    (summary : LoadSummary) :
    (options.waiting group summary).flushIfFull = .done (options.waiting group summary) := by
  have notFull : (options.waiting group summary).batch.isFull = false :=
    (options.isFull_batchFor group).trans (decide_eq_false (Nat.not_le_of_lt room))
  rw [Loading.flushIfFull, notFull, if_neg Bool.false_ne_true]

/-- Sends groups of documents, each in a batch of its own. -/
def sendEach : LoadSummary → List (List Json) → Exchange LoadSummary
  | summary, [] => .done summary
  | summary, group :: rest => do
    let failed ← (options.batchFor group).perform
    sendEach (summary.add group.length failed (bytes group)) rest

/-- The last of several groups is flushed behind the others. -/
theorem sendEach_concat (groups : List (List Json)) (last : List Json) (summary : LoadSummary) :
    options.sendEach summary (groups ++ [last]) =
      options.sendEach summary groups >>= fun summary =>
        (options.waiting last summary).flush >>= fun loading => .done loading.summary := by
  induction groups generalizing summary with
  | nil =>
      rw [List.nil_append, sendEach, sendEach, Exchange.done_bind, flush_waiting,
        Exchange.bind_assoc]
      rfl
  | cons group groups ih =>
      rw [List.cons_append, sendEach, sendEach, Exchange.bind_assoc]
      exact congrArg _ (funext fun failed => ih _)

/-- The summary behind groups of documents, from the numbers of those that failed. -/
def tally (groups : List (List Json)) (counts : List Nat) (summary : LoadSummary) :
    LoadSummary where
  documents := summary.documents + groups.flatten.length
  failed := summary.failed + counts.sum
  batches := summary.batches + groups.length
  bytes := summary.bytes + bytes groups.flatten

/-- The first group is counted before the others. -/
theorem tally_cons (group : List Json) (groups : List (List Json)) (failed : Nat)
    (counts : List Nat) (summary : LoadSummary) :
    tally (group :: groups) (failed :: counts) summary =
      tally groups counts (summary.add group.length failed (bytes group)) := by
  simp only [tally, LoadSummary.add, bytes, List.flatten_cons, List.length_append, List.map_append,
    List.sum_append, List.sum_cons, List.length_cons, LoadSummary.mk.injEq]
  omega

/-- Sending groups is performing their batches. -/
theorem sendEach_eq (groups : List (List Json)) (summary : LoadSummary) :
    options.sendEach summary groups =
      performEach (groups.map options.batchFor) >>= fun counts =>
        .done (tally groups counts summary) := by
  induction groups generalizing summary with
  | nil => rfl
  | cons group groups ih =>
      simp only [sendEach, List.map_cons, performEach, Exchange.bind_assoc, ih, Exchange.pure_eq,
        Exchange.done_bind, tally_cons]

end LoadOptions

section Lines

variable {options : LoadOptions}

/-- A blank line has no document. -/
theorem documentsOn_blank {line : String} (blank : isBlankText line = true)
    (lines : List String) : documentsOn (line :: lines) = documentsOn lines := by
  rw [documentsOn, List.filterMap_cons, document?, if_pos blank]
  rfl

/-- A line that is a JSON text has the document that it spells. -/
theorem documentsOn_document {line : String} (full : isBlankText line ≠ true) {document : Json}
    (parsed : Json.parse? line = some document) (lines : List String) :
    documentsOn (line :: lines) = document :: documentsOn lines := by
  rw [documentsOn, List.filterMap_cons, document?, if_neg full, parsed]
  rfl

/-- A blank line is skipped, but counts as a line. -/
theorem loadLines_blank {line : String} (blank : isBlankText line = true) (number : Nat)
    (loading : Loading) (rest : List (Option String)) :
    loadLines options number loading (some line :: rest) =
      loadLines options (number + 1) loading rest := by
  rw [loadLines, if_pos blank]

/-- A document is added to those that wait, and the batch is sent if that makes it full. -/
theorem loadLines_document {line : String} (full : isBlankText line ≠ true) {document : Json}
    (parsed : Json.parse? line = some document) (number : Nat) (group : List Json)
    (summary : LoadSummary) (rest : List (Option String)) :
    loadLines options number (options.waiting group summary) (some line :: rest) =
      (options.waiting (group ++ [document]) summary).flushIfFull >>= fun loading =>
        loadLines options (number + 1) loading rest := by
  rw [loadLines, if_neg full, parsed]
  simp only [LoadOptions.add_waiting]

/-- A line that is no document ends the load with its number and its text. -/
theorem loadLines_broken {line : String} (broken : ¬ IsSound line) (number : Nat)
    (loading : Loading) (rest : List (Option String)) :
    loadLines options number loading (some line :: rest) =
      .done (.error (.invalidLine number line)) := by
  obtain ⟨full, unparsed⟩ := not_or.mp broken
  rw [Bool.not_eq_true, Option.isSome_eq_false_iff, Option.isNone_iff_eq_none] at unparsed
  rw [loadLines, if_neg full, unparsed]

/-- **Sound lines are read group by group.** Their documents and those that wait are cut into groups
of the batch size. The full ones are sent, and the others wait. -/
theorem loadLines_sound (positive : 1 ≤ options.batchSize) {before : List String}
    (sound : ∀ line ∈ before, IsSound line) (rest : List (Option String)) (group : List Json)
    (room : group.length < options.batchSize) :
    ∃ full left, Grouped options.batchSize (group ++ documentsOn before) full left ∧
      ∀ number summary,
        loadLines options number (options.waiting group summary) (before.map some ++ rest) =
          options.sendEach summary full >>= fun summary =>
            loadLines options (number + before.length) (options.waiting left summary) rest := by
  induction before generalizing group with
  | nil =>
      refine ⟨[], group, ?_, fun number summary => rfl⟩
      rw [documentsOn, List.filterMap_nil, List.append_nil]
      exact .nil room
  | cons line before ih =>
      obtain ⟨first, others⟩ := List.forall_mem_cons.mp sound
      have count : ∀ number : Nat,
          number + 1 + before.length = number + (line :: before).length := by
        intro number
        rw [List.length_cons]
        omega
      rw [List.map_cons, List.cons_append]
      by_cases blank : isBlankText line = true
      · obtain ⟨full, left, grouped, read⟩ := ih others group room
        rw [documentsOn_blank blank]
        refine ⟨full, left, grouped, ?_⟩
        intro number summary
        rw [loadLines_blank blank, read, count]
      · obtain ⟨document, parsed⟩ := Option.isSome_iff_exists.mp (first.resolve_left blank)
        have longer : (group ++ [document]).length = group.length + 1 := List.length_append
        rw [documentsOn_document blank parsed, ← List.singleton_append, ← List.append_assoc]
        by_cases fills : options.batchSize ≤ (group ++ [document]).length
        -- The document completes its group, and the rest is read with an empty batch.
        · obtain ⟨full, left, grouped, read⟩ := ih others [] positive
          have filled : (group ++ [document]).length = options.batchSize := by omega
          refine ⟨(group ++ [document]) :: full, left, grouped.cons filled, ?_⟩
          intro number summary
          rw [loadLines_document blank parsed, options.flushIfFull_full fills,
            options.flush_waiting, Exchange.bind_assoc, LoadOptions.sendEach, Exchange.bind_assoc]
          simp only [Exchange.done_bind, read, count]
        -- There is room left, and the document waits with the others.
        · obtain ⟨full, left, grouped, read⟩ := ih others (group ++ [document]) (by omega)
          refine ⟨full, left, grouped, ?_⟩
          intro number summary
          rw [loadLines_document blank parsed, options.flushIfFull_room (Nat.lt_of_not_le fills),
            Exchange.done_bind, read, count]

end Lines

section Load

variable {options : LoadOptions}

/-- What a load ends with, from what the lines of its input end with. -/
def finish : Except CommandError Loading → Exchange (Except CommandError LoadSummary)
  | .error error => .done (.error error)
  | .ok loading => loading.flushRest >>= fun loading => .done (.ok loading.summary)

/-- What a load asks of its options: an index with a name, and batches of at least one document for
which there is room. -/
structure LoadOptions.Usable (options : LoadOptions) : Prop where
  named : options.index ≠ ""
  positive : 1 ≤ options.batchSize
  fits : options.batchSize ≤ Batch.maxSize

/-- A load with usable options reads its lines, and then sends what is left in the batch. -/
theorem load_eq (usable : options.Usable) (lines : List (Option String)) :
    load options (some lines) = loadLines options 1 (options.waiting [] {}) lines >>= finish := by
  have created : Batch.create options.index options.batchSize = .ok (options.batchFor []) :=
    Batch.create_eq_ok_iff.mpr ⟨usable.named, usable.fits, rfl⟩
  have positive := usable.positive
  rw [load, if_neg (by omega), created]
  apply congrArg (loadLines options 1 (options.waiting [] {}) lines >>= ·)
  funext read
  cases read with
  | error error => rfl
  | ok loading => rfl

/-- A load in batches for which there is no room ends the program, whatever its input is. -/
theorem load_oversized (named : options.index ≠ "") (oversized : Batch.maxSize < options.batchSize)
    (input : Option (List (Option String))) : load options input = .done (.error .overflow) := by
  have unmade : Batch.create options.index options.batchSize = .error .overflow :=
    Batch.create_eq_overflow_iff.mpr ⟨named, oversized⟩
  rw [load, if_neg (Nat.ne_zero_of_lt oversized), unmade]
  rfl

/-- Lines that are all sound are sent group by group, to the last document. -/
theorem load_sound (usable : options.Usable) {lines : List String}
    (sound : ∀ line ∈ lines, IsSound line) :
    ∃ full left, Grouped options.batchSize (documentsOn lines) full left ∧
      load options (some (lines.map some)) =
        performEach ((Grouped.rounded full left).map options.batchFor) >>= fun counts =>
          .done (.ok (LoadOptions.tally (Grouped.rounded full left) counts {})) := by
  obtain ⟨full, left, grouped, read⟩ :=
    loadLines_sound usable.positive sound [] [] usable.positive
  refine ⟨full, left, grouped, ?_⟩
  have sent : load options (some (lines.map some)) =
      options.sendEach {} (Grouped.rounded full left) >>= fun summary => .done (.ok summary) := by
    rw [load_eq usable, ← List.append_nil (lines.map some), read, Exchange.bind_assoc,
      Grouped.rounded]
    cases left with
    | nil => rfl
    | cons first rest =>
        rw [List.isEmpty_cons, if_neg Bool.false_ne_true, LoadOptions.sendEach_concat]
        simp only [Exchange.bind_assoc, Exchange.done_bind]
        rfl
  rw [sent, LoadOptions.sendEach_eq, Exchange.bind_assoc]
  rfl

/-- A line that is no document ends the load, and the documents that make no full group are not
sent. -/
theorem load_broken (usable : options.Usable) {before : List String}
    (sound : ∀ line ∈ before, IsSound line) {line : String} (broken : ¬ IsSound line)
    (behind : List String) :
    ∃ full left, Grouped options.batchSize (documentsOn before) full left ∧
      load options (some ((before ++ line :: behind).map some)) =
        performEach (full.map options.batchFor) >>= fun _ =>
          .done (.error (.invalidLine (before.length + 1) line)) := by
  obtain ⟨full, left, grouped, read⟩ :=
    loadLines_sound usable.positive sound ((line :: behind).map some) [] usable.positive
  refine ⟨full, left, grouped, ?_⟩
  rw [load_eq usable, List.map_append, read, Exchange.bind_assoc, LoadOptions.sendEach_eq,
    Exchange.bind_assoc]
  simp only [Exchange.done_bind, List.map_cons, loadLines_broken broken, finish,
    Nat.add_comm 1 before.length]

/-- An exchange sends groups of documents and nothing else: it does with a cluster what performing a
batch for each group does, and each dispatch spells the operations of its group. -/
structure Sends (options : LoadOptions) (client : Client)
    (work : Exchange (Except CommandError LoadSummary)) (groups : List (List Json)) : Prop where
  performs : client.log work = client.log (performEach (groups.map options.batchFor))
  after : (client.run work).2 = (client.run (performEach (groups.map options.batchFor))).2
  called : (client.log work).map Dispatch.call =
    groups.map fun group => (options.batchFor group).call
  spelled : (client.log work).map (fun dispatch => Operation.ofBody? dispatch.call.body) =
    groups.map fun group => some (group.map options.operation)

/-- Work that performs the batches of groups and then only draws a conclusion sends these groups. -/
theorem sends_of_eq {groups : List (List Json)} (filled : ∀ group ∈ groups, group ≠ [])
    {conclude : List Nat → Except CommandError LoadSummary}
    {work : Exchange (Except CommandError LoadSummary)}
    (same : work = performEach (groups.map options.batchFor) >>= fun counts =>
      .done (conclude counts)) (client : Client) : Sends options client work groups := by
  have performs : client.log work = client.log (performEach (groups.map options.batchFor)) := by
    rw [same, Client.log_bind]
    exact List.append_nil _
  have called : (client.log work).map Dispatch.call =
      groups.map fun group => (options.batchFor group).call := by
    rw [performs, (performEach_sent (options.batchFor_ne_nil filled) client).1, List.map_map]
    rfl
  refine { performs, called, after := ?_, spelled := ?_ }
  · rw [same, Client.run_bind]
    rfl
  · have spelled : ∀ group : List Json,
        Operation.ofBody? (options.batchFor group).body = some (group.map options.operation) := by
      intro group
      apply Batch.ofBody?_body
      intro operation member
      obtain ⟨document, _, rfl⟩ := List.mem_map.mp member
      exact options.operation_sound document
    calc (client.log work).map (fun dispatch => Operation.ofBody? dispatch.call.body)
        = ((client.log work).map Dispatch.call).map (fun call => Operation.ofBody? call.body) := by
          rw [List.map_map]
          rfl
      _ = groups.map fun group => Operation.ofBody? (options.batchFor group).body := by
          rw [called, List.map_map]
          rfl
      _ = groups.map fun group => some (group.map options.operation) :=
          List.map_congr_left fun group _ => spelled group

/-- Replies that do not report more failures than operations were sent add up to no more than the
documents of all groups. -/
theorem sum_failuresOf_le {groups : List (List Json)} {log : List Dispatch}
    (spelled : log.map (fun dispatch => Operation.ofBody? dispatch.call.body) =
      groups.map fun group => some (group.map options.operation))
    (right : ∀ dispatch ∈ log, ∀ operations,
      Operation.ofBody? dispatch.call.body = some operations →
        ¬ Overcounts operations.length dispatch.reply) :
    (List.zipWith (fun batch dispatch => failuresOf batch.size dispatch.reply)
      (groups.map options.batchFor) log).sum ≤ groups.flatten.length := by
  induction groups generalizing log with
  | nil => exact Nat.le_refl 0
  | cons group groups ih =>
      cases log with
      | nil => cases spelled
      | cons dispatch log =>
          obtain ⟨first, others⟩ := List.cons.inj spelled
          obtain ⟨rightFirst, rightOthers⟩ := List.forall_mem_cons.mp right
          have size : (options.batchFor group).size = group.length := List.length_map _
          have bounded : failuresOf group.length dispatch.reply ≤ group.length := by
            rw [failuresOf_le_iff, ← List.length_map options.operation]
            exact rightFirst _ first
          have rest := ih others rightOthers
          rw [List.map_cons, List.zipWith_cons_cons, List.sum_cons, size, List.flatten_cons,
            List.length_append]
          omega

/-- Lines are all sound, or there is a first one that is not. -/
theorem sound_or_broken (lines : List String) :
    (∀ line ∈ lines, IsSound line) ∨
      ∃ before line behind, lines = before ++ line :: behind ∧
        (∀ line ∈ before, IsSound line) ∧ ¬ IsSound line := by
  induction lines with
  | nil => exact .inl (List.forall_mem_nil _)
  | cons line lines ih =>
      by_cases sound : IsSound line
      · rcases ih with all | ⟨before, broken, behind, rfl, first, unsound⟩
        · exact .inl (List.forall_mem_cons.mpr ⟨sound, all⟩)
        · exact .inr ⟨line :: before, broken, behind, rfl,
            List.forall_mem_cons.mpr ⟨sound, first⟩, unsound⟩
      · exact .inr ⟨[], line, lines, rfl, List.forall_mem_nil _, sound⟩

/-- No more documents are said to have failed than were sent, unless a reply reports more failures
than operations were sent for it. -/
theorem load_failed_le {client : Client} {text : String} (usable : options.Usable)
    {summary : LoadSummary}
    (loaded : (client.run (load options (some (Line.ofFile text.toUTF8)))).1 = .ok summary)
    (right : ∀ dispatch ∈ client.log (load options (some (Line.ofFile text.toUTF8))),
      ∀ operations, Operation.ofBody? dispatch.call.body = some operations →
        ¬ Overcounts operations.length dispatch.reply) :
    summary.failed ≤ summary.documents := by
  rw [Line.ofFile_toUTF8] at loaded right
  rcases sound_or_broken (Line.ofText text) with
    sound | ⟨before, line, behind, split, sound, broken⟩
  · obtain ⟨full, left, grouped, same⟩ := load_sound usable sound
    have sends := sends_of_eq (grouped.rounded_ne_nil usable.positive) same client
    have filled := options.batchFor_ne_nil (grouped.rounded_ne_nil usable.positive)
    have counts := (performEach_sent filled client).2
    rw [same, Client.run_bind, Client.run_done] at loaded
    cases loaded
    rw [sends.performs] at right
    have spelled := sends.spelled
    rw [sends.performs] at spelled
    have bounded := sum_failuresOf_le spelled right
    rw [← counts] at bounded
    simpa only [LoadOptions.tally, Nat.zero_add] using bounded
  · obtain ⟨full, left, grouped, same⟩ := load_broken usable sound broken behind
    rw [split, same, Client.run_bind, Client.run_done] at loaded
    cases loaded

/-- What a load of lines does on a client. Without a line that is neither blank nor a document, all
documents are sent, and otherwise those that make full groups before that line. -/
structure Loaded (options : LoadOptions) (client : Client) (lines : List String)
    (work : Exchange (Except CommandError LoadSummary)) : Prop where
  whole : (∀ line ∈ lines, IsSound line) →
    ∃ groups, Sends options client work groups ∧
      groups.flatten = documentsOn lines ∧
      groups.length = ((documentsOn lines).length + options.batchSize - 1) / options.batchSize ∧
      (∀ group ∈ groups.dropLast, group.length = options.batchSize) ∧
      (∀ group ∈ groups.getLast?, 1 ≤ group.length ∧ group.length ≤ options.batchSize) ∧
      (client.run work).1 = .ok
        { documents := (documentsOn lines).length
          failed := (client.run (performEach (groups.map options.batchFor))).1.sum
          batches := groups.length
          bytes := LoadOptions.bytes (documentsOn lines) }
  broken : ∀ before line behind, lines = before ++ line :: behind →
    (∀ line ∈ before, IsSound line) → ¬ IsSound line →
    ∃ groups, Sends options client work groups ∧
      groups.flatten = (documentsOn before).take
        ((documentsOn before).length / options.batchSize * options.batchSize) ∧
      groups.length = (documentsOn before).length / options.batchSize ∧
      (∀ group ∈ groups, group.length = options.batchSize) ∧
      ∃ error, (client.run work).1 = .error error ∧
        error = .invalidLine (before.length + 1) line ∧
        error.message = "Failed to parse JSON on line " ++ toString (before.length + 1) ++ ": " ++
          CommandError.preview line

/-- What a load does that ends the program: it sends nothing and leaves the client as it was. -/
structure Overflows (client : Client) (work : Exchange (Except CommandError LoadSummary)) :
    Prop where
  ended : (client.run work).1 = .error .overflow
  unsent : client.log work = []
  unchanged : (client.run work).2 = client

/-- **No document is lost, sent twice or out of order**, if batches of the size can be made: a load
cuts the documents on its lines into groups of that size and sends each group in one batch, whatever
the cluster does. With a larger size the program ends, whatever the input is. -/
theorem load_groups (client : Client) (options : LoadOptions) (named : options.index ≠ "")
    (positive : 1 ≤ options.batchSize) :
    (options.batchSize ≤ Batch.maxSize → ∀ text : String,
        Loaded options client (Line.ofText text)
          (load options (some (Line.ofFile text.toUTF8)))) ∧
      (Batch.maxSize < options.batchSize → ∀ input, Overflows client (load options input)) := by
  constructor
  · intro fits text
    have usable : options.Usable := ⟨named, positive, fits⟩
    rw [Line.ofFile_toUTF8]
    constructor
    · intro sound
      obtain ⟨full, left, grouped, same⟩ := load_sound usable sound
      obtain ⟨smaller, last⟩ := grouped.rounded_length positive
      refine ⟨Grouped.rounded full left,
        sends_of_eq (grouped.rounded_ne_nil positive) same client, grouped.flatten_rounded,
        grouped.count_rounded, smaller, last, ?_⟩
      rw [same, Client.run_bind, Client.run_done, LoadOptions.tally, grouped.flatten_rounded]
      simp only [Nat.zero_add]
    · intro before line behind split sound broken
      obtain ⟨full, left, grouped, same⟩ := load_broken usable sound broken behind
      rw [split]
      refine ⟨full, sends_of_eq (grouped.full_ne_nil positive) same client,
        grouped.flatten_full, grouped.count, grouped.full_length, _, ?_, rfl, rfl⟩
      rw [same, Client.run_bind, Client.run_done]
  · intro oversized input
    rw [load_oversized named oversized]
    exact ⟨rfl, rfl, rfl⟩

/-- A load in batches of two that stops at the fifth line, behind a blank one and three documents,
the last of which waits for another; and one in batches of the greatest size that a word can
hold. -/
theorem load_groups_stopped :
    ("idx" ≠ "" ∧ 1 ≤ 2 ∧ 2 ≤ Batch.maxSize) ∧
      (∀ line ∈ ["\x7b\"id\": 1\x7d", "", "[2]", "3"], IsSound line) ∧ ¬ IsSound "x" ∧
      Line.ofText "\x7b\"id\": 1\x7d\r\n\n[2]\n3\nx\n4" =
        ["\x7b\"id\": 1\x7d", "", "[2]", "3"] ++ "x" :: ["4"] ∧
      Loaded ⟨"idx", "_doc", 2, some "id", false⟩ (Client.oneNode [.failure])
        (Line.ofText "\x7b\"id\": 1\x7d\r\n\n[2]\n3\nx\n4")
        (load ⟨"idx", "_doc", 2, some "id", false⟩
          (some (Line.ofFile "\x7b\"id\": 1\x7d\r\n\n[2]\n3\nx\n4".toUTF8))) ∧
      Batch.maxSize < 18446744073709551615 ∧
      Overflows (Client.oneNode [.failure])
        (load ⟨"idx", "_doc", 18446744073709551615, none, false⟩ (some [some "\x7b\x7d"])) :=
  ⟨by decide, by decide, by decide, by decide,
    (load_groups _ ⟨"idx", "_doc", 2, some "id", false⟩ (by decide) (by decide)).1 (by decide) _,
    by decide,
    (load_groups _ ⟨"idx", "_doc", 18446744073709551615, none, false⟩ (by decide)
      (by decide)).2 (by decide) _⟩

/-- **Too large a batch loses everything.** No batch needs room for more documents than there are,
and yet a load of one document, in batches of the greatest size that a word can hold, sends
nothing. -/
theorem load_overflows :
    ¬ ∀ (client : Client) (options : LoadOptions) (text : String), options.index ≠ "" →
      1 ≤ options.batchSize →
        Loaded options client (Line.ofText text)
          (load options (some (Line.ofFile text.toUTF8))) := by
  intro all
  have loaded := all (Client.oneNode [.failure])
    ⟨"idx", "_doc", 18446744073709551615, none, false⟩ "\x7b\x7d" (by decide) (by decide)
  obtain ⟨groups, _, _, _, _, _, ended⟩ := loaded.whole (by decide)
  rw [load_oversized (by decide) (by decide)] at ended
  cases ended

end Load

end ClusterClient.Command
