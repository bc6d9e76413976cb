import ClusterClient.Proofs.Command.Load

/-! # What a load fails with

A load fails for want of a batch size, an index, room for its batches or an input, or at a line that
cannot be read or is no JSON text. A document that was read is never the reason: its compact text
has no control character and so stands on one line, and a load does not delete, so each document
fits into the batch (`ClusterClient.Command.load_never_rejects`).
-/

namespace ClusterClient.Command

open Bulk

/-- What the lines of an input can make a load fail with. -/
inductive LineFailure : CommandError → Prop where
  | unread : LineFailure .unreadLine
  | invalid (number : Nat) (line : String) : LineFailure (.invalidLine number line)

/-- What a load can fail with. -/
inductive LoadFailure : CommandError → Prop where
  | unsized : LoadFailure .zeroBatchSize
  | unnamed : LoadFailure (.client .missingBulkIndex)
  | oversized : LoadFailure .overflow
  | unopened : LoadFailure .unopenedInput
  | line {error : CommandError} (failure : LineFailure error) : LoadFailure error

theorem LoadFailure.ne_rejected {error : CommandError} (failure : LoadFailure error) (number : Nat)
    (cause : ClientError) : error ≠ .rejectedDocument number cause := by
  rintro rfl
  cases failure with
  | line failure => cases failure

section Lines

variable {options : LoadOptions}

/-- By induction on the lines: a line with a document puts it into the batch, whatever else is in
it, and the load goes on. -/
theorem lineFailure_of_loadLines {lines : List (Option String)} {number : Nat} {loading : Loading}
    {client : Client} {error : CommandError}
    (failed : (client.run (loadLines options number loading lines)).1 = .error error) :
    LineFailure error := by
  induction lines generalizing number loading client with
  | nil => cases failed
  | cons line rest ih =>
      cases line with
      | none =>
          cases failed
          exact .unread
      | some line =>
          by_cases blank : isBlankText line = true
          · rw [loadLines_blank blank] at failed
            exact ih failed
          · cases parsed : Json.parse? line with
            | none =>
                rw [loadLines, if_neg blank, parsed] at failed
                cases failed
                exact .invalid number line
            | some document =>
                rw [loadLines, if_neg blank, parsed] at failed
                simp only [LoadOptions.add_document, Client.run_bind] at failed
                exact ih failed

end Lines

/-- The checks of a load come in the order of its failures, and its lines are read behind all of
them. -/
theorem loadFailure_of_load {options : LoadOptions} {input : Option (List (Option String))}
    {client : Client} {error : CommandError}
    (failed : (client.run (load options input)).1 = .error error) : LoadFailure error := by
  unfold load at failed
  by_cases unsized : options.batchSize = 0
  · rw [if_pos unsized] at failed
    cases failed
    exact .unsized
  · rw [if_neg unsized] at failed
    cases made : Batch.create options.index options.batchSize with
    | error unmade =>
        rw [made] at failed
        cases unmade with
        | refused cause =>
            obtain ⟨_, rfl⟩ := Batch.create_eq_refused_iff.mp made
            cases failed
            exact .unnamed
        | overflow =>
            cases failed
            exact .oversized
    | ok batch =>
        rw [made] at failed
        cases input with
        | none =>
            cases failed
            exact .unopened
        | some lines =>
            simp only [Client.run_bind] at failed
            cases read : (client.run (loadLines options 1 _ lines)).1 with
            | error cause =>
                rw [read] at failed
                cases failed
                exact .line (lineFailure_of_loadLines read)
            | ok loading =>
                rw [read] at failed
                simp only [Client.run_bind] at failed
                cases failed

/-- What holds of a document on its way into a batch. -/
structure Accepted (document : Json) : Prop where
  visible : ∀ c ∈ document.compact.toList, 32 ≤ c.toNat
  whole : '\n' ∉ document.compact.toList ∧ '\r' ∉ document.compact.toList
  added : ∀ (batch : Batch) (action : Action) (docType id : String), action ≠ .delete →
    batch.add action docType id document.compact =
      .ok (batch.push ⟨action, docType, id, some document.compact⟩)
  loaded : ∀ (options : LoadOptions) (loading : Loading),
    loading.add options (documentId document options.idField) document.compact =
      .ok { loading with
        batch := loading.batch.push (options.operation document)
        pendingBytes := loading.pendingBytes + document.compact.utf8ByteSize }

/-- **No document is rejected.** The text of every document has no control character and fits into
every batch under every action that takes a document, and whatever the options, the input and the
cluster are, a load does not fail at a document. -/
theorem load_never_rejects :
    (∀ document : Json, Accepted document) ∧
      ∀ (client : Client) (options : LoadOptions) (input : Option (List (Option String)))
        (number : Nat) (cause : ClientError),
        (client.run (load options input)).1 ≠ .error (.rejectedDocument number cause) := by
  constructor
  · intro document
    have visible := Json.printable_compact document
    exact
      { visible
        whole := visible.no_break
        added := fun batch action docType id keeps => batch.add_compact keeps docType id document
        loaded := fun options loading => options.add_document loading document }
  · intro client options input number cause failed
    exact (loadFailure_of_load failed).ne_rejected number cause rfl

end ClusterClient.Command
