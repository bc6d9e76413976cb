import ClusterClient.Bulk.Indexer
import ClusterClient.Command.CommandError
import ClusterClient.Text.Basic

/-!
# Loading documents in batches

Each line of the input that is not blank is a document. Documents are sent in batches of the given
size, the last of which may be smaller. A line that is no JSON text ends the load; the batches
before it have been sent by then. Batches that are too large to be made end the program before the
input is opened.
-/

namespace ClusterClient.Command

/-- What to load and how. -/
structure LoadOptions where
  index : String
  docType : String
  batchSize : Nat
  /-- The field of a document that holds its id. -/
  idField : Option String
  /-- Whether documents that exist are left alone. -/
  create : Bool
  deriving DecidableEq, Repr

/-- What operation a document becomes. -/
def LoadOptions.action (options : LoadOptions) : Bulk.Action :=
  if options.create then .create else .index

/-- What was sent so far. -/
structure LoadSummary where
  documents : Nat := 0
  failed : Nat := 0
  batches : Nat := 0
  bytes : Nat := 0
  deriving DecidableEq, Repr, Inhabited

namespace LoadSummary

/-- The summary with one batch more. -/
def add (summary : LoadSummary) (documents failed bytes : Nat) : LoadSummary where
  documents := summary.documents + documents
  failed := summary.failed + failed
  batches := summary.batches + 1
  bytes := summary.bytes + bytes

/-- The number of bytes in millions, with two places. -/
def megabytes (summary : LoadSummary) : String :=
  match (Double.ofNat summary.bytes).div? (Double.ofNat 1000000) with
  | none => ""
  | some size => String.ofList (size.fixedText 2)

/-- The summary in words. -/
def text (summary : LoadSummary) : String :=
  "Bulk load completed:\n"
    ++ "  Documents: " ++ toString summary.documents ++ "\n"
    ++ "  Failed:    " ++ toString summary.failed ++ "\n"
    ++ "  Batches:   " ++ toString summary.batches ++ "\n"
    ++ "  Bytes:     " ++ summary.megabytes ++ " MB\n"

end LoadSummary

/-- A load under way: the batch that is being filled with the size of its documents, and what was
sent. -/
structure Loading where
  batch : Bulk.Batch
  pendingBytes : Nat := 0
  summary : LoadSummary := {}
  deriving DecidableEq, Repr

namespace Loading

/-- Sends the batch. -/
def flush (loading : Loading) : Exchange Loading := do
  let failed ← loading.batch.perform
  return {
    batch := loading.batch.clear
    pendingBytes := 0
    summary := loading.summary.add loading.batch.size failed loading.pendingBytes }

/-- Sends the batch if it is full. -/
def flushIfFull (loading : Loading) : Exchange Loading :=
  if loading.batch.isFull then loading.flush else .done loading

/-- Sends the batch if there is anything in it. -/
def flushRest (loading : Loading) : Exchange Loading :=
  if loading.batch.isEmpty then .done loading else loading.flush

/-- Puts a document into the batch. -/
def add (loading : Loading) (options : LoadOptions) (id document : String) :
    Except ClientError Loading := do
  let batch ← loading.batch.add options.action options.docType id document
  return { loading with batch, pendingBytes := loading.pendingBytes + document.utf8ByteSize }

end Loading

/-- The id of a document: the text or number in a field, and empty if there is none. -/
def documentId (document : Json) (field : Option String) : String :=
  match field.bind fun name => document.get? name with
  | some (.text id) => id
  | some (.number id) => String.ofList (Json.numberText id)
  | _ => ""

/-- Loads the remaining lines, the first of which has the given number. -/
def loadLines (options : LoadOptions) :
    Nat → Loading → List (Option String) → Exchange (Except CommandError Loading)
  | _, loading, [] => .done (.ok loading)
  | _, _, none :: _ => .done (.error .unreadLine)
  | number, loading, some line :: rest =>
    if isBlankText line then loadLines options (number + 1) loading rest
    else
      match Json.parse? line with
      | none => .done (.error (.invalidLine number line))
      | some document =>
        match loading.add options (documentId document options.idField) document.compact with
        | .error cause => .done (.error (.rejectedDocument number cause))
        | .ok loading => do
          let loading ← loading.flushIfFull
          loadLines options (number + 1) loading rest

/-- What a load fails with if its batch is not made. -/
def ofUnmade : Bulk.Batch.Unmade → CommandError
  | .refused error => .client error
  | .overflow => .overflow

/-- Loads lines into an index, which must have a name, in batches of at least one document. There
may be no input to read them from. -/
def load (options : LoadOptions) (input : Option (List (Option String))) :
    Exchange (Except CommandError LoadSummary) :=
  if options.batchSize = 0 then .done (.error .zeroBatchSize)
  else
    match Bulk.Batch.create options.index options.batchSize with
    | .error unmade => .done (.error (ofUnmade unmade))
    | .ok batch =>
      match input with
      | none => .done (.error .unopenedInput)
      | some lines => do
        match ← loadLines options 1 { batch } lines with
        | .error error => return .error error
        | .ok loading =>
          let loading ← loading.flushRest
          return .ok loading.summary

/-- Fails if documents were not indexed. -/
def ensureAllIndexed (failed : Nat) : Except CommandError Unit :=
  if failed = 0 then .ok () else .error (.notIndexed failed)

end ClusterClient.Command
