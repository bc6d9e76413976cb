import ClusterClient.Json.Printer
import ClusterClient.Json.Reader

/-!
# Pages of a scroll

A `Page` is a response that can be trusted: it reports no error, did not time out, no shard failed,
and it has hits and a cursor. `Page.ofText` checks this in a fixed order and gives the first reason
against a response.
-/

namespace ClusterClient.Scroll

/-- Why a response is no page. -/
inductive Rejection where
  /-- It is no JSON text. -/
  | malformed
  | notAnObject
  | errorReported
  | timedOut
  /-- It does not say how many shards failed. -/
  | missingShards
  | shardsFailed (count : Nat)
  | missingHits
  | missingCursor
  deriving DecidableEq, Repr

namespace Rejection

/-- A reason in words. -/
def message : Rejection → String
  | .malformed => "response is not valid JSON"
  | .notAnObject => "response is not a JSON object"
  | .errorReported => "response reports an error"
  | .timedOut => "request timed out"
  | .missingShards => "no information about failed shards"
  | .shardsFailed count => toString count ++ " shards failed"
  | .missingHits => "hits.hits array is missing"
  | .missingCursor => "_scroll_id is missing or empty"

end Rejection

/-- A response that can be trusted. -/
structure Page where
  document : Json
  hits : List Json
  cursor : String
  deriving Repr, Inhabited

namespace Page

/-- Whether a response reports an error: it has one that is neither null nor false. -/
def reportsError (root : Members) : Bool :=
  match Keyed.get? "error" root with
  | none => false
  | some .null => false
  | some (.bool false) => false
  | some _ => true

/-- Whether a response says that the request timed out: it says anything but false. -/
def saysTimedOut (root : Members) : Bool :=
  match Keyed.get? "timed_out" root with
  | none => false
  | some (.bool false) => false
  | some _ => true

/-- The number of failed shards. -/
def failedShards? (root : Members) : Option Double := do
  let shards ← Keyed.get? "_shards" root
  let failed ← shards.get? "failed"
  return (← failed.number?).toDouble

/-- The hits of a response. -/
def hits? (root : Members) : Option (List Json) := do
  let hits ← Keyed.get? "hits" root
  (← hits.get? "hits").items?

/-- The cursor of a response, which must not be empty. -/
def cursor? (root : Members) : Option String := do
  let cursor ← (← Keyed.get? "_scroll_id" root).text?
  if cursor.isEmpty then none else some cursor

/-- The page that a document is. -/
def ofDocument (document : Json) : Except Rejection Page :=
  match document.members? with
  | none => .error .notAnObject
  | some root =>
    if reportsError root then .error .errorReported
    else if saysTimedOut root then .error .timedOut
    else
      match failedShards? root with
      | none => .error .missingShards
      | some failed =>
        if failed.isPositive then .error (.shardsFailed failed.toUnsigned64)
        else
          match hits? root with
          | none => .error .missingHits
          | some hits =>
            match cursor? root with
            | none => .error .missingCursor
            | some cursor => .ok ⟨document, hits, cursor⟩

/-- The page that a response is. -/
def ofText (response : String) : Except Rejection Page :=
  match Json.parse? response with
  | none => .error .malformed
  | some document => ofDocument document

/-- The number of hits of the whole search, as a number or as an object with one. -/
def total? (page : Page) : Option Nat := do
  let hits ← page.document.get? "hits"
  let total ← hits.get? "total"
  total.natural? <|> (total.get? "value").bind Json.natural?

end Page
end ClusterClient.Scroll
