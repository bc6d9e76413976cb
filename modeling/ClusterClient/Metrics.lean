import ClusterClient.Number.Power

/-!
# Metrics

The client counts what it does. An `Event` is one thing that is counted, a `Series` one of the
numbers that are kept, and a `Registry` holds them in the order in which they first occurred.
-/

namespace ClusterClient

/-- A number that is kept. -/
inductive Series where
  /-- Responses to requests of a method, by status. -/
  | requests (method : String) (status : Nat)
  /-- Samples of the time to a response, by method. -/
  | requestDuration (method : String)
  /-- Failures of a node. -/
  | hostFailures (host : String)
  /-- Requests for which no node answered. -/
  | clusterUnavailable
  /-- Operations sent in batches. -/
  | bulkItems
  /-- Operations of batches that failed. -/
  | bulkErrors
  /-- Pages of a variant of scrolling. -/
  | scrollPages (variant : String)
  deriving DecidableEq, Repr

namespace Series

/-- The name of a series. -/
def name : Series → String
  | .requests .. => "searchlink_requests_total"
  | .requestDuration _ => "searchlink_request_duration_seconds"
  | .hostFailures _ => "searchlink_host_failures_total"
  | .clusterUnavailable => "searchlink_cluster_unavailable_total"
  | .bulkItems => "searchlink_bulk_items_total"
  | .bulkErrors => "searchlink_bulk_errors_total"
  | .scrollPages _ => "searchlink_scroll_pages_total"

/-- The labels of a series, in order of their names. -/
def labels : Series → List (String × String)
  | .requests method status => [("method", method), ("status", toString status)]
  | .requestDuration method => [("method", method)]
  | .hostFailures host => [("host", host)]
  | .clusterUnavailable => []
  | .bulkItems => []
  | .bulkErrors => []
  | .scrollPages variant => [("variant", variant)]

/-- A series in words: its name and its labels in braces. -/
def text (series : Series) : String :=
  let labels := series.labels.map fun label => label.1 ++ "=" ++ label.2
  series.name ++ "\x7b" ++ String.intercalate "," labels ++ "\x7d"

end Series

/-- Something that is counted. -/
inductive Event where
  /-- A node responded. -/
  | response (method : String) (status : Nat)
  /-- A node gave no response or was overloaded. -/
  | hostFailure (host : String)
  /-- Every node failed. -/
  | clusterUnavailable
  /-- A batch was sent. -/
  | batch (items errors : Nat)
  /-- A page arrived. -/
  | page (variant : String)
  deriving DecidableEq, Repr

/-- What an event adds to each series. -/
def Event.amounts : Event → List (Series × Nat)
  | .response method status => [(.requests method status, 1), (.requestDuration method, 1)]
  | .hostFailure host => [(.hostFailures host, 1)]
  | .clusterUnavailable => [(.clusterUnavailable, 1)]
  | .batch items errors => [(.bulkItems, items), (.bulkErrors, errors)]
  | .page variant => [(.scrollPages variant, 1)]

/-- The numbers that are kept. A series is there once an event has mentioned it. -/
structure Registry where
  counts : List (Series × Nat) := []
  deriving DecidableEq, Repr, Inhabited

namespace Registry

/-- The number of a series; one that is not there counts nothing. -/
def count (registry : Registry) (series : Series) : Nat :=
  ((registry.counts.find? fun entry => entry.1 == series).map (·.2)).getD 0

/-- The entries with an amount added to a series. -/
def addTo (series : Series) (amount : Nat) : List (Series × Nat) → List (Series × Nat)
  | [] => [(series, amount)]
  | (other, held) :: rest =>
    if other = series then (other, held + amount) :: rest
    else (other, held) :: addTo series amount rest

/-- The registry with an amount added to a series. -/
def add (registry : Registry) (series : Series) (amount : Nat) : Registry :=
  ⟨addTo series amount registry.counts⟩

/-- The registry after an event. -/
def record (registry : Registry) (event : Event) : Registry :=
  event.amounts.foldl (fun held entry => held.add entry.1 entry.2) registry

/-- The texts of the series that are there, with their numbers. -/
def report (registry : Registry) : List (String × Nat) :=
  registry.counts.map fun entry => (entry.1.text, entry.2 % twoTo 64)

end Registry
end ClusterClient
