import ClusterClient.Config.Check
import ClusterClient.Json.Reader

/-!
# The transport to the nodes

A `Transport` executes requests one at a time and keeps the list of those it has executed. What
comes of each request is given beforehand: the outcomes that are planned, in order, and one that
stands for all the requests behind them. Unless it takes any settings, a transport checks the
settings it is given and keeps those that it has before if they do not pass.

Outcomes can be written down in a transcript, one JSON object a line: the `status` and the `body` of
a response, or a member `fail` if there was none. `Transcript.outcomes?` reads it.
-/

namespace ClusterClient

/-- A transport with the outcomes to come. -/
structure Transport where
  /-- The outcomes of the next requests. -/
  planned : List Outcome
  /-- The outcome of every request behind the planned ones. -/
  standing : Outcome := .failure
  /-- The requests so far. -/
  executed : List Request := []
  /-- The files that settings are checked against; without them any settings will do. -/
  files : Option Disk := none
  /-- The settings in use. -/
  active : Config := { hosts := [] }
  /-- How often settings have been checked. -/
  checks : Nat := 0

namespace Transport

/-- What comes of a request, and the transport behind it. -/
def execute (t : Transport) (request : Request) : Outcome × Transport :=
  match t.planned with
  | [] => (t.standing, { t with executed := t.executed ++ [request] })
  | outcome :: planned => (outcome, { t with planned, executed := t.executed ++ [request] })

/-- Takes new settings, if they pass the checks. -/
def configure (t : Transport) (config : Config) : Except ClientError Unit × Transport :=
  match t.files with
  | none => (.ok (), { t with active := config })
  | some disk =>
    match config.check disk with
    | .ok () => (.ok (), { t with active := config, checks := t.checks + 1 })
    | .error error => (.error error, { t with checks := t.checks + 1 })

end Transport

namespace Transcript

/-- What came of a request. -/
def outcome (entry : Json) : Outcome :=
  match entry.get? "fail", (entry.get? "status").bind Json.natural? with
  | none, some status =>
    .answer { status, body := ((entry.get? "body").bind Json.text?).getD "" }
  | _, _ => .failure

/-- What came of the requests, in order. -/
def outcomes? (text : String) : Option (List Outcome) :=
  ((text.splitOn "\n").filter fun line => !line.isEmpty).mapM fun line =>
    (Json.parse? line).map outcome

end Transcript
end ClusterClient
