import ClusterClient.Config.Setting
import ClusterClient.Exchange
import ClusterClient.Rotation
import ClusterClient.Transport

/-!
# The client of a cluster

A `Client` sends each request to the current node and goes from node to node until one answers. A
node fails when no response arrives from it or when it is overloaded; every other response is the
answer. `Client.dispatch` makes one such round, in which no node is tried twice, and `Client.run`
carries out an exchange.
-/

namespace ClusterClient

/-- The client of a cluster. -/
structure Client where
  config : Config
  rotation : Rotation
  transport : Transport
  metrics : Registry := {}

namespace Client

/-- A client for the nodes of a configuration, whose settings the transport uses. -/
def create (config : Config) (draws : Draws) (transport : Transport) : Except ClientError Client :=
  match config.nodes with
  | .error error => .error error
  | .ok nodes =>
    match Rotation.start? nodes draws with
    | none => .error .noEndpoints
    | some rotation =>
      .ok { config, rotation, transport := { transport with active := config } }

/-- A client whose settings have passed the checks of a transport. -/
def connect (disk : Disk) (config : Config) (draws : Draws) (transport : Transport) :
    Except ClientError Client := do
  let client ← create config draws transport
  config.check disk
  return client

/-- The nodes as requests use them. -/
def hosts (client : Client) : List String := client.rotation.endpoints

/-- The node that the next request goes to. -/
def currentHost (client : Client) : String := client.rotation.host

/-- The client after an event was counted. -/
def record (event : Event) (client : Client) : Client :=
  { client with metrics := client.metrics.record event }

/-- The events that the outcome of a request to a node stands for. -/
def outcomeEvents (method : Method) (host : String) : Outcome → List Event
  | .answer response =>
    .response method.name response.status ::
      if response.status = Outcome.unavailableStatus then [.hostFailure host] else []
  | .failure => [.hostFailure host]

/-- Sends a request to the current node. -/
def attempt (call : Call) (client : Client) : Option Response × Client :=
  let host := client.currentHost
  let request := Request.of call.method (host ++ call.path) call.body
  let (outcome, transport) := client.transport.execute request
  let metrics := (outcomeEvents call.method host outcome).foldl Registry.record client.metrics
  (outcome.accepted?, { client with transport, metrics })

/-- Tries at most the given number of nodes, from the current one on. -/
def round (call : Call) : Nat → Client → Reply × Client
  | 0, client => (.error (.unavailable call.method call.path), client)
  | left + 1, client =>
    match client.attempt call with
    | (some response, client) =>
      (.ok response, { client with rotation := client.rotation.settle })
    | (none, client) =>
      match client.rotation.advance with
      | (.retry, rotation) => round call left { client with rotation }
      | (.exhausted, rotation) =>
        (.error (.unavailable call.method call.path),
          { client with rotation }.record .clusterUnavailable)

/-- Sends a request to one node after the other until one answers or all have failed. -/
def dispatch (call : Call) (client : Client) : Reply × Client :=
  round call client.rotation.remaining client

/-- Carries out an exchange. -/
def run {α : Type} : Exchange α → Client → α × Client
  | .done value, client => (value, client)
  | .send call next, client =>
    match client.dispatch call with
    | (reply, client) => run (next reply) client
  | .note event next, client => run next (client.record event)

/-- Changes a setting, if the transport takes the new configuration. -/
def set (setting : Setting) (client : Client) : Except ClientError Unit × Client :=
  let config := client.config.set setting
  match client.transport.configure config with
  | (.ok (), transport) => (.ok (), { client with config, transport })
  | (.error error, transport) => (.error error, { client with transport })

@[simp] theorem run_done {α : Type} (value : α) (client : Client) :
    run (.done value) client = (value, client) := rfl

@[simp] theorem run_note {α : Type} (event : Event) (next : Exchange α) (client : Client) :
    run (.note event next) client = run next (client.record event) := rfl

/-- A call is dispatched, and the work goes on with the reply and the client behind it. -/
theorem run_send {α : Type} (call : Call) (next : Reply → Exchange α) (client : Client) :
    run (.send call next) client =
      run (next (client.dispatch call).1) (client.dispatch call).2 := rfl

/-- An exchange and what follows it are carried out one after the other. -/
theorem run_bind {α β : Type} (work : Exchange α) (next : α → Exchange β) (client : Client) :
    run (work >>= next) client = run (next (run work client).1) (run work client).2 := by
  induction work generalizing client with
  | done value => rfl
  | send call rest ih => simp only [Exchange.send_bind, run_send, ih]
  | note event rest ih => simp only [Exchange.note_bind, run_note, ih]

end Client
end ClusterClient
