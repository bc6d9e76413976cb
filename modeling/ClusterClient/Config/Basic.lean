import ClusterClient.ClientError
import ClusterClient.Json.Basic
import ClusterClient.Number.Power

/-!
# Configuration of a client

A `Config` lists the nodes of a cluster and the settings of the transport to them.
`Config.nodes` is the list of nodes as requests use it: each node is an absolute URL that other URLs
can be resolved against, with a slash at its end.
-/

namespace ClusterClient

/-- A span of time. -/
structure Duration where
  seconds : Nat
  nanoseconds : Nat
  deriving DecidableEq, Repr

namespace Duration

/-- The span of the given number of milliseconds. -/
def ofMilliseconds (ms : Nat) : Duration := ⟨ms / 1000, ms % 1000 * 1000000⟩

/-- The greatest number of milliseconds that is kept. -/
def longest : Nat := twoTo 64 - 1

/-- The whole milliseconds of a span, as far as they can be kept. -/
def milliseconds (d : Duration) : Nat := min (d.seconds * 1000 + d.nanoseconds / 1000000) longest

end Duration

/-- How the nodes and the client prove who they are. -/
structure Tls where
  verifyHost : Bool := true
  verifyPeer : Bool := true
  authorities : Option String := none
  certificate : Option String := none
  key : Option String := none
  passphrase : Option String := none
  deriving DecidableEq, Repr, Inhabited

/-- The nodes of a cluster and the settings of the transport to them. -/
structure Config where
  hosts : List String
  requestTimeoutMs : Nat := 6000
  connectTimeoutMs : Option Nat := none
  /-- The proxy for each kind of traffic. -/
  proxies : Keyed String := []
  tls : Tls := {}
  deriving DecidableEq, Repr, Inhabited

namespace Config

/-- How long a request may take. -/
def requestTimeout (config : Config) : Duration := .ofMilliseconds config.requestTimeoutMs

/-- How long making a connection may take, if there is a limit. -/
def connectTimeout (config : Config) : Option Duration :=
  config.connectTimeoutMs.map Duration.ofMilliseconds

/-- The text of a node with a slash at its end. -/
def closed (host : String) : String :=
  if host.toList.getLast? = some '/' then host else host ++ "/"

/-- A node as requests use it. -/
def node (host : String) : Except ClientError String :=
  match Url.parse host with
  | .error fault => .error (.invalidHost host fault)
  | .ok url => if url.canBeBase then .ok (closed host) else .error (.hostNotBase host)

/-- The files that the settings name. -/
def files (config : Config) : List String :=
  [config.tls.authorities, config.tls.certificate, config.tls.key].filterMap id

/-- The nodes as requests use them; there must be one. -/
def nodes (config : Config) : Except ClientError (List String) :=
  if config.hosts.isEmpty then .error .noEndpoints else config.hosts.mapM node

end Config
end ClusterClient
