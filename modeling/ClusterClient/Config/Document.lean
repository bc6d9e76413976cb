import ClusterClient.Config.Basic
import ClusterClient.Disk
import ClusterClient.Toml.Reader

/-!
# Configuration files

A configuration written as a TOML document: `hosts` is required, every other key has a default, and
keys that are not known are passed over. `Config.load` reads one from a file.
-/

namespace ClusterClient.Config

/-- The value of a key, decoded if it is there. -/
def decoded? {α : Type} (decode : TomlValue → Option α) (key : String)
    (entries : List (String × TomlValue)) : Option (Option α) :=
  match entries.find? fun entry => entry.1 == key with
  | none => some none
  | some entry => (decode entry.2).map some

/-- A text. -/
def text? : TomlValue → Option String
  | .text value => some value
  | _ => none

/-- A truth value. -/
def flag? : TomlValue → Option Bool
  | .bool value => some value
  | _ => none

/-- A whole number that is not negative. -/
def count? : TomlValue → Option Nat
  | .whole (.ofNat value) => some value
  | _ => none

/-- A list of texts. -/
def texts? : TomlValue → Option (List String)
  | .array items => items.mapM text?
  | _ => none

/-- The key under which a moment stands where a table is expected. -/
def momentKey : String := "$__toml_private_datetime"

/-- A table of texts. -/
def textTable? : TomlValue → Option (Keyed String)
  | .table entries => do
    let texts ← entries.mapM fun entry => (text? entry.2).map fun value => (entry.1, value)
    return Keyed.ofList texts
  | .moment value => some [(momentKey, value)]
  | _ => none

/-- The part on identities: a table, or its values in order. A moment has none of the keys. -/
def tls? : TomlValue → Option Tls
  | .table entries => do
    let verifyHost ← decoded? flag? "verify_host" entries
    let verifyPeer ← decoded? flag? "verify_peer" entries
    return {
      verifyHost := verifyHost.getD true
      verifyPeer := verifyPeer.getD true
      authorities := ← decoded? text? "ca_cert_path" entries
      certificate := ← decoded? text? "cert_path" entries
      key := ← decoded? text? "key_path" entries
      passphrase := ← decoded? text? "key_passphrase" entries }
  | .array (verifyHost :: verifyPeer :: authorities :: certificate :: key :: passphrase :: _) => do
    return {
      verifyHost := ← flag? verifyHost
      verifyPeer := ← flag? verifyPeer
      authorities := some (← text? authorities)
      certificate := some (← text? certificate)
      key := some (← text? key)
      passphrase := some (← text? passphrase) }
  | .moment _ => some {}
  | _ => none

/-- The configuration that the entries of a document make up. -/
def ofEntries? (entries : List (String × TomlValue)) : Option Config := do
  let hosts ← (← decoded? texts? "hosts" entries)
  let requestTimeoutMs ← decoded? count? "request_timeout_ms" entries
  let connectTimeoutMs ← decoded? count? "connect_timeout_ms" entries
  let proxies ← decoded? textTable? "proxies" entries
  let tls ← decoded? tls? "tls" entries
  return {
    hosts
    requestTimeoutMs := requestTimeoutMs.getD 6000
    connectTimeoutMs
    proxies := proxies.getD []
    tls := tls.getD {} }

/-- The configuration that a document describes. -/
def ofToml (document : String) : Except ClientError Config :=
  match Toml.parse? document with
  | none => .error .invalidToml
  | some entries =>
    match ofEntries? entries with
    | none => .error .invalidToml
    | some config => .ok config

/-- The configuration in a file. -/
def load (disk : Disk) (path : String) : Except ClientError Config :=
  match disk.readText? path with
  | none => .error (.unreadableFile path)
  | some document => ofToml document

end ClusterClient.Config
