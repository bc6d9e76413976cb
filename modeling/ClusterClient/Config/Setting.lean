import ClusterClient.Config.Basic

/-!
# Settings

A `Setting` changes one part of a configuration. Settings do not add up: of two of the same kind the
later one decides alone.
-/

namespace ClusterClient

/-- A change of one part of a configuration. -/
inductive Setting where
  | timeout (limit : Duration)
  | connectTimeout (limit : Duration)
  | proxies (table : Keyed String)
  | verifyHost (verify : Bool)
  | verifyPeer (verify : Bool)
  | authorities (path : String)
  | certificate (path : String)
  /-- The key of the client, with the passphrase for it, if it needs one. -/
  | key (path : String) (passphrase : Option String)
  deriving DecidableEq, Repr

namespace Config

/-- The configuration with one setting changed. -/
def set (config : Config) : Setting → Config
  | .timeout limit => { config with requestTimeoutMs := limit.milliseconds }
  | .connectTimeout limit => { config with connectTimeoutMs := some limit.milliseconds }
  | .proxies table => { config with proxies := table }
  | .verifyHost verify => { config with tls := { config.tls with verifyHost := verify } }
  | .verifyPeer verify => { config with tls := { config.tls with verifyPeer := verify } }
  | .authorities path => { config with tls := { config.tls with authorities := some path } }
  | .certificate path => { config with tls := { config.tls with certificate := some path } }
  | .key path passphrase => { config with tls := { config.tls with key := some path, passphrase } }

/-- The configuration with settings changed one after the other. -/
def setAll (config : Config) (settings : List Setting) : Config := settings.foldl set config

end Config
end ClusterClient
