import ClusterClient.Config.Basic
import ClusterClient.Disk
import ClusterClient.Identity

/-!
# Checks of the settings

Before a transport is made, its settings are checked in a fixed order: the proxies, the file of
authorities, the identity of the client, and last what the files hold. `Config.check` gives the
first fault that it finds.
-/

namespace ClusterClient.Config

/-- Whether a text names a proxy: a URL with a host, whose scheme may be left out. -/
def isProxy (text : String) : Bool :=
  match Url.parse text with
  | .ok url => url.hasHost || withScheme
  | .error .relative => withScheme
  | .error _ => false
where
  /-- Whether the text names a proxy behind a scheme. -/
  withScheme : Bool :=
    match Url.parse ("http://" ++ text) with
    | .ok url => url.hasHost
    | .error _ => false

/-- Checks the proxy for a kind of traffic. -/
def checkProxy (traffic proxy : String) : Except ClientError Unit :=
  if traffic = "http" ∨ traffic = "https" ∨ traffic = "all" then
    if isProxy proxy then .ok () else .error (.unusableTransport proxy)
  else .error (.unknownProxyTraffic traffic)

/-- The content of a file that must be there. -/
def readFile (disk : Disk) (path : String) : Except ClientError (List UInt8) :=
  match disk.read? path with
  | none => .error (.unreadableFile path)
  | some content => .ok content.data.toList

/-- Checks that certificate and key are set together, need no passphrase and identify a client, and
gives the identity that their files make up together. -/
def checkIdentity (disk : Disk) (tls : Tls) : Except ClientError (Option Identity) :=
  match tls.certificate, tls.key with
  | none, none => .ok none
  | some certificate, some key =>
    if tls.passphrase.isSome then .error .encryptedKey
    else do
      let chain ← readFile disk certificate
      let secret ← readFile disk key
      match Identity.ofFile? (chain ++ 10 :: secret) with
      | some identity => return some identity
      | none => throw (.invalidIdentity certificate key)
  | _, _ => .error .unpairedIdentity

/-- Whether a file keeps to the form and each certificate in it can be trusted. -/
def areAuthorities (content : List UInt8) : Bool :=
  match Pem.ofFile? content with
  | none => false
  | some sections =>
    sections.all fun entry => entry.1 != .certificate || Certificate.isAnchor entry.2

/-- Checks the settings of a transport. -/
def check (disk : Disk) (config : Config) : Except ClientError Unit := do
  config.proxies.forM fun entry => checkProxy entry.1 entry.2
  let authorities ← config.tls.authorities.mapM (readFile disk)
  let identity ← checkIdentity disk config.tls
  if !authorities.all areAuthorities then
    throw (.unusableTransport (config.tls.authorities.getD ""))
  if !identity.all Identity.isUsable then
    throw (.unusableTransport (config.tls.certificate.getD ""))

end ClusterClient.Config
