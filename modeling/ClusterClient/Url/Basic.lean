import ClusterClient.Url.Address
import ClusterClient.Url.Domain

/-!
# URLs

Which texts are absolute URLs, by the rules of the URL standard, and what a client asks of one: its
scheme, whether it has a host and whether relative paths can be resolved against it (`Url.parse`).
Blanks and control characters around the text and tabs and line breaks inside it are ignored. Only
the scheme, the host and the port can make a text no URL; a path, a query or a fragment never does.
-/

namespace ClusterClient

/-- What is known of an absolute URL. -/
structure Url where
  scheme : List Char
  hasHost : Bool
  canBeBase : Bool
  deriving DecidableEq, Repr

namespace Url

/-- Why a text is no absolute URL. -/
inductive Fault where
  | relative
  | emptyHost
  | port
  | ipv4
  | ipv6
  | domain
  | hostCharacter
  deriving DecidableEq, Repr

/-- The words for a fault. -/
def Fault.message : Fault → String
  | .relative => "relative URL without a base"
  | .emptyHost => "empty host"
  | .port => "invalid port number"
  | .ipv4 => "invalid IPv4 address"
  | .ipv6 => "invalid IPv6 address"
  | .domain => "invalid international domain name"
  | .hostCharacter => "invalid domain character"

/-- How the standard treats a scheme. -/
inductive Kind where
  /-- A scheme whose URLs always have a host. -/
  | network
  | file
  | general
  deriving DecidableEq

/-- The kind of a scheme. -/
def Kind.ofScheme (scheme : List Char) : Kind :=
  if scheme = "file".toList then .file
  else if ["http", "https", "ws", "wss", "ftp"].any (·.toList == scheme) then .network
  else .general

/-- The text that is parsed: without blanks and control characters at its ends, without tabs and
line breaks. -/
def significant (text : String) : List Char :=
  let isEdge (c : Char) : Bool := decide (c.toNat ≤ 0x20)
  let front := text.toList.dropWhile isEdge
  let trimmed := (front.reverse.dropWhile isEdge).reverse
  trimmed.filter fun c => c != '\t' && c != '\n' && c != '\r'

/-- The rest of a scheme and what follows its colon. -/
def schemeRest? : List Char → Option (List Char × List Char)
  | [] => none
  | c :: cs =>
    if c = ':' then some ([], cs)
    else if c.isAlphanum || c == '+' || c == '-' || c == '.' then
      (schemeRest? cs).map fun (scheme, rest) => (c.toLower :: scheme, rest)
    else none

/-- The scheme, in lower case, and what follows its colon. -/
def scheme? (cs : List Char) : Option (List Char × List Char) :=
  match cs with
  | c :: _ => if c.isAlpha then schemeRest? cs else none
  | [] => none

/-- Whether a character ends the part of a URL that names the host. -/
def endsAuthority (kind : Kind) (c : Char) : Bool :=
  c == '/' || c == '?' || c == '#' || (c == '\\' && kind != .general)

/-- Whether a text in brackets is an IPv6 address. -/
def checkBrackets (host : List Char) : Except Fault Unit :=
  if host.getLast? = some ']' ∧ Ipv6.isAddress (host.drop 1).dropLast then .ok () else .error .ipv6

/-- The name of a host of a network or file URL in the form in which names are compared, if it can
be one; an IPv4 address has none. -/
def checkHost (host : List Char) : Except Fault (Option (List Char)) :=
  if host.head? = some '[' then (checkBrackets host).map fun _ => none
  else
    match Domain.normal? host with
    | none => .error .domain
    | some [] => .error .emptyHost
    | some name =>
      if Ipv4.isClaimedBy name then
        if Ipv4.isAddress name then .ok none else .error .ipv4
      else .ok (some name)

/-- A character that no host may hold where names have no meaning of their own. -/
def isForbiddenInHost (c : Char) : Bool :=
  ['\x00', '\t', '\n', '\r', ' ', '#', '/', ':', '<', '>', '?', '@', '[', '\\', ']', '^',
    '|'].contains c

/-- Checks the host of a URL of a general scheme. -/
def checkPlainHost (host : List Char) : Except Fault Unit :=
  if host.head? = some '[' then checkBrackets host
  else if host.any isForbiddenInHost then .error .hostCharacter
  else .ok ()

/-- Checks the port behind a colon, which ends where a path, a query or a fragment starts. -/
def checkPort (value : Nat) : List Char → Except Fault Unit
  | [] => .ok ()
  | c :: cs =>
    if c.isDigit then
      let value := value * 10 + (c.toNat - 48)
      if value ≤ 65535 then checkPort value cs else .error .port
    else if c == '/' || c == '\\' || c == '?' || c == '#' then .ok ()
    else .error .port

/-- The host at the front and what follows it; a colon in brackets belongs to it. -/
def spanHost (kind : Kind) (bracketed : Bool) : List Char → List Char × List Char
  | [] => ([], [])
  | c :: cs =>
    if (c == ':' && !bracketed) || endsAuthority kind c then ([], c :: cs)
    else
      let bracketed := if c == '[' then true else if c == ']' then false else bracketed
      let (host, rest) := spanHost kind bracketed cs
      (c :: host, rest)

/-- What stands behind the user's name and password, and whether there is one of them. The last at
sign before the host ends them. -/
def userInfo (kind : Kind) (cs : List Char) : Except Fault (Bool × List Char) :=
  let authority := cs.takeWhile (!endsAuthority kind ·)
  if authority.contains '@' then
    let host := (authority.reverse.takeWhile (· != '@')).reverse
    let info := authority.take (authority.length - host.length - 1)
    let rest := cs.drop (info.length + 1)
    if info.isEmpty && host.isEmpty && !rest.isEmpty then .error .emptyHost
    else .ok (info.any (· != ':') || decide (1 < info.length), rest)
  else .ok (false, cs)

/-- Whether the URL has a host, from what follows the two slashes. -/
def checkAuthority (kind : Kind) (cs : List Char) : Except Fault Bool := do
  let (hasUser, cs) ← userInfo kind cs
  let (host, rest) := spanHost kind false cs
  if host.isEmpty && (kind == .network || rest.head? == some ':') then .error .emptyHost
  if kind = .network then
    let _ ← checkHost host
  else checkPlainHost host
  if rest.head? = some ':' then checkPort 0 (rest.drop 1)
  if host.isEmpty && hasUser then .error .emptyHost
  return !host.isEmpty

/-- Whether a text is a drive letter and a colon or bar. -/
def isDrive : List Char → Bool
  | [letter, mark] => letter.isAlpha && (mark == ':' || mark == '|')
  | _ => false

/-- Whether a file URL has a host, from what follows the colon of its scheme. -/
def checkFile (cs : List Char) : Except Fault Bool :=
  let isSlash (c : Char) : Bool := c == '/' || c == '\\'
  match cs with
  | first :: second :: rest =>
    if isSlash first && isSlash second then
      let host := rest.takeWhile (!endsAuthority .file ·)
      if host.isEmpty || isDrive host then .ok false
      else (checkHost host).map (· != some "localhost".toList)
    else .ok false
  | _ => .ok false

/-- The URL that the characters of a text make up, none of which is ignored. -/
def ofChars (cs : List Char) : Except Fault Url :=
  match scheme? cs with
  | none => .error .relative
  | some (scheme, rest) =>
    match Kind.ofScheme scheme with
    | .network => do
      let hasHost ← checkAuthority .network (rest.dropWhile fun c => c == '/' || c == '\\')
      return ⟨scheme, hasHost, true⟩
    | .file => do
      let hasHost ← checkFile rest
      return ⟨scheme, hasHost, true⟩
    | .general =>
      match rest with
      | '/' :: '/' :: authority => do
        let hasHost ← checkAuthority .general authority
        return ⟨scheme, hasHost, true⟩
      | '/' :: _ => .ok ⟨scheme, false, true⟩
      | _ => .ok ⟨scheme, false, false⟩

/-- The URL that a text is. -/
def parse (text : String) : Except Fault Url := ofChars (significant text)

end Url
end ClusterClient
