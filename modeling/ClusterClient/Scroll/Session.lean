import ClusterClient.Exchange
import ClusterClient.Scroll.Page

/-!
# Scrolling through the hits of a search

A `Session` goes through the hits of a search page by page. The cluster keeps a cursor for it, whose
name comes with each page and is sent for the next one; only a page that can be trusted changes the
session. When the session ends or starts a new search, the cursor is given back.
-/

namespace ClusterClient.Scroll

/-- How a session is opened: in the standard way the first response is the first page; in the scan
way it only opens the cursor. -/
inductive Variant where
  | standard
  | scan
  deriving DecidableEq, Repr

/-- The word for a variant. -/
def Variant.name : Variant → String
  | .standard => "standard"
  | .scan => "scan"

/-- What is searched for. -/
structure Search where
  index : String
  docType : String
  body : String
  deriving DecidableEq, Repr

/-- How far a session is. -/
inductive Phase where
  /-- No search is given. -/
  | idle
  /-- The search has not been sent. -/
  | ready (search : Search)
  /-- The cluster keeps a cursor. -/
  | started (search : Search) (cursor : String)
  deriving DecidableEq, Repr

/-- A session of scrolling. -/
structure Session where
  variant : Variant
  pageSize : Nat
  /-- How long the cluster keeps the cursor. -/
  ttl : String
  phase : Phase := .idle
  deriving DecidableEq, Repr

namespace Session

/-- The page size unless another one is given. -/
def defaultPageSize : Nat := 100

/-- How long a cursor is kept unless another time is given. -/
def defaultTtl : String := "1m"

/-- A session of the standard variant. -/
def standard (pageSize : Nat) (ttl : String) : Session := { variant := .standard, pageSize, ttl }

/-- A session of the scan variant. A page holds hits of each of the primary shards, so that the size
is divided by their number, if it is given. -/
def scan (pageSize : Nat) (ttl : String) (primaryShards : Nat) : Session :=
  let pageSize := if primaryShards = 0 then pageSize else max (pageSize / primaryShards) 1
  { variant := .scan, pageSize, ttl }

/-- The cursor that the cluster keeps. -/
def cursor? (session : Session) : Option String :=
  match session.phase with
  | .started _ cursor => some cursor
  | _ => none

/-- The status of a search whose cursor is not known. -/
def notFoundStatus : Nat := 404

/-- The page that a response is, if the session may go on with it: the response is a success, or its
cursor was not known but it has hits. -/
def accepted? (response : Response) : Option Page :=
  match Page.ofText response.body with
  | .error _ => none
  | .ok page =>
    if response.isSuccess then some page
    else if response.status = notFoundStatus ∧ !page.hits.isEmpty then some page
    else none

/-- The path that opens a search. -/
def openingPath (session : Session) (search : Search) : String :=
  search.index ++ "/" ++ search.docType ++ "/_search?scroll=" ++ session.ttl ++ "&size="
    ++ toString session.pageSize
    ++ match session.variant with
      | .standard => ""
      | .scan => "&search_type=scan"

/-- The path that continues a search. -/
def continuationPath (session : Session) : String := "_search/scroll?scroll=" ++ session.ttl

/-- The path under which cursors are given back. -/
def releasePath : String := "_search/scroll/"

/-- The body that names the cursor to continue with. -/
def continuationBody (cursor : String) : String :=
  (Json.ofMembers [("scroll_id", .text cursor)]).compact

/-- The body that names the cursor to give back. -/
def releaseBody (cursor : String) : String :=
  (Json.ofMembers [("scroll_id", .array [.text cursor])]).compact

/-- Asks for a page and counts it. -/
def fetch (session : Session) (path body : String) : Exchange (Option Page) := do
  match ← Exchange.call .post path body with
  | .error _ => return none
  | .ok response =>
    match accepted? response with
    | none => return none
    | some page =>
      Exchange.count (.page session.variant.name)
      return some page

/-- The session behind a page of a search. -/
def behind (session : Session) (search : Search) (page : Page) : Session :=
  { session with phase := .started search page.cursor }

/-- Asks for the page behind a cursor. -/
def proceed (session : Session) (search : Search) (cursor : String) :
    Exchange (Option Page × Session) := do
  match ← session.fetch session.continuationPath (continuationBody cursor) with
  | none => return (none, session)
  | some page => return (some page, session.behind search page)

/-- The next page, if there is one. -/
def next (session : Session) : Exchange (Option Page × Session) :=
  match session.phase with
  | .idle => .done (none, session)
  | .ready search => do
    match ← session.fetch (session.openingPath search) search.body with
    | none => return (none, session)
    | some page =>
      match session.variant with
      | .standard => return (some page, session.behind search page)
      | .scan => (session.behind search page).proceed search page.cursor
  | .started search cursor => session.proceed search cursor

/-- Gives a cursor back. What the cluster replies makes no difference. -/
def release (cursor : String) : Exchange Unit := do
  let _ ← Exchange.call .delete releasePath (releaseBody cursor)
  return ()

/-- Gives back the cursor of the session, if it has one. -/
def releaseOwn (session : Session) : Exchange Unit :=
  match session.cursor? with
  | none => .done ()
  | some cursor => release cursor

/-- Ends the search. -/
def clear (session : Session) : Exchange Session := do
  session.releaseOwn
  return { session with phase := .idle }

/-- Sets the search, and ends the one before. -/
def init (session : Session) (search : Search) : Exchange Session := do
  session.releaseOwn
  return { session with phase := .ready search }

/-- Discards the session. While the client is locked by someone else, the cursor is left to
expire. -/
def drop (session : Session) (locked : Bool) : Exchange Unit :=
  if locked then .done () else session.releaseOwn

end Session
end ClusterClient.Scroll
