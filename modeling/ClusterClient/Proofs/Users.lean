import ClusterClient.Bulk.Indexer
import ClusterClient.Client
import ClusterClient.Documents
import ClusterClient.Scroll.Session
import Mathlib.Logic.Function.Basic

/-! # The users of a client

A client is shared by sessions of scrolling and by senders of batches, and requests are made of it
directly. `Users.perform` is one operation of any of them, as an exchange with the cluster, and
`Users.performAll` a sequence of operations with what is seen behind each of them.
-/

namespace ClusterClient

open Scroll Bulk

/-- The sessions and the senders of batches that share a client, by number. -/
structure Users where
  sessions : Nat → Option Session
  indexers : Nat → Indexer

namespace Users

/-- An operation of one of the users, or of the client itself. -/
inductive Step where
  | request (call : Call)
  | search (index docType : Option String) (body : String) (routing : Option String)
  | get (index docType id : String) (routing : Option String)
  | index (index docType : String) (id : Option String) (body : String) (routing : Option String)
  | remove (index docType id : String) (routing : Option String)
  | bulk (user : Nat) (batch : Batch)
  | init (user : Nat) (search : Search)
  | next (user : Nat)
  | clear (user : Nat)
  | drop (user : Nat) (locked : Bool)

/-- What an operation gives back. -/
inductive Answer where
  | nothing
  | reply (reply : Reply)
  | failed (count : Nat)
  | page (page : Option Page)

/-- The users with a session in the place of another. -/
def setSession (users : Users) (user : Nat) (session : Option Session) : Users :=
  { users with sessions := Function.update users.sessions user session }

/-- The users with a sender of batches in the place of another. -/
def setIndexer (users : Users) (user : Nat) (indexer : Indexer) : Users :=
  { users with indexers := Function.update users.indexers user indexer }

/-- Does something with a session. Where there is none, nothing is done. -/
def withSession (users : Users) (user : Nat)
    (work : Session → Exchange (Answer × Option Session)) : Exchange (Answer × Users) :=
  match users.sessions user with
  | none => .done (.nothing, users)
  | some session => do
    let (answer, session) ← work session
    return (answer, users.setSession user session)

/-- One operation. -/
def perform (users : Users) : Step → Exchange (Answer × Users)
  | .request call => do
    let reply ← Exchange.call call.method call.path call.body
    return (.reply reply, users)
  | .search index docType body routing => do
    let reply ← Documents.search index docType body routing
    return (.reply reply, users)
  | .get index docType id routing => do
    let reply ← Documents.get index docType id routing
    return (.reply reply, users)
  | .index index docType id body routing => do
    let reply ← Documents.index index docType id body routing
    return (.reply reply, users)
  | .remove index docType id routing => do
    let reply ← Documents.remove index docType id routing
    return (.reply reply, users)
  | .bulk user batch => do
    let (failed, indexer) ← (users.indexers user).perform batch
    return (.failed failed, users.setIndexer user indexer)
  | .init user search => users.withSession user fun session => do
    let session ← session.init search
    return (.nothing, some session)
  | .next user => users.withSession user fun session => do
    let (page, session) ← session.next
    return (.page page, some session)
  | .clear user => users.withSession user fun session => do
    let session ← session.clear
    return (.nothing, some session)
  | .drop user locked => users.withSession user fun session => do
    session.drop locked
    return (.nothing, none)

/-- A sequence of operations, with the answer of each one and the users behind it. -/
def performAll (users : Users) : List Step → Exchange (List (Answer × Users))
  | [] => .done []
  | step :: steps => do
    let (answer, users) ← users.perform step
    let later ← users.performAll steps
    return (answer, users) :: later

end Users
end ClusterClient
