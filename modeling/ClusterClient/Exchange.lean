import ClusterClient.ClientError
import ClusterClient.Metrics

/-!
# Exchanges with a cluster

An `Exchange` is work that sends requests to a cluster without knowing which of its nodes will
answer: it names a path, gets the reply of the cluster and goes on from there. What an exchange does
depends on nothing but the replies it gets.
-/

namespace ClusterClient

/-- A request to the cluster as a whole, whose path is the part of the URL behind the node. -/
structure Call where
  method : Method
  path : String
  body : String
  deriving DecidableEq, Repr

/-- What the cluster replies to a request. -/
abbrev Reply := Except ClientError Response

/-- Work that sends requests and ends with a value. -/
inductive Exchange (α : Type) where
  /-- The work is done. -/
  | done (value : α)
  /-- Sends a request and goes on with the reply. -/
  | send (call : Call) (next : Reply → Exchange α)
  /-- Counts an event and goes on. -/
  | note (event : Event) (next : Exchange α)

namespace Exchange

variable {α β : Type}

/-- Goes on with the value that the work ends with. -/
def bind (work : Exchange α) (next : α → Exchange β) : Exchange β :=
  match work with
  | .done value => next value
  | .send call rest => .send call fun reply => (rest reply).bind next
  | .note event rest => .note event (rest.bind next)

instance : Monad Exchange where
  pure := .done
  bind := bind

/-- The reply to one request. -/
def call (method : Method) (path body : String) : Exchange Reply :=
  .send ⟨method, path, body⟩ .done

/-- Counts an event. -/
def count (event : Event) : Exchange Unit := .note event (.done ())

@[simp] theorem pure_eq (value : α) : (pure value : Exchange α) = .done value := rfl

@[simp] theorem done_bind (value : α) (next : α → Exchange β) :
    (Exchange.done value >>= next) = next value := rfl

@[simp] theorem send_bind (call : Call) (rest : Reply → Exchange α) (next : α → Exchange β) :
    (Exchange.send call rest >>= next) = .send call fun reply => rest reply >>= next := rfl

@[simp] theorem note_bind (event : Event) (rest : Exchange α) (next : α → Exchange β) :
    (Exchange.note event rest >>= next) = .note event (rest >>= next) := rfl

/-- Work in three parts is the same whichever two are put together first. -/
theorem bind_assoc {γ : Type} (work : Exchange α) (next : α → Exchange β)
    (last : β → Exchange γ) :
    (work >>= next >>= last) = work >>= fun value => next value >>= last := by
  induction work with
  | done value => rfl
  | send call rest ih => simp only [send_bind, ih]
  | note event rest ih => simp only [note_bind, ih]

end Exchange
end ClusterClient
