import ClusterClient.Draws

/-!
# Rotation through the nodes

A `Rotation` says which node of the cluster the next request goes to. The first node is picked at
random. `Rotation.advance` moves to the next node after a failure; when as many failures as there
are nodes have followed each other, the round is exhausted and a new first node is picked.
`Rotation.settle` starts a new round at the node that has answered.
-/

namespace ClusterClient

/-- The nodes of a cluster, the current one and how many failures have followed each other. -/
structure Rotation where
  endpoints : List String
  current : Nat
  failures : Nat
  draws : Draws
  current_lt : current < endpoints.length
  failures_lt : failures < endpoints.length

/-- What a failure leads to. -/
inductive Advance where
  /-- The next node can be tried. -/
  | retry
  /-- Every node has failed. -/
  | exhausted
  deriving DecidableEq, Repr

namespace Rotation

/-- The rotation through a list of nodes, unless the list is empty. -/
def start? (endpoints : List String) (draws : Draws) : Option Rotation :=
  if nonempty : 0 < endpoints.length then
    let pick := draws.below endpoints.length
    some
      { endpoints
        current := pick.1
        failures := 0
        draws := pick.2
        current_lt := Draws.below_lt nonempty draws
        failures_lt := nonempty }
  else none

/-- How many nodes there are. -/
def size (r : Rotation) : Nat := r.endpoints.length

/-- The current node. -/
def host (r : Rotation) : String := r.endpoints.get ⟨r.current, r.current_lt⟩

/-- How many nodes may still be tried before the round is exhausted. -/
def remaining (r : Rotation) : Nat := r.size - r.failures

/-- The rotation after a failure of the current node. -/
def advance (r : Rotation) : Advance × Rotation :=
  if more : r.failures + 1 < r.endpoints.length then
    (.retry,
      { r with
        current := (r.current + 1) % r.endpoints.length
        failures := r.failures + 1
        current_lt := Nat.mod_lt _ (Nat.zero_lt_of_lt r.current_lt)
        failures_lt := more })
  else
    let pick := r.draws.below r.endpoints.length
    (.exhausted,
      { r with
        current := pick.1
        failures := 0
        draws := pick.2
        current_lt := Draws.below_lt (Nat.zero_lt_of_lt r.current_lt) r.draws
        failures_lt := Nat.zero_lt_of_lt r.current_lt })

/-- The rotation after an answer of the current node. -/
def settle (r : Rotation) : Rotation :=
  { r with failures := 0, failures_lt := Nat.zero_lt_of_lt r.current_lt }

/-- Failures do not change the nodes. -/
@[simp] theorem endpoints_advance (r : Rotation) : r.advance.2.endpoints = r.endpoints := by
  unfold advance
  split <;> rfl

/-- Answers do not change the nodes. -/
@[simp] theorem endpoints_settle (r : Rotation) : r.settle.endpoints = r.endpoints := rfl

/-- Answers do not change the current node. -/
@[simp] theorem current_settle (r : Rotation) : r.settle.current = r.current := rfl

end Rotation
end ClusterClient
