/-!
# Random picks

`Draws.below` picks an index below a bound. The picks come from a plan, which makes a run
repeatable, or from a generator with one word of state. `Draws.below_lt` says that a pick is always
below its bound.
-/

namespace ClusterClient

/-- A source of random picks. -/
inductive Draws where
  /-- The picks to come, in order; behind the last every pick is zero. -/
  | planned (picks : List Nat)
  /-- The state of a generator. -/
  | seeded (state : UInt64)
  deriving DecidableEq, Repr

namespace Draws

/-- The word that the generator gives for a state: the bits of the state mixed so that neighbouring
states give unrelated words. -/
def mixed (state : UInt64) : UInt64 :=
  let first := (state ^^^ (state >>> 30)) * 0xBF58476D1CE4E5B9
  let second := (first ^^^ (first >>> 27)) * 0x94D049BB133111EB
  second ^^^ (second >>> 31)

/-- A pick below a bound, and the source behind it. -/
def below (bound : Nat) : Draws → Nat × Draws
  | .planned [] => (0, .planned [])
  | .planned (pick :: picks) => (pick % bound, .planned picks)
  | .seeded state =>
    let next := state + 0x9E3779B97F4A7C15
    ((mixed next).toNat % bound, .seeded next)

/-- A pick is below its bound. -/
theorem below_lt {bound : Nat} (positive : 0 < bound) (draws : Draws) :
    (draws.below bound).1 < bound := by
  match draws with
  | .planned [] => exact positive
  | .planned (_ :: _) => exact Nat.mod_lt _ positive
  | .seeded _ => exact Nat.mod_lt _ positive

/-- The given number of picks below a bound. -/
def sample (bound : Nat) : Nat → Draws → List Nat
  | 0, _ => []
  | count + 1, draws =>
    let (pick, draws) := draws.below bound
    pick :: sample bound count draws

end Draws
end ClusterClient
