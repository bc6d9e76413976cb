import ClusterClient.Rotation
import Mathlib.Data.List.Induction
import Mathlib.Data.List.Nodup
import Mathlib.Data.List.Perm.Subperm
import Mathlib.Data.Nat.ModEq

/-! # A rotation under any use

A rotation is told of failures and answers in any order. What it says to them is all there is to
know about it: the failures that it counts are those since the last answer, the last round that was
exhausted or the start, and its current node is the last pick moved on by one for each failure since
(`ClusterClient.Rotation.Tracks`). So a round is exhausted by as many failures as there are nodes,
and a round without an answer comes to every node once (`ClusterClient.Rotation.signals_governed`).
-/

namespace ClusterClient

namespace Draws

/-- The source behind the given number of picks below a bound. -/
def behind (bound : Nat) : Nat → Draws → Draws
  | 0, draws => draws
  | count + 1, draws => ((draws.behind bound count).below bound).2

/-- The pick that follows the given number of others. -/
def pick (bound count : Nat) (draws : Draws) : Nat := ((draws.behind bound count).below bound).1

theorem pick_lt {bound : Nat} (positive : 0 < bound) (count : Nat) (draws : Draws) :
    draws.pick bound count < bound := below_lt positive _

/-- A plan of picks is used up from the front. -/
theorem behind_planned (bound count : Nat) (picks : List Nat) :
    behind bound count (.planned picks) = .planned (picks.drop count) := by
  induction count with
  | zero => rfl
  | succ count ih =>
      rw [behind, ih, ← List.drop_drop]
      cases picks.drop count with
      | nil => rfl
      | cons pick rest => rfl

/-- Picks that are planned below the bound come as they are planned. -/
theorem pick_planned {bound : Nat} {picks : List Nat} (below : ∀ pick ∈ picks, pick < bound)
    (count : Nat) : pick bound count (.planned picks) = picks.getD count 0 := by
  rw [pick, behind_planned, List.getD_eq_getElem?_getD, ← List.head?_drop]
  cases left : picks.drop count with
  | nil => rfl
  | cons first rest =>
      have planned : first ∈ picks :=
        List.mem_of_mem_drop (left ▸ List.mem_cons_self : first ∈ picks.drop count)
      exact Nat.mod_eq_of_lt (below first planned)

end Draws

namespace Rotation

theorem size_pos (r : Rotation) : 0 < r.size := Nat.zero_lt_of_lt r.current_lt

/-- The index of the node that is tried after the given number of failures. -/
def indexAt (r : Rotation) (step : Nat) : Nat := (r.current + step) % r.size

theorem indexAt_lt (r : Rotation) (step : Nat) : r.indexAt step < r.size :=
  Nat.mod_lt _ r.size_pos

/-- The node that is tried after the given number of failures. -/
def hostAt (r : Rotation) (step : Nat) : String :=
  r.endpoints.get ⟨r.indexAt step, r.indexAt_lt step⟩

/-- Without a failure that is the current node. -/
theorem indexAt_zero (r : Rotation) : r.indexAt 0 = r.current := Nat.mod_eq_of_lt r.current_lt

theorem hostAt_zero (r : Rotation) : r.hostAt 0 = r.host := by
  unfold hostAt host
  congr 2
  exact r.indexAt_zero

/-- Fewer steps than there are nodes lead to different nodes. -/
theorem indexAt_injOn (r : Rotation) {first second : Nat} (firstLt : first < r.size)
    (secondLt : second < r.size) (same : r.indexAt first = r.indexAt second) : first = second := by
  have congruent : first ≡ second [MOD r.size] := Nat.ModEq.add_left_cancel' r.current same
  exact congruent.eq_of_lt_of_lt firstLt secondLt

/-- As long as there are not more failures than nodes, no node is tried twice. -/
theorem nodup_indexAt (r : Rotation) {count : Nat} (fits : count ≤ r.size) :
    ((List.range count).map r.indexAt).Nodup := by
  refine List.Nodup.map_on ?_ List.nodup_range
  intro first firstIn second secondIn same
  rw [List.mem_range] at firstIn secondIn
  exact r.indexAt_injOn (firstIn.trans_le fits) (secondIn.trans_le fits) same

/-- As many steps as there are nodes lead to every node once. -/
theorem perm_indexAt (r : Rotation) :
    ((List.range r.size).map r.indexAt).Perm (List.range r.size) := by
  have among : (List.range r.size).map r.indexAt ⊆ List.range r.size := by
    intro index member
    obtain ⟨step, _, rfl⟩ := List.mem_map.mp member
    exact List.mem_range.mpr (r.indexAt_lt step)
  refine (List.subperm_of_subset (r.nodup_indexAt r.size.le_refl) among).perm_of_length_le ?_
  rw [List.length_map]

/-- Without failures all nodes are left to try. -/
theorem remaining_of_fresh {r : Rotation} (fresh : r.failures = 0) : r.remaining = r.size := by
  rw [remaining, fresh, Nat.sub_zero]

/-- A failure that leaves another node to try moves on to it. -/
theorem advance_retry (r : Rotation) (more : r.failures + 1 < r.size) :
    r.advance = (.retry,
      { r with
        current := (r.current + 1) % r.size
        failures := r.failures + 1
        current_lt := Nat.mod_lt _ r.size_pos
        failures_lt := more }) :=
  dif_pos more

/-- The failure of the last node draws a new first node. -/
theorem advance_exhausted (r : Rotation) (last : ¬ r.failures + 1 < r.size) :
    r.advance = (.exhausted,
      { r with
        current := (r.draws.below r.size).1
        failures := 0
        draws := (r.draws.below r.size).2
        current_lt := Draws.below_lt r.size_pos r.draws
        failures_lt := r.size_pos }) :=
  dif_neg last

/-- A new rotation has no failure counted and goes through the given nodes. -/
theorem start?_spec {endpoints : List String} {draws : Draws} {r : Rotation}
    (started : start? endpoints draws = some r) : r.failures = 0 ∧ r.endpoints = endpoints := by
  unfold start? at started
  split at started
  · cases started
    exact ⟨rfl, rfl⟩
  · cases started

/-- What a rotation is told about the current node. -/
inductive Signal where
  | failure
  | answer
  deriving DecidableEq, Repr

/-- What a rotation says to a signal, if that is a failure, and the rotation behind it. -/
def tell (r : Rotation) : Signal → Option Advance × Rotation
  | .failure => (some r.advance.1, r.advance.2)
  | .answer => (none, r.settle)

/-- The rotation behind signals. -/
def after (r : Rotation) (signals : List Signal) : Rotation :=
  signals.foldl (fun rotation signal => (rotation.tell signal).2) r

/-- What a rotation says to signals, one after the other. -/
def replies (r : Rotation) : List Signal → List (Option Advance)
  | [] => []
  | signal :: signals => (r.tell signal).1 :: (r.tell signal).2.replies signals

/-- How many failures there were since the last answer, the last round that was exhausted or the
start. -/
def failuresSince (replies : List (Option Advance)) : Nat :=
  (replies.reverse.takeWhile fun reply => reply = some .retry).length

/-- How many rounds were exhausted. -/
def exhaustions (replies : List (Option Advance)) : Nat := replies.count (some .exhausted)

/-- How many times another node was tried since the last pick, whatever was answered in between. -/
def movesSince (replies : List (Option Advance)) : Nat :=
  (replies.reverse.takeWhile fun reply => reply ≠ some .exhausted).count (some .retry)

section History

variable (replies : List (Option Advance))

/-- A retry is one failure more, and any other reply starts the count again. -/
theorem failuresSince_concat (reply : Option Advance) :
    failuresSince (replies ++ [reply]) =
      if reply = some .retry then failuresSince replies + 1 else 0 := by
  unfold failuresSince
  rw [List.reverse_concat, List.takeWhile_cons]
  split_ifs <;> simp_all

/-- The exhausted rounds are counted one by one. -/
theorem exhaustions_concat (reply : Option Advance) :
    exhaustions (replies ++ [reply]) =
      exhaustions replies + if reply = some .exhausted then 1 else 0 := by
  unfold exhaustions
  rw [List.count_append, List.count_singleton]
  simp only [beq_iff_eq]

/-- A retry is one move more, an answer none, and an exhausted round starts the count again. -/
theorem movesSince_concat (reply : Option Advance) :
    movesSince (replies ++ [reply]) =
      if reply = some .exhausted then 0
      else movesSince replies + if reply = some .retry then 1 else 0 := by
  unfold movesSince
  rw [List.reverse_concat, List.takeWhile_cons]
  split_ifs <;> simp_all

end History

theorem after_append (r : Rotation) (first second : List Signal) :
    r.after (first ++ second) = (r.after first).after second := List.foldl_append

/-- The replies to later signals are those of the rotation behind the earlier ones. -/
theorem replies_append (r : Rotation) (first second : List Signal) :
    r.replies (first ++ second) = r.replies first ++ (r.after first).replies second := by
  induction first generalizing r with
  | nil => rfl
  | cons signal first ih => exact congrArg (List.cons _) (ih _)

/-- **What a rotation is, from what it has said.** Its failures are those since the last reply that
is no retry, and its source has given one pick for the start and one for each round that was
exhausted. Its current node is the last pick moved on by the retries since. -/
structure Tracks (endpoints : List String) (draws : Draws) (replies : List (Option Advance))
    (r : Rotation) : Prop where
  nodes : r.endpoints = endpoints
  failures : r.failures = failuresSince replies
  source : r.draws = draws.behind endpoints.length (exhaustions replies + 1)
  current : r.current =
    (draws.pick endpoints.length (exhaustions replies) + movesSince replies) % endpoints.length

section Run

variable {endpoints : List String} {draws : Draws} {replies : List (Option Advance)}
  {r start : Rotation}

/-- A new rotation has said nothing, and stands at the first pick. -/
theorem start?_tracks (started : start? endpoints draws = some start) :
    Tracks endpoints draws [] start := by
  unfold start? at started
  split at started
  · rename_i nonempty
    cases started
    exact ⟨rfl, rfl, rfl, (Nat.mod_eq_of_lt (Draws.below_lt nonempty draws)).symm⟩
  · cases started

/-- **One signal.** What a rotation says to it tells the rotation behind it. -/
theorem Tracks.tell (tracks : Tracks endpoints draws replies r) (signal : Signal) :
    Tracks endpoints draws (replies ++ [(r.tell signal).1]) (r.tell signal).2 := by
  have size : r.size = endpoints.length := congrArg List.length tracks.nodes
  cases signal with
  | answer =>
      refine ⟨tracks.nodes, ?_, ?_, ?_⟩
      · rw [failuresSince_concat]
        rfl
      · rw [exhaustions_concat]
        exact tracks.source
      · rw [exhaustions_concat, movesSince_concat]
        exact tracks.current
  | failure =>
      unfold Rotation.tell
      by_cases more : r.failures + 1 < r.size
      · rw [advance_retry r more]
        refine ⟨tracks.nodes, ?_, ?_, ?_⟩
        · rw [failuresSince_concat, if_pos rfl, ← tracks.failures]
        · rw [exhaustions_concat]
          exact tracks.source
        · rw [exhaustions_concat, movesSince_concat]
          simp only [size, tracks.current, Nat.mod_add_mod]
          rfl
      · rw [advance_exhausted r more]
        refine ⟨tracks.nodes, ?_, ?_, ?_⟩
        · rw [failuresSince_concat]
          rfl
        · rw [exhaustions_concat, if_pos rfl]
          simp only [size, tracks.source]
          rfl
        · have pick := Draws.pick_lt (size ▸ r.size_pos) (Rotation.exhaustions replies + 1) draws
          rw [exhaustions_concat, if_pos rfl, movesSince_concat, if_pos rfl, Nat.add_zero,
            Nat.mod_eq_of_lt pick]
          simp only [size, tracks.source]
          rfl

/-- **Signals in any order.** By induction on the signals from the last one on, as the replies to
earlier ones are what the rotation is known by when the last one comes. -/
theorem Tracks.after (tracks : Tracks endpoints draws [] r) (signals : List Signal) :
    Tracks endpoints draws (r.replies signals) (r.after signals) := by
  induction signals using List.reverseRecOn with
  | nil => exact tracks
  | append_singleton signals signal ih =>
      rw [replies_append, after_append]
      exact ih.tell signal

/-- Failures that leave a node to try lead through the nodes in order. -/
theorem after_failures (r : Rotation) {count : Nat} (room : r.failures + count < r.size) :
    r.replies (List.replicate count .failure) = List.replicate count (some .retry) ∧
      (r.after (List.replicate count .failure)).endpoints = r.endpoints ∧
      (r.after (List.replicate count .failure)).failures = r.failures + count ∧
      (r.after (List.replicate count .failure)).current = r.indexAt count := by
  induction count with
  | zero => exact ⟨rfl, rfl, rfl, r.indexAt_zero.symm⟩
  | succ count ih =>
      obtain ⟨retried, nodes, failures, current⟩ := ih (Nat.lt_of_succ_lt room)
      have size : (r.after (List.replicate count .failure)).size = r.size :=
        congrArg List.length nodes
      have more : (r.after (List.replicate count .failure)).failures + 1 <
          (r.after (List.replicate count .failure)).size := by
        rw [failures, size]
        exact room
      have moved := advance_retry _ more
      rw [List.replicate_succ', replies_append, after_append, retried, List.replicate_succ']
      refine ⟨?_, ?_, ?_, ?_⟩
      · simp only [replies, tell, moved]
      · rw [after, List.foldl_cons, tell, moved]
        exact nodes
      · rw [after, List.foldl_cons, tell, moved]
        exact congrArg (· + 1) failures
      · rw [after, List.foldl_cons, tell, moved]
        simp only [List.foldl_nil, current, size, indexAt, Nat.mod_add_mod, Nat.add_assoc]

/-- A failure exhausts the round if it is that of the last node. -/
theorem advance_exhausted_iff (r : Rotation) :
    r.advance.1 = .exhausted ↔ r.failures + 1 = r.size := by
  have counted : r.failures < r.size := r.failures_lt
  by_cases more : r.failures + 1 < r.size
  · rw [advance_retry r more]
    constructor
    · intro exhausted
      cases exhausted
    · intro all
      omega
  · rw [advance_exhausted r more]
    constructor
    · intro _
      omega
    · intro _
      rfl

/-- As many failures as there are nodes exhaust a round, and only the last of them does. -/
theorem replies_round {r : Rotation} (fresh : r.failures = 0) :
    r.replies (List.replicate r.size .failure) =
      List.replicate (r.size - 1) (some .retry) ++ [some .exhausted] := by
  have positive := r.size_pos
  have room : r.failures + (r.size - 1) < r.size := by omega
  obtain ⟨retried, nodes, failures, _⟩ := r.after_failures room
  have size : (r.after (List.replicate (r.size - 1) .failure)).size = r.size :=
    congrArg List.length nodes
  have last : (r.after (List.replicate (r.size - 1) .failure)).advance.1 = .exhausted := by
    rw [advance_exhausted_iff, failures, fresh, size, Nat.zero_add]
    exact Nat.sub_add_cancel positive
  obtain ⟨count, all⟩ := Nat.exists_eq_succ_of_ne_zero positive.ne'
  rw [all, Nat.succ_sub_one] at retried last ⊢
  rw [List.replicate_succ', replies_append, retried]
  simp only [replies, tell, last]

/-- A round that no answer interrupts comes to every node once. -/
theorem perm_round {r : Rotation} (fresh : r.failures = 0) :
    ((List.range r.size).map fun step => (r.after (List.replicate step .failure)).current).Perm
      (List.range r.size) := by
  have visited : ((List.range r.size).map fun step =>
      (r.after (List.replicate step .failure)).current) = (List.range r.size).map r.indexAt := by
    refine List.map_congr_left fun step member => ?_
    have room := List.mem_range.mp member
    exact (r.after_failures (by omega)).2.2.2
  rw [visited]
  exact r.perm_indexAt

/-- What holds of a rotation that has said the given replies since it was started: where it stands,
what the next signal does to it, and what a round does that starts now and that no answer
interrupts. -/
structure Governed (endpoints : List String) (draws : Draws) (replies : List (Option Advance))
    (r : Rotation) : Prop extends Tracks endpoints draws replies r where
  current_lt : r.current < endpoints.length
  failures_lt : r.failures < endpoints.length
  exhausted_iff : r.advance.1 = .exhausted ↔ failuresSince replies + 1 = endpoints.length
  drawn : r.advance.1 = .exhausted →
    r.advance.2.current = draws.pick endpoints.length (exhaustions replies + 1) ∧
      r.advance.2.draws = draws.behind endpoints.length (exhaustions replies + 2)
  moved : r.advance.1 = .retry →
    r.advance.2.current = (r.current + 1) % endpoints.length ∧ r.advance.2.draws = r.draws
  settled : r.settle.current = r.current ∧ r.settle.draws = r.draws
  round : failuresSince replies = 0 →
    r.replies (List.replicate endpoints.length .failure) =
        List.replicate (endpoints.length - 1) (some .retry) ++ [some .exhausted] ∧
      ((List.range endpoints.length).map fun step =>
        (r.after (List.replicate step .failure)).current).Perm (List.range endpoints.length)
  picks : ∀ picks, draws = .planned picks → (∀ pick ∈ picks, pick < endpoints.length) →
    ∀ count, draws.pick endpoints.length count = picks.getD count 0

/-- All the rest follows from what the rotation has said. -/
theorem Tracks.governed (tracks : Tracks endpoints draws replies r) :
    Governed endpoints draws replies r := by
  have size : r.size = endpoints.length := congrArg List.length tracks.nodes
  have later := tracks.tell .failure
  refine
    { toTracks := tracks
      current_lt := size ▸ r.current_lt
      failures_lt := size ▸ r.failures_lt
      exhausted_iff := ?_
      drawn := ?_
      moved := ?_
      settled := ⟨rfl, rfl⟩
      round := ?_
      picks := ?_ }
  · rw [advance_exhausted_iff, tracks.failures, size]
  · intro exhausted
    rw [Rotation.tell, exhausted] at later
    have current := later.current
    have source := later.source
    rw [exhaustions_concat, if_pos rfl] at current source
    rw [movesSince_concat, if_pos rfl, Nat.add_zero,
      Nat.mod_eq_of_lt (Draws.pick_lt (size ▸ r.size_pos) _ _)] at current
    exact ⟨current, source⟩
  · intro retry
    by_cases more : r.failures + 1 < r.size
    · rw [advance_retry r more]
      exact ⟨congrArg ((r.current + 1) % ·) size, rfl⟩
    · rw [advance_exhausted r more] at retry
      cases retry
  · intro fresh
    rw [← tracks.failures] at fresh
    rw [← size]
    exact ⟨replies_round fresh, perm_round fresh⟩
  · rintro picks rfl below count
    exact Draws.pick_planned below count

end Run

/-- **The law of a rotation.** A rotation through at least one node keeps count of its failures, and
moves or draws, as its replies say, whatever failures and answers it was told of in whatever
order. -/
theorem signals_governed (endpoints : List String) (nonempty : endpoints ≠ []) (draws : Draws) :
    ∃ start, start? endpoints draws = some start ∧
      ∀ signals, Governed endpoints draws (start.replies signals) (start.after signals) := by
  have started : (start? endpoints draws).isSome := by
    rw [start?, dif_pos (List.length_pos_iff.mpr nonempty)]
    rfl
  obtain ⟨start, started⟩ := Option.isSome_iff_exists.mp started
  exact ⟨start, started, fun signals => ((start?_tracks started).after signals).governed⟩

/-- Three nodes, of which the last one is picked first: an answer interrupts the first round, and
the next one is exhausted and followed by a new pick. -/
theorem signals_governed_interrupted :
    ["a", "b", "c"] ≠ [] ∧ (∀ pick ∈ [2, 1], pick < ["a", "b", "c"].length) ∧
      ∃ start, start? ["a", "b", "c"] (.planned [2, 1]) = some start ∧
        start.replies [.failure, .failure, .answer, .failure, .failure, .failure, .failure] =
          [some .retry, some .retry, none, some .retry, some .retry, some .exhausted,
            some .retry] ∧
        Governed ["a", "b", "c"] (.planned [2, 1])
          (start.replies [.failure, .failure, .answer, .failure, .failure, .failure, .failure])
          (start.after [.failure, .failure, .answer, .failure, .failure, .failure, .failure]) := by
  refine ⟨by decide, by decide, ?_⟩
  obtain ⟨start, started, governed⟩ :=
    signals_governed ["a", "b", "c"] (by decide) (.planned [2, 1])
  refine ⟨start, started, ?_, governed _⟩
  cases started
  rfl

end Rotation
end ClusterClient
