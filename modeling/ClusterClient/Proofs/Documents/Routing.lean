import ClusterClient.Proofs.Documents.Access
import ClusterClient.Proofs.Documents.Form

/-! # Routing values in paths

A routing value stands at the end of a path as the value of one parameter and can be read back from
there. It is encoded, so it holds no character that separates parts of a URL, and neither adds a
parameter nor changes the path before it (`ClusterClient.Documents.Access.routing_contained`).
-/

namespace ClusterClient.Documents

/-- A routing value that is not empty becomes a parameter. -/
theorem routingQuery_some {value : String} (given : value ≠ "") :
    routingQuery (some value) = "?routing=" ++ Form.encode value := by
  simp only [routingQuery, String.isEmpty_iff, if_neg given]

/-- No routing and an empty one are the same. -/
theorem routingQuery_of_empty {routing : Option String} (none : routing.getD "" = "") :
    routingQuery routing = "" := by
  cases routing with
  | none => rfl
  | some value => exact if_pos (String.isEmpty_iff.mpr none)

/-- A character that is not safe is in no encoded text. -/
theorem count_encode {c : Char} (unsafeChar : ¬ Form.IsSafe c) (value : String) :
    (Form.encode value).toList.count c = 0 :=
  List.count_eq_zero.mpr fun member => unsafeChar (Form.isSafe_encode value c member)

namespace Access

/-- Routing is put behind the path without it and changes nothing in front. -/
theorem path_withRouting (access : Access) (routing : Option String) :
    (access.withRouting routing).path =
      (access.withRouting none).path.map (· ++ routingQuery routing) := by
  have bare : routingQuery none = "" := rfl
  simp only [path_eq, missing?_withRouting, place_withRouting, routing_withRouting, bare,
    String.append_empty]
  cases access.missing? <;> rfl

/-- What a routing value does to a request: its path goes on with one parameter, whose value is safe
and can be read back; of the characters that are not safe only those of the name of the parameter
are added; and different values lead to different paths. -/
structure RoutingContained (access : Access) : Prop where
  sent : ∀ routing, (access.withRouting routing).work =
    callAt access.method (access.withRouting routing).path access.body
  empty : (access.withRouting (some "")).path = (access.withRouting none).path
  appended : ∀ routing, routing ≠ "" → ∃ encoded,
    (access.withRouting (some routing)).path =
        (access.withRouting none).path.map (· ++ "?routing=" ++ encoded) ∧
      (∀ c ∈ encoded.toList, Form.IsSafe c) ∧ Form.decode? encoded = some routing
  separators : ∀ routing plain routed, routing ≠ "" →
    (access.withRouting none).path = .ok plain →
    (access.withRouting (some routing)).path = .ok routed →
    ∀ c, ¬ Form.IsSafe c →
      routed.toList.count c = plain.toList.count c + "?routing=".toList.count c
  distinct : ∀ first second routed, first ≠ "" → second ≠ "" →
    (access.withRouting (some first)).path = .ok routed →
    (access.withRouting (some second)).path = .ok routed → first = second

/-- A path with a routing value, in full. -/
theorem path_routed {access : Access} {routing plain : String} (given : routing ≠ "")
    (bare : (access.withRouting none).path = .ok plain) :
    (access.withRouting (some routing)).path =
      .ok (plain ++ "?routing=" ++ Form.encode routing) := by
  rw [path_withRouting, bare, routingQuery_some given, Except.map, String.append_assoc]

/-- A path with a routing value has one without it. -/
theorem exists_plain {access : Access} {routing : Option String} {routed : String}
    (built : (access.withRouting routing).path = .ok routed) :
    ∃ plain, (access.withRouting none).path = .ok plain := by
  rw [path_withRouting] at built
  cases bare : (access.withRouting none).path with
  | ok plain => exact ⟨plain, rfl⟩
  | error error =>
      rw [bare] at built
      cases built

/-- **A routing value stays in its parameter.** -/
theorem routing_contained (access : Access) : RoutingContained access where
  sent := by
    intro routing
    rw [work_eq]
    cases access <;> rfl
  empty := by
    rw [path_withRouting, routingQuery_of_empty rfl]
    simp only [String.append_empty]
    exact congrFun Except.map_id _
  appended := by
    intro routing given
    refine ⟨Form.encode routing, ?_, Form.isSafe_encode routing, Form.decode?_encode routing⟩
    rw [path_withRouting, routingQuery_some given]
    simp only [String.append_assoc]
  separators := by
    intro routing plain routed given bare built c unsafeChar
    cases (path_routed given bare).symm.trans built
    simp only [String.toList_append, List.count_append, count_encode unsafeChar, Nat.add_zero]
  distinct := by
    intro first second routed firstGiven secondGiven firstBuilt secondBuilt
    obtain ⟨plain, bare⟩ := exists_plain firstBuilt
    cases (path_routed firstGiven bare).symm.trans firstBuilt
    have same := Except.ok.inj (secondBuilt.symm.trans (path_routed secondGiven bare))
    exact Form.encode_injective (String.append_right_inj _ |>.mp same)

end Access
end ClusterClient.Documents
