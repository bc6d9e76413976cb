import ClusterClient.Proofs.Documents.Routing

/-! # The addresses of documents

The path of a document joins its index, its type and its id by slashes as they are given, and its
routing follows. So a path stands for more than one document where the parts themselves hold slashes
(`ClusterClient.Documents.Target.path_ambiguous`), or where an id ends like a routing parameter.
These are the only ways (`ClusterClient.Documents.Target.address_unique`): two documents with the
same path have the same joined parts and the same routing, or the joined parts of one are those of
the other with its routing behind them.
-/

namespace ClusterClient.Documents

section Splitting

variable {α : Type} [DecidableEq α] {mark : α} {first second before behind : List α}

/-- A list is cut at a mark in one way, once it is known how many marks stand before the cut. -/
theorem append_cons_inj_of_count (same : first ++ mark :: second = before ++ mark :: behind)
    (marks : first.count mark = before.count mark) : first = before ∧ second = behind := by
  -- What one start is longer by than the other begins with the mark.
  have nothing : ∀ {short long more rest tail : List α}, long = short ++ more →
      mark :: rest = more ++ mark :: tail → long.count mark = short.count mark → more = [] := by
    intro short long more rest tail longer begins counts
    cases more with
    | nil => rfl
    | cons head more =>
        cases (List.cons.inj begins).1
        rw [longer, List.count_append, List.count_cons_self] at counts
        omega
  rcases List.append_eq_append_iff.mp same with ⟨more, longer, begins⟩ | ⟨more, longer, begins⟩
  · cases nothing longer begins marks.symm
    rw [List.append_nil] at longer
    exact ⟨longer.symm, (List.cons.inj begins).2⟩
  · cases nothing longer begins marks
    rw [List.append_nil] at longer
    exact ⟨longer, (List.cons.inj begins).2.symm⟩

/-- A list is cut at its last mark in one way. -/
theorem append_cons_inj_of_not_mem (same : first ++ mark :: second = before ++ mark :: behind)
    (last : mark ∉ second) (lastToo : mark ∉ behind) : first = before ∧ second = behind := by
  refine append_cons_inj_of_count same ?_
  have counts := congrArg (List.count mark) same
  rw [List.count_append, List.count_append, List.count_cons_self, List.count_cons_self,
    List.count_eq_zero.mpr last, List.count_eq_zero.mpr lastToo] at counts
  omega

end Splitting

/-- A document as a request names it. -/
structure Target where
  index : String
  docType : String
  id : String
  routing : Option String

namespace Target

/-- Every part is given. -/
structure IsWhole (target : Target) : Prop where
  index : target.index ≠ ""
  docType : target.docType ≠ ""
  id : target.id ≠ ""

/-- The path of the document. -/
def path (target : Target) : Except ClientError String :=
  Documents.path target.index target.docType target.id target.routing

/-- The parts, joined. -/
def place (target : Target) : String :=
  target.index ++ "/" ++ target.docType ++ "/" ++ target.id

/-- The routing value; none is an empty one. -/
def value (target : Target) : String := target.routing.getD ""

/-- One target has no routing, and its parts end with the routing parameter of the other, behind the
parts of the other. -/
def Swallows (target other : Target) : Prop :=
  target.value = "" ∧ other.value ≠ "" ∧
    target.place = other.place ++ "?routing=" ++ Form.encode other.value

variable {target other : Target}

/-- Routing that is left out and empty routing make no difference to the path. -/
theorem query_eq (target : Target) : routingQuery target.routing =
    if target.value = "" then "" else "?routing=" ++ Form.encode target.value := by
  split
  · exact routingQuery_of_empty ‹_›
  · rename_i given
    unfold value at given ⊢
    cases routing : target.routing with
    | none => exact absurd (by rw [routing]; rfl) given
    | some value =>
        rw [routing] at given
        exact routingQuery_some given

/-- A target with all its parts has a path: its place, with the routing behind it. -/
theorem path_eq (whole : target.IsWhole) :
    target.path = .ok (target.place ++ routingQuery target.routing) := by
  rw [path, Documents.path_eq, if_neg whole.index, if_neg whole.docType, if_neg whole.id]
  rfl

/-- The characters of the parameter of a routing value. -/
theorem toList_parameter (value : String) :
    ("?routing=" ++ Form.encode value).toList =
      '?' :: ("routing=".toList ++ (Form.encode value).toList) := by
  rw [String.toList_append]
  rfl

/-- The parameter of a routing value is cut off in one way. -/
theorem routed_inj {place otherPlace value otherValue : String}
    (same : place ++ ("?routing=" ++ Form.encode value) =
      otherPlace ++ ("?routing=" ++ Form.encode otherValue)) :
    place = otherPlace ∧ value = otherValue := by
  have unmarked : ∀ value, '?' ∉ "routing=".toList ++ (Form.encode value).toList := by
    intro value member
    rcases List.mem_append.mp member with name | encoded
    · exact absurd name (by decide)
    · exact absurd (Form.isSafe_encode value _ encoded) (by decide)
  have characters := congrArg String.toList same
  rw [String.toList_append (s := place), String.toList_append (s := otherPlace), toList_parameter,
    toList_parameter] at characters
  obtain ⟨places, encoded⟩ :=
    append_cons_inj_of_not_mem characters (unmarked value) (unmarked otherValue)
  exact ⟨String.toList_inj.mp places,
    Form.encode_injective (String.toList_inj.mp (List.append_cancel_left encoded))⟩

/-- **When two documents have the same path.** -/
theorem path_eq_iff (whole : target.IsWhole) (wholeToo : other.IsWhole) :
    target.path = other.path ↔
      (target.place = other.place ∧ target.value = other.value) ∨
        target.Swallows other ∨ other.Swallows target := by
  rw [path_eq whole, path_eq wholeToo, query_eq, query_eq, Except.ok.injEq]
  by_cases none : target.value = "" <;> by_cases noneToo : other.value = ""
  · simp [none, noneToo, Swallows]
  · simp [none, noneToo, Swallows, Ne.symm noneToo, String.append_assoc]
  · simp [none, noneToo, Swallows, String.append_assoc, eq_comm]
  · simp only [none, noneToo, if_false, Swallows, false_and, or_false]
    constructor
    · exact routed_inj
    · rintro ⟨places, values⟩
      rw [places, values]

/-- The characters of the joined parts. -/
theorem toList_place (target : Target) : target.place.toList =
    target.index.toList ++ '/' :: (target.docType.toList ++ '/' :: target.id.toList) := by
  simp only [place, String.toList_append, List.append_assoc]
  rfl

/-- The index and the type of one document hold as many slashes as those of another. -/
structure SameSlashes (target other : Target) : Prop where
  index : target.index.toList.count '/' = other.index.toList.count '/'
  docType : target.docType.toList.count '/' = other.docType.toList.count '/'

/-- With the same slashes, joined parts are the same, up to what follows them, only if the parts
are. -/
theorem SameSlashes.parts_eq (slashes : target.SameSlashes other) {more : String}
    (joined : target.place = other.place ++ more) :
    target.index = other.index ∧ target.docType = other.docType ∧
      target.id = other.id ++ more := by
  have characters := congrArg String.toList joined
  rw [String.toList_append, toList_place, toList_place, List.append_assoc, List.cons_append,
    List.append_assoc, List.cons_append, ← String.toList_append] at characters
  obtain ⟨indexes, rest⟩ := append_cons_inj_of_count characters slashes.index
  obtain ⟨types, ids⟩ := append_cons_inj_of_count rest slashes.docType
  exact ⟨String.toList_inj.mp indexes, String.toList_inj.mp types, String.toList_inj.mp ids⟩

/-- An id that ends like a routing parameter has a question mark. -/
theorem Swallows.mem_id (swallows : target.Swallows other) (slashes : target.SameSlashes other) :
    '?' ∈ target.id.toList := by
  obtain ⟨_, _, joined⟩ := swallows
  rw [String.append_assoc] at joined
  obtain ⟨_, _, id⟩ := slashes.parts_eq joined
  rw [id, String.toList_append, toList_parameter]
  exact List.mem_append_right _ List.mem_cons_self

/-- What paths say about documents: one call is sent to the path, whatever is done with the
document; when another document has the same path; and that it is then the same document if its
parts hold the same slashes and its id is not taken for a routing. -/
structure AddressLaw (target other : Target) : Prop where
  sent : ∃ path, target.path = .ok path ∧
    Documents.get target.index target.docType target.id target.routing = .call .get path "" ∧
    Documents.remove target.index target.docType target.id target.routing =
      .call .delete path "" ∧
    ∀ body, Documents.index target.index target.docType (some target.id) body target.routing =
      .call .post path body
  same_iff : target.path = other.path ↔
    (target.place = other.place ∧ target.value = other.value) ∨
      target.Swallows other ∨ other.Swallows target
  unique : target.path = other.path → target.SameSlashes other →
    (target.value = "" ↔ other.value = "") ∨
      '?' ∉ target.id.toList ∧ '?' ∉ other.id.toList →
    target.index = other.index ∧ target.docType = other.docType ∧ target.id = other.id ∧
      target.value = other.value

/-- **Addresses of documents.** -/
theorem address_unique (whole : target.IsWhole) (wholeToo : other.IsWhole) :
    AddressLaw target other where
  sent := by
    have built := path_eq whole
    have written := targetPath_of_id whole.id target.index target.docType target.routing
    refine ⟨_, built, ?_, ?_, fun body => ?_⟩
    · exact congrArg (callAt .get · "") built
    · exact congrArg (callAt .delete · "") built
    · exact congrArg (callAt .post · body) (written.trans built)
  same_iff := path_eq_iff whole wholeToo
  unique := by
    intro same slashes routings
    have flipped : other.SameSlashes target := ⟨slashes.index.symm, slashes.docType.symm⟩
    rcases (path_eq_iff whole wholeToo).mp same with ⟨joined, values⟩ | swallows | swallows
    · rw [← String.append_empty (s := other.place)] at joined
      obtain ⟨indexes, types, ids⟩ := slashes.parts_eq joined
      exact ⟨indexes, types, by rwa [String.append_empty] at ids, values⟩
    · rcases routings with both | ⟨unmarked, _⟩
      · exact absurd (both.mp swallows.1) swallows.2.1
      · exact absurd (swallows.mem_id slashes) unmarked
    · rcases routings with both | ⟨_, unmarked⟩
      · exact absurd (both.mpr swallows.1) swallows.2.1
      · exact absurd (swallows.mem_id flipped) unmarked

/-- An index with a slash, and an id that ends like a routing parameter. -/
theorem address_unique_taken :
    let target : Target := ⟨"a/b", "c", "d?routing=e", none⟩
    let other : Target := ⟨"a/b", "c", "d", some "e"⟩
    target.IsWhole ∧ other.IsWhole ∧ AddressLaw target other ∧ target.path = other.path :=
  ⟨⟨by decide, by decide, by decide⟩, ⟨by decide, by decide, by decide⟩,
    address_unique ⟨by decide, by decide, by decide⟩ ⟨by decide, by decide, by decide⟩, rfl⟩

/-- The path does not say which document is meant: a slash may belong to the index or to the
type. -/
theorem path_ambiguous :
    ¬ ∀ (index docType id index' docType' id' : String) (routing routing' : Option String),
      index ≠ "" → docType ≠ "" → id ≠ "" → index' ≠ "" → docType' ≠ "" → id' ≠ "" →
      Documents.path index docType id routing = Documents.path index' docType' id' routing' →
        index = index' ∧ docType = docType' ∧ id = id' ∧
          routing.getD "" = routing'.getD "" := by
  intro unique
  have same : Documents.path "a/b" "c" "d" none = Documents.path "a" "b/c" "d" none := rfl
  obtain ⟨indexes, _⟩ := unique "a/b" "c" "d" "a" "b/c" "d" none none (by decide) (by decide)
    (by decide) (by decide) (by decide) (by decide) same
  exact absurd indexes (by decide)

end Target
end ClusterClient.Documents
