import ClusterClient.Proofs.Json.Acceptance
import ClusterClient.Proofs.Json.Comparing

/-! # What a text says and what is read from it

By the grammar alone a text says a meaning (`ClusterClient.Says`). What is read from it is this
meaning with its numbers as they are compared, if the text is within the limits of the reader
(`ClusterClient.read_iff`): containers nested at most `ClusterClient.Reading.depthLimit` deep and
numerals that have values.
-/

namespace ClusterClient

namespace Doc

/-- What the reader takes: containers that are not nested too deep and numerals with values. -/
structure Readable (document : Doc) : Prop where
  shallow : document.depth ≤ Reading.depthLimit
  numerals : ∀ n : Numeral, document.Has n → ∃ value, n.value? = some value

mutual

/-- A document is read if its numerals have values. -/
theorem json?_isSome : ∀ {document : Doc},
    (∀ n : Numeral, .number n ∈ document.lexemes → ∃ value, n.value? = some value) →
      ∃ value, document.json? = some value
  | .null, _ => ⟨_, rfl⟩
  | .bool _, _ => ⟨_, rfl⟩
  | .text _, _ => ⟨_, rfl⟩
  | .number n, numerals => by
      obtain ⟨value, found⟩ := numerals n (List.mem_singleton_self _)
      exact ⟨.number value, by rw [json?, found]; rfl⟩
  | .array [], _ => ⟨_, rfl⟩
  | .object [], _ => ⟨_, rfl⟩
  | .array (item :: items), numerals => by
      obtain ⟨first, own⟩ : ∃ value, item.json? = some value := json?_isSome fun n member =>
        numerals n (by simp [lexemes, member])
      obtain ⟨held, others⟩ : ∃ held, itemsJson? items = some held :=
        itemsJson?_isSome fun n member => numerals n (by simp [lexemes, member])
      exact ⟨.array (first :: held), by rw [json?, itemsJson?, own, others]; rfl⟩
  | .object ((key, value) :: members), numerals => by
      obtain ⟨first, own⟩ : ∃ held, value.json? = some held := json?_isSome fun n member =>
        numerals n (by simp [lexemes, member])
      obtain ⟨held, others⟩ :
          ∃ held, membersJson? (Keyed.insert key first []) members = some held :=
        membersJson?_isSome (fun n member => numerals n (by simp [lexemes, member])) _
      exact ⟨.object held, by rw [json?, membersJson?, own]; exact congrArg (Option.map _) others⟩

/-- Items are read if their numerals have values. -/
theorem itemsJson?_isSome : ∀ {items : List Doc},
    (∀ n : Numeral, .number n ∈ itemLexemes items → ∃ value, n.value? = some value) →
      ∃ held, itemsJson? items = some held
  | [], _ => ⟨_, rfl⟩
  | item :: items, numerals => by
      obtain ⟨first, own⟩ : ∃ value, item.json? = some value := json?_isSome fun n member =>
        numerals n (by simp [itemLexemes, member])
      obtain ⟨held, others⟩ : ∃ held, itemsJson? items = some held :=
        itemsJson?_isSome fun n member => numerals n (by simp [itemLexemes, member])
      exact ⟨first :: held, by rw [itemsJson?, own, others]; rfl⟩

/-- Members are read if their numerals have values, whatever stands before them. -/
theorem membersJson?_isSome : ∀ {members : List (String × Doc)},
    (∀ n : Numeral, .number n ∈ memberLexemes members → ∃ value, n.value? = some value) →
      ∀ before : Members, ∃ held, membersJson? before members = some held
  | [], _, _ => ⟨_, rfl⟩
  | (key, value) :: members, numerals, before => by
      obtain ⟨first, own⟩ : ∃ held, value.json? = some held := json?_isSome fun n member =>
        numerals n (by simp [memberLexemes, member])
      obtain ⟨held, others⟩ : ∃ held, membersJson? (before.insert key first) members = some held :=
        membersJson?_isSome (fun n member => numerals n (by simp [memberLexemes, member])) _
      exact ⟨held, by rw [membersJson?, own]; exact others⟩

end

end Doc

/-- What a text says by the grammar, with all digits of its numerals. -/
def Says (text : String) (meaning : Meaning) : Prop :=
  ∃ document : Doc, document.Spells text ∧ document.meaning Numeral.exact = meaning

/-- What is read from a text within the limits of the reader: what the text says, with its numerals
as they are compared. -/
def Read (text : String) (meaning : Meaning) : Prop :=
  ∃ document : Doc, document.Spells text ∧ document.Readable ∧
    document.meaning Numeral.held = meaning ∧ ∀ n : Numeral, document.Has n → n.Held n.held

/-- **What is read** is the meaning of the value that the reader returns. -/
theorem read_iff {text : String} {meaning : Meaning} :
    Read text meaning ↔
      ∃ value, Json.parse? text = some value ∧ value.meaning JsonNumber.worth = meaning := by
  constructor
  · rintro ⟨document, spells, readable, rfl, _⟩
    obtain ⟨value, found⟩ := Doc.json?_isSome readable.numerals
    have parsed := Json.parse?_eq_some_iff.mpr ⟨document, spells, found, readable.shallow⟩
    exact ⟨value, parsed, Doc.meaning_of_json? found⟩
  · rintro ⟨value, parsed, rfl⟩
    obtain ⟨document, spells, found, shallow⟩ := Json.parse?_eq_some_iff.mp parsed
    have numerals := Doc.value?_of_json? found
    refine ⟨document, spells, ⟨shallow, numerals⟩, (Doc.meaning_of_json? found).symm, ?_⟩
    intro n has
    obtain ⟨spelling, spelled⟩ := Spelled.lexeme spells _ has
    obtain ⟨number, own⟩ := numerals n has
    cases spelled with
    | number spelled => exact Numeral.held_spec spelled own

/-- The value of a member, if the meaning is that of an object. -/
def Meaning.member? (key : String) : Meaning → Option Meaning
  | .object member => member key
  | _ => none

namespace Keyed

variable {α : Type} {entries : Keyed α}

/-- The value of a key is that of the first entry with the key. -/
theorem get?_cons (name key : String) (value : α) (entries : Keyed α) :
    get? key ((name, value) :: entries) = if name = key then some value else get? key entries := by
  by_cases same : name = key
  · simp [get?, same]
  · simp [get?, same]

/-- What is found by its key is the last of its key, because there is one only. -/
theorem get?_eq_lastOf (sorted : Sorted entries) (key : String) :
    get? key entries = lastOf entries key := by
  induction entries with
  | nil => rfl
  | cons entry entries ih =>
      obtain ⟨least, rest⟩ := List.pairwise_cons.mp sorted
      rw [get?_cons, lastOf, ih rest]
      by_cases same : entry.1 = key
      · subst same
        rw [lastOf_of_lt least, if_pos rfl, Option.none_or]
      · rw [if_neg same, if_neg same, Option.or_none]

/-- In sorted entries a key has one value at most, and that is the one found. -/
theorem mem_iff_get? (sorted : Sorted entries) {key : String} {value : α} :
    (key, value) ∈ entries ↔ get? key entries = some value := by
  induction entries with
  | nil => exact iff_of_false List.not_mem_nil nofun
  | cons entry entries ih =>
      obtain ⟨least, rest⟩ := List.pairwise_cons.mp sorted
      obtain ⟨name, held⟩ := entry
      rw [List.mem_cons, get?_cons, ih rest]
      by_cases same : name = key
      · subst same
        have none : get? name entries = none := by
          rw [get?_eq_lastOf rest, lastOf_of_lt least]
        rw [none, if_pos rfl, or_iff_left nofun, Prod.mk.injEq, Option.some.injEq,
          eq_comm (a := held)]
        exact and_iff_right rfl
      · have other : (key, value) ≠ (name, held) := fun equal => same (Prod.mk.inj equal).1.symm
        rw [if_neg same]
        exact or_iff_right other

end Keyed

/-- The members of every object in a value stand in the order of their keys. -/
inductive Json.Ordered : Json → Prop
  | null : Ordered .null
  | bool (value : Bool) : Ordered (.bool value)
  | number (value : JsonNumber) : Ordered (.number value)
  | text (value : String) : Ordered (.text value)
  | array {items : List Json} (inside : ∀ item ∈ items, Ordered item) : Ordered (.array items)
  | object {members : Members} (sorted : Keyed.Sorted members)
      (inside : ∀ member ∈ members, Ordered member.2) : Ordered (.object members)

namespace Doc

mutual

/-- What is read from a document is in order. -/
theorem ordered_of_json? : ∀ {document : Doc} {value : Json}, document.json? = some value →
    value.Ordered
  | .null, _, read => by
      cases read
      exact .null
  | .bool value, _, read => by
      cases read
      exact .bool value
  | .text value, _, read => by
      cases read
      exact .text value
  | .number n, _, read => by
      obtain ⟨number, _, rfl⟩ := Option.map_eq_some_iff.mp read
      exact .number number
  | .array items, _, read => by
      obtain ⟨held, found, rfl⟩ := Option.map_eq_some_iff.mp read
      exact .array (ordered_of_itemsJson? found)
  | .object members, _, read => by
      obtain ⟨held, found, rfl⟩ := Option.map_eq_some_iff.mp read
      obtain ⟨sorted, inside⟩ := ordered_of_membersJson? found .nil (List.forall_mem_nil _)
      exact .object sorted inside

/-- The items of a document that is read are ordered. -/
theorem ordered_of_itemsJson? : ∀ {items : List Doc} {held : List Json},
    itemsJson? items = some held → ∀ item ∈ held, item.Ordered
  | [], _, read => by
      cases read
      exact List.forall_mem_nil _
  | item :: items, _, read => by
      obtain ⟨first, found, others⟩ := Option.bind_eq_some_iff.mp read
      obtain ⟨rest, behind, same⟩ := Option.bind_eq_some_iff.mp others
      cases same
      exact List.forall_mem_cons.mpr ⟨ordered_of_json? found, ordered_of_itemsJson? behind⟩

/-- Members are put in order as they are read, one after the other. -/
theorem ordered_of_membersJson? : ∀ {members : List (String × Doc)} {before held : Members},
    membersJson? before members = some held → Keyed.Sorted before →
      (∀ member ∈ before, member.2.Ordered) →
        Keyed.Sorted held ∧ ∀ member ∈ held, member.2.Ordered
  | [], _, _, read, sorted, inside => by
      cases read
      exact ⟨sorted, inside⟩
  | (key, value) :: members, before, _, read, sorted, inside => by
      obtain ⟨first, found, others⟩ := Option.bind_eq_some_iff.mp read
      apply ordered_of_membersJson? others (Keyed.sorted_insert sorted key first)
      intro member inserted
      rcases Keyed.mem_insert inserted with rfl | old
      · exact ordered_of_json? found
      · exact inside member old

end

end Doc

namespace Json

variable {value : Json} {worth : JsonNumber → ℚ}

/-- What is read from a text is ordered. -/
theorem parse?_ordered {text : String} (parsed : parse? text = some value) : value.Ordered := by
  obtain ⟨document, _, found⟩ := parse?_sound parsed
  exact Doc.ordered_of_json? found

/-- The members of an ordered document are ordered. -/
theorem Ordered.get? (ordered : value.Ordered) {key : String} {member : Json}
    (found : value.get? key = some member) : member.Ordered := by
  cases ordered with
  | object sorted inside => exact inside (key, member) ((Keyed.mem_iff_get? sorted).mpr found)
  | _ => cases found

/-- The meaning of an array is that of its items. -/
theorem meaning_array (items : List Json) :
    (Json.array items).meaning worth = .array (items.map (meaning worth)) := by
  have inside : itemMeanings worth items = items.map (meaning worth) := by
    induction items with
    | nil => rfl
    | cons item items ih => rw [itemMeanings, ih, List.map_cons]
  rw [meaning, inside]

/-- An object that is in order means its members by their keys. -/
theorem meaning_object {members : Members} (sorted : Keyed.Sorted members) :
    (Json.object members).meaning worth =
      .object fun key => (Keyed.get? key members).map (meaning worth) := by
  have same : lastOf (memberMeanings worth members) =
      fun key => (Keyed.get? key members).map (meaning worth) := by
    funext key
    rw [memberMeanings_eq, lastOf_map, Keyed.get?_eq_lastOf sorted]
  rw [meaning, same]

/-- Members are found in the meaning as in the value. -/
theorem member?_meaning (ordered : value.Ordered) (worth : JsonNumber → ℚ) (key : String) :
    (value.meaning worth).member? key = (value.get? key).map (meaning worth) := by
  cases ordered with
  | object sorted inside => rw [meaning_object sorted, Meaning.member?, Json.get?]
  | _ => rfl

section Forms

variable {found : Option Json}

/-- Only a boolean means that boolean. -/
theorem map_meaning_eq_bool {flag : Bool} :
    found.map (meaning worth) = some (.bool flag) ↔ found = some (.bool flag) := by
  rcases found with _ | (_ | _ | _ | _ | _ | _) <;> simp [meaning]

/-- Only a text means that text. -/
theorem map_meaning_eq_text {text : String} :
    found.map (meaning worth) = some (.text text) ↔ found = some (.text text) := by
  rcases found with _ | (_ | _ | _ | _ | _ | _) <;> simp [meaning]

/-- Only a number means a number, which is what it is worth. -/
theorem map_meaning_eq_number {x : ℚ} :
    found.map (meaning worth) = some (.number x) ↔
      ∃ number, found = some (.number number) ∧ worth number = x := by
  rcases found with _ | (_ | _ | _ | _ | _ | _) <;> simp [meaning]

/-- Only an array means an array. -/
theorem map_meaning_eq_array {items : List Meaning} :
    found.map (meaning worth) = some (.array items) ↔
      ∃ held, found = some (.array held) ∧ held.map (meaning worth) = items := by
  rcases found with _ | (_ | _ | _ | _ | held | _)
  case some.array =>
    simp only [Option.map_some, Option.some.injEq, meaning_array, Meaning.array.injEq,
      Json.array.injEq, exists_eq_left']
  all_goals simp [meaning]

end Forms

end Json

/-- What is read is an object exactly if the value is one, with the same members. -/
theorem read_object_iff {text : String} {member : String → Option Meaning} :
    Read text (.object member) ↔
      ∃ root : Members, Json.parse? text = some (.object root) ∧ (Json.object root).Ordered ∧
        member = fun key => (Keyed.get? key root).map (Json.meaning JsonNumber.worth) := by
  rw [read_iff]
  constructor
  · rintro ⟨value, parsed, same⟩
    have ordered := Json.parse?_ordered parsed
    cases ordered with
    | @object root sorted inside =>
        rw [Json.meaning_object sorted] at same
        cases same
        exact ⟨root, parsed, .object sorted inside, rfl⟩
    | _ => cases same
  · rintro ⟨root, parsed, ordered, rfl⟩
    refine ⟨_, parsed, ?_⟩
    cases ordered with
    | object sorted inside => exact Json.meaning_object sorted

/-- A numeral that no double can hold. -/
def huge : Numeral := ⟨false, ['1'], none, some (false, ['4', '0', '0'])⟩

/-- The end of an object whose last member is out of range. -/
theorem written_huge :
    Written ([.number huge] ++ [.mark '\x7d']) (['1', 'e', '4', '0', '0'] ++ ['\x7d']) := by
  have spelled : huge.Spelled ['1', 'e', '4', '0', '0'] := Numeral.ofChars?_iff.mp rfl
  exact .append (.lexeme (.number spelled)) (.mark .nil) (led_mark (by decide) _)

end ClusterClient
