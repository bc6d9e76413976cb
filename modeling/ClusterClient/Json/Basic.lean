import ClusterClient.Number.Double

/-!
# Values by key and JSON values

Values by key are held in strictly increasing order of the keys. `Keyed.insert` keeps the order and
lets a new value replace the one of the same key, so equal contents are equal lists.

A document is a tree. The members of an object are values by key, so that two documents with the
same members are the same value and a later member replaces an earlier one of its name.
-/

namespace ClusterClient

/-- Keys with their values, in increasing order of the keys. -/
abbrev Keyed (α : Type) := List (String × α)

namespace Keyed

variable {α : Type}

/-- The entries with one added; an entry of the same key gives way to it. -/
def insert (key : String) (value : α) : Keyed α → Keyed α
  | [] => [(key, value)]
  | (other, held) :: rest =>
    if key < other then (key, value) :: (other, held) :: rest
    else if key = other then (key, value) :: rest
    else (other, held) :: insert key value rest

/-- The value of a key. -/
def get? (key : String) (entries : Keyed α) : Option α :=
  (entries.find? fun entry => entry.1 == key).map (·.2)

/-- The entries of a list in any order, of which a later one of the same key wins. -/
def ofList (entries : List (String × α)) : Keyed α :=
  entries.foldl (fun held entry => insert entry.1 entry.2 held) []

end Keyed
/-- A number of a document: a whole number between `-2 ^ 63` and `2 ^ 64 - 1`, or a double. -/
inductive JsonNumber where
  | whole (value : Int)
  | double (value : Double)
  deriving DecidableEq, Repr

/-- A JSON document. -/
inductive Json where
  | null
  | bool (value : Bool)
  | number (value : JsonNumber)
  | text (value : String)
  | array (items : List Json)
  | object (members : List (String × Json))
  deriving Repr, Inhabited

/-- The members of an object. -/
abbrev Members := Keyed Json

namespace JsonNumber

/-- The number as a double. -/
def toDouble : JsonNumber → Double
  | .whole n => Double.ofInt n
  | .double d => d

/-- The value of a whole number that is not negative. -/
def natural? : JsonNumber → Option Nat
  | .whole (.ofNat n) => some n
  | _ => none

end JsonNumber

namespace Json

/-- The value of a member, if the document is an object that has it. -/
def get? (key : String) : Json → Option Json
  | .object members => Keyed.get? key members
  | _ => none

/-- The members, if the document is an object. -/
def members? : Json → Option Members
  | .object members => some members
  | _ => none

/-- The items, if the document is an array. -/
def items? : Json → Option (List Json)
  | .array items => some items
  | _ => none

/-- The text, if the document is one. -/
def text? : Json → Option String
  | .text value => some value
  | _ => none

/-- The number, if the document is one. -/
def number? : Json → Option JsonNumber
  | .number value => some value
  | _ => none

/-- The whole number that the document is, if it is not negative. -/
def natural? (document : Json) : Option Nat := document.number?.bind JsonNumber.natural?

/-- The object of the given members; a later one of the same key wins. -/
def ofMembers (members : List (String × Json)) : Json :=
  .object (Keyed.ofList members)

end Json
end ClusterClient
