/-!
# TOML values and tables

A `TomlValue` is what a document says about a key. While a document is read, its tables are nodes
that remember how they came to be, because TOML lets a table be defined only once: a header may take
up a table that so far only other headers have mentioned, and a dotted key may add to one that only
dotted keys have made.
-/

namespace ClusterClient

/-- A value of a TOML document. A float is kept as no more than that, since no setting is one; a
date or time is kept as its text. -/
inductive TomlValue where
  | text (value : String)
  | whole (value : Int)
  | float
  | bool (value : Bool)
  | moment (value : String)
  | array (items : List TomlValue)
  | table (entries : List (String × TomlValue))
  deriving Repr, Inhabited

/-- A value or a table under construction. -/
inductive TomlNode where
  | value (value : TomlValue)
  /-- A table; `mentioned` says that it was only mentioned so far, `dotted` that dotted keys made
  it. -/
  | table (mentioned dotted : Bool) (entries : List (String × TomlNode))
  /-- An array of tables, the last one first. -/
  | tables (lastFirst : List (List (String × TomlNode)))

namespace TomlNode

mutual

/-- The value that a finished node is. -/
def toValue : TomlNode → TomlValue
  | .value held => held
  | .table _ _ entries => .table (entryValues entries)
  | .tables lastFirst => .array (tableValues lastFirst)

/-- The values of the entries of a finished table. -/
def entryValues : List (String × TomlNode) → List (String × TomlValue)
  | [] => []
  | (key, node) :: rest => (key, toValue node) :: entryValues rest

/-- The tables of a finished array, the first one first. -/
def tableValues : List (List (String × TomlNode)) → List TomlValue
  | [] => []
  | entries :: earlier => tableValues earlier ++ [.table (entryValues entries)]

end

end TomlNode

/-- The entries of a table under construction. -/
abbrev TomlEntries := List (String × TomlNode)

namespace TomlEntries

/-- The node of a key. -/
def find? (key : String) (entries : TomlEntries) : Option TomlNode :=
  (List.find? (fun entry : String × TomlNode => entry.1 == key) entries).map (·.2)

/-- The entries with a key taken out. -/
def erase (key : String) (entries : TomlEntries) : TomlEntries :=
  List.filter (fun entry : String × TomlNode => entry.1 != key) entries

/-- The entries with a new node for a key. -/
def put (key : String) (node : TomlNode) (entries : TomlEntries) : TomlEntries :=
  entries.erase key ++ [(key, node)]

/-- Changes the table at a path and gives back what the change finds there. Tables that are missing
are made; an array of tables stands for its last table. Dotted keys do not enter a table that a
header has defined. The change is told whether the table was made by dotted keys. -/
def alterAt {α : Type} (byDots : Bool) (change : Bool → TomlEntries → Option (α × TomlEntries)) :
    List String → Bool → TomlEntries → Option (α × TomlEntries)
  | [], dotted, entries => change dotted entries
  | key :: path, _, entries =>
    match entries.find? key with
    | none => do
      let (found, inner) ← alterAt byDots change path byDots []
      return (found, entries.put key (.table true byDots inner))
    | some (.value _) => none
    | some (.tables []) => none
    | some (.tables (last :: earlier)) => do
      let (found, inner) ← alterAt byDots change path false last
      return (found, entries.put key (.tables (inner :: earlier)))
    | some (.table mentioned dotted held) =>
      if byDots && !mentioned then none
      else do
        let (found, inner) ← alterAt byDots change path dotted held
        return (found, entries.put key (.table mentioned dotted inner))

/-- Puts a node made from the one that is there under the last key of a path of table names. -/
def placeAt (place : List String) (node : Option TomlNode → Option TomlNode)
    (entries : TomlEntries) : Option TomlEntries := do
  let key ← place.getLast?
  let change (_ : Bool) (held : TomlEntries) : Option (Unit × TomlEntries) :=
    (node (held.find? key)).map fun made => ((), held.put key made)
  let (_, entries) ← alterAt false change place.dropLast false entries
  return entries

/-- The entries with one defined by a key, dotted or not. The table it lands in must have been made
by dotted keys exactly if the key is dotted, and must not have it already. -/
def define (path : List String) (key : String) (value : TomlValue) (entries : TomlEntries) :
    Option TomlEntries := do
  let change (dotted : Bool) (held : TomlEntries) : Option (Unit × TomlEntries) :=
    if dotted == path.isEmpty || (held.find? key).isSome then none
    else some ((), held.put key (.value value))
  let (_, entries) ← alterAt true change path false entries
  return entries

end TomlEntries

/-- A document under construction: the tables that are finished, and the one that entries go to,
with its place and whether it is a new item of an array of tables. -/
structure TomlDocument where
  root : TomlEntries
  current : TomlEntries
  place : List String
  isItem : Bool

namespace TomlDocument

/-- The document before its first line. -/
def empty : TomlDocument := ⟨[], [], [], false⟩

/-- The tables of the document with the current one put in its place. -/
def close (d : TomlDocument) : Option TomlEntries :=
  if d.place.isEmpty then some d.current
  else if d.isItem then
    d.root.placeAt d.place fun
      | none => some (.tables [d.current])
      | some (.tables earlier) => some (.tables (d.current :: earlier))
      | some _ => none
  else
    d.root.placeAt d.place fun
      | none => some (.table false false d.current)
      | some (.table true _ _) => some (.table false false d.current)
      | some _ => none

/-- The document behind the header of a table, which may have been mentioned before but not
defined. -/
def openTable (place : List String) (d : TomlDocument) : Option TomlDocument := do
  let root ← d.close
  let key ← place.getLast?
  let take (_ : Bool) (held : TomlEntries) : Option (TomlEntries × TomlEntries) :=
    match held.find? key with
    | none => some ([], held)
    | some (.table true false entries) => some (entries, held.erase key)
    | some _ => none
  let (current, root) ← root.alterAt false take place.dropLast false
  return ⟨root, current, place, false⟩

/-- The document behind the header of an item of an array of tables. -/
def openItem (place : List String) (d : TomlDocument) : Option TomlDocument := do
  let root ← d.close
  let root ← root.placeAt place fun
    | none => some (.tables [])
    | some (.tables earlier) => some (.tables earlier)
    | some _ => none
  return ⟨root, [], place, true⟩

/-- The document with an entry added to the current table. -/
def define (path : List String) (key : String) (value : TomlValue) (d : TomlDocument) :
    Option TomlDocument := do
  let current ← d.current.define path key value
  return { d with current }

/-- The entries of the whole document. -/
def finish (d : TomlDocument) : Option (List (String × TomlValue)) :=
  d.close.map TomlNode.entryValues

end TomlDocument
end ClusterClient
