import ClusterClient.Exchange

/-!
# Documents

The paths under which documents are found, and the requests for one document and for a search. The
parts of an address are joined by slashes as they are given; only a routing value is encoded. A
request for a document whose address lacks a part is refused before anything is sent.
-/

/-! ## Form encoding

A value is made fit for a query: each byte of its UTF-8 form that is not a letter, a digit or one of
`*`, `-`, `.` and `_` becomes a percent sign and two hexadecimal digits, except that a space becomes
a plus sign.
-/

namespace ClusterClient.Form

/-- The upper-case hexadecimal digit of a value below sixteen. -/
def upperHexDigit (n : Nat) : Char := if n < 10 then Char.ofNat (48 + n) else Char.ofNat (55 + n)

/-- A byte that stands for itself: an ASCII letter or digit, `*`, `-`, `.` or `_`. -/
def isPlain (byte : UInt8) : Bool :=
  let n := byte.toNat
  decide (48 ≤ n ∧ n ≤ 57) || decide (65 ≤ n ∧ n ≤ 90) || decide (97 ≤ n ∧ n ≤ 122)
    || n == 42 || n == 45 || n == 46 || n == 95

/-- The characters for one byte. -/
def encodeByte (byte : UInt8) : List Char :=
  if isPlain byte then [Char.ofNat byte.toNat]
  else if byte = 32 then ['+']
  else ['%', upperHexDigit (byte.toNat / 16), upperHexDigit (byte.toNat % 16)]

/-- The characters for one character of a value. -/
def encodeChar (c : Char) : List Char := (String.utf8EncodeChar c).flatMap encodeByte

/-- The encoded form of a value. -/
def encode (value : String) : String := String.ofList (value.toList.flatMap encodeChar)

end ClusterClient.Form

/-! ## Paths and requests -/

namespace ClusterClient.Documents

/-- A part of an address that must not be empty. -/
def required (part : AddressPart) (value : String) : Except ClientError String :=
  if value.isEmpty then .error (.missingPart part) else .ok value

/-- The path of the documents of a type. -/
def typePath (index docType : String) : Except ClientError String := do
  let index ← required .index index
  let docType ← required .docType docType
  return index ++ "/" ++ docType ++ "/"

/-- The parameter for a routing value; an empty one is left out. -/
def routingQuery (routing : Option String) : String :=
  match routing with
  | none => ""
  | some value => if value.isEmpty then "" else "?routing=" ++ Form.encode value

/-- The path of one document. -/
def path (index docType id : String) (routing : Option String) : Except ClientError String := do
  let documents ← typePath index docType
  let id ← required .id id
  return documents ++ id ++ routingQuery routing

/-- The path to which a document is written; without an id the cluster finds one. -/
def targetPath (index docType : String) (id routing : Option String) : Except ClientError String :=
  match id with
  | none => newPath
  | some id => if id.isEmpty then newPath else path index docType id routing
where
  /-- The path for a document without an id. -/
  newPath : Except ClientError String :=
    (typePath index docType).map (· ++ routingQuery routing)

/-- A part of a search path that may be left out. -/
def optionalPart (part : Option String) : String :=
  match part with
  | none => ""
  | some value => if value.isEmpty then "" else value ++ "/"

/-- The path of a search in an index and a type, both of which may be left out. -/
def searchPath (index docType routing : Option String) : String :=
  optionalPart index ++ optionalPart docType ++ "_search" ++ routingQuery routing

/-- Sends a request to a path, if there is one. -/
def callAt (method : Method) (path : Except ClientError String) (body : String) :
    Exchange Reply :=
  match path with
  | .error error => .done (.error error)
  | .ok path => .call method path body

/-- Fetches a document. -/
def get (index docType id : String) (routing : Option String) : Exchange Reply :=
  callAt .get (path index docType id routing) ""

/-- Deletes a document. -/
def remove (index docType id : String) (routing : Option String) : Exchange Reply :=
  callAt .delete (path index docType id routing) ""

/-- Writes a document. -/
def index (index docType : String) (id : Option String) (body : String)
    (routing : Option String) : Exchange Reply :=
  callAt .post (targetPath index docType id routing) body

/-- Searches for documents. -/
def search (index docType : Option String) (body : String) (routing : Option String) :
    Exchange Reply :=
  .call .post (searchPath index docType routing) body

end ClusterClient.Documents
