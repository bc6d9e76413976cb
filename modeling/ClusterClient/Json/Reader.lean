import ClusterClient.Json.Token

/-!
# Reading a JSON text

The tokens of a text drive a pushdown automaton: `Reading` is what it expects next together with the
containers that are still open, `Reading.step` one token. A text is accepted when its tokens leave
one finished document and nothing open. At most `Reading.depthLimit` containers may be open at once.
-/

namespace ClusterClient

/-- An open container: the items before the one being read, last first, or the members before the
one being read and its key. -/
inductive OpenContainer where
  | array (before : List Json)
  | object (before : Members) (key : String)

/-- What must come next, with the open containers, innermost first. -/
inductive Reading where
  /-- A value. -/
  | expectValue (stack : List OpenContainer)
  /-- A value or the end of an array that was just opened. -/
  | expectItem (stack : List OpenContainer)
  /-- A key or the end of an object that was just opened. -/
  | expectFirstKey (stack : List OpenContainer)
  /-- A key. -/
  | expectKey (before : Members) (stack : List OpenContainer)
  /-- The colon behind a key. -/
  | expectColon (before : Members) (key : String) (stack : List OpenContainer)
  /-- A comma or the end of the innermost container, after a finished value. -/
  | finished (value : Json) (stack : List OpenContainer)

namespace Reading

/-- How many containers may be open at once. -/
def depthLimit : Nat := 127

/-- The document that is a token by itself. -/
def scalar? : Token → Option Json
  | .null => some .null
  | .bool value => some (.bool value)
  | .number value => some (.number value)
  | .text value => some (.text value)
  | _ => none

/-- The start of a value. -/
def startValue (stack : List OpenContainer) (token : Token) : Option Reading :=
  match token with
  | .openArray => if stack.length < depthLimit then some (.expectItem stack) else none
  | .openObject => if stack.length < depthLimit then some (.expectFirstKey stack) else none
  | token => (scalar? token).map (.finished · stack)

/-- The token behind a finished value. -/
def afterValue (value : Json) : List OpenContainer → Token → Option Reading
  | .array before :: stack, .comma => some (.expectValue (.array (value :: before) :: stack))
  | .array before :: stack, .closeArray =>
    some (.finished (.array (value :: before).reverse) stack)
  | .object before key :: stack, .comma => some (.expectKey (before.insert key value) stack)
  | .object before key :: stack, .closeObject =>
    some (.finished (.object (before.insert key value)) stack)
  | _, _ => none

/-- One token. -/
def step : Reading → Token → Option Reading
  | .expectValue stack, token => startValue stack token
  | .expectItem stack, .closeArray => some (.finished (.array []) stack)
  | .expectItem stack, token => startValue (.array [] :: stack) token
  | .expectFirstKey stack, .closeObject => some (.finished (.object []) stack)
  | .expectFirstKey stack, .text key => some (.expectColon [] key stack)
  | .expectKey before stack, .text key => some (.expectColon before key stack)
  | .expectColon before key stack, .colon =>
    some (.expectValue (.object before key :: stack))
  | .finished value stack, token => afterValue value stack token
  | _, _ => none

/-- The document, if one is finished and no container is open. -/
def result? : Reading → Option Json
  | .finished value [] => some value
  | _ => none

end Reading

namespace Json

/-- The document that a list of tokens spells. -/
def ofTokens? (tokens : List Token) : Option Json := do
  let reading ← tokens.foldlM Reading.step (.expectValue [])
  reading.result?

/-- The document that a text spells. -/
def parse? (text : String) : Option Json := do
  ofTokens? (← Token.ofChars? text.toList)

end Json
end ClusterClient
