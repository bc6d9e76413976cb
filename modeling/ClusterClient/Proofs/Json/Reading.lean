import ClusterClient.Json.Reader
import ClusterClient.Proofs.Json.Scanning

/-! # What is read is written

The reader puts the lexemes of documents together: each of its states stands for lexemes of a
document that is not finished (`ClusterClient.Reading.Represents`), and each token adds its lexeme
(`ClusterClient.Reading.represents_step`). So a text from which a document is read spells a document
whose parts are the ones read (`ClusterClient.Json.parse?_sound`).
-/

namespace ClusterClient

namespace Doc

mutual

/-- What is read from a document as it is written, if its numerals have values. -/
def json? : Doc → Option Json
  | .null => some .null
  | .bool value => some (.bool value)
  | .number n => n.value?.map .number
  | .text value => some (.text value)
  | .array items => (itemsJson? items).map .array
  | .object members => (membersJson? [] members).map .object

/-- What is read from the items of an array. -/
def itemsJson? : List Doc → Option (List Json)
  | [] => some []
  | item :: items => do
    let first ← json? item
    return first :: (← itemsJson? items)

/-- What is read from the members of an object behind others. -/
def membersJson? (held : Members) : List (String × Doc) → Option Members
  | [] => some held
  | (key, value) :: members => do
    let first ← json? value
    membersJson? (held.insert key first) members

end

/-- One more item is read behind the others. -/
theorem itemsJson?_concat {items : List Doc} {item : Doc} {held : List Json} {value : Json}
    (front : itemsJson? items = some held) (last : item.json? = some value) :
    itemsJson? (items ++ [item]) = some (held ++ [value]) := by
  induction items generalizing held with
  | nil =>
      cases front
      simp only [List.nil_append, itemsJson?, last]
      rfl
  | cons first items ih =>
      obtain ⟨json, read, others⟩ := Option.bind_eq_some_iff.mp front
      obtain ⟨rest, found, same⟩ := Option.bind_eq_some_iff.mp others
      cases same
      simp only [List.cons_append, itemsJson?, read, ih found]
      rfl

/-- One more member is read behind the others, and replaces an earlier one of its name. -/
theorem membersJson?_concat {members : List (String × Doc)} {key : String} {document : Doc}
    {before held : Members} {value : Json} (front : membersJson? before members = some held)
    (last : document.json? = some value) :
    membersJson? before (members ++ [(key, document)]) = some (held.insert key value) := by
  induction members generalizing before with
  | nil =>
      cases front
      simp only [List.nil_append, membersJson?, last]
      rfl
  | cons first members ih =>
      obtain ⟨json, read, others⟩ := Option.bind_eq_some_iff.mp front
      simp only [List.cons_append, membersJson?, read]
      exact ih others

/-- The lexemes of an array up to an item, behind the given ones. -/
def arrayFront (before : List Doc) : List Lexeme :=
  .mark '[' :: before.flatMap fun item => item.lexemes ++ [.mark ',']

/-- The lexemes of an object up to a key, behind the given members. -/
def objectFront (before : List (String × Doc)) : List Lexeme :=
  .mark '\x7b' ::
    before.flatMap fun member => .text member.1 :: .mark ':' :: (member.2.lexemes ++ [.mark ','])

/-- The items behind a first one, with a comma behind each, are the items with a comma before each.
-/
theorem itemLexemes_concat (items : List Doc) (item : Doc) :
    .mark ',' :: (items.flatMap (fun item => item.lexemes ++ [.mark ',']) ++ item.lexemes) =
      itemLexemes (items ++ [item]) := by
  induction items with
  | nil => simp only [List.flatMap_nil, List.nil_append, itemLexemes, List.append_nil]
  | cons first items ih =>
      simp only [List.flatMap_cons, List.cons_append, itemLexemes, ← ih, List.append_assoc,
        List.nil_append]

/-- The front of an array, a last item and the bracket are the whole array. -/
theorem lexemes_array (before : List Doc) (item : Doc) :
    arrayFront before ++ (item.lexemes ++ [.mark ']']) =
      (Doc.array (before ++ [item])).lexemes := by
  cases before with
  | nil =>
      simp only [arrayFront, List.flatMap_nil, List.nil_append, lexemes, itemLexemes,
        List.cons_append]
  | cons first before =>
      simp only [arrayFront, List.flatMap_cons, List.cons_append, lexemes, ← itemLexemes_concat,
        List.append_assoc, List.nil_append]

/-- The members behind a first one, with a comma behind each, are the members with a comma before
each. -/
theorem memberLexemes_concat (members : List (String × Doc)) (key : String) (value : Doc) :
    .mark ',' ::
        (members.flatMap (fun member =>
            .text member.1 :: .mark ':' :: (member.2.lexemes ++ [.mark ','])) ++
          .text key :: .mark ':' :: value.lexemes) =
      memberLexemes (members ++ [(key, value)]) := by
  induction members with
  | nil => simp only [List.flatMap_nil, List.nil_append, memberLexemes, List.append_nil]
  | cons first members ih =>
      simp only [List.flatMap_cons, List.cons_append, memberLexemes, ← ih, List.append_assoc,
        List.nil_append]

/-- The front of an object, a last member and the brace are the whole object. -/
theorem lexemes_object (before : List (String × Doc)) (key : String) (value : Doc) :
    objectFront before ++ (.text key :: .mark ':' :: (value.lexemes ++ [.mark '\x7d'])) =
      (Doc.object (before ++ [(key, value)])).lexemes := by
  cases before with
  | nil =>
      simp only [objectFront, List.flatMap_nil, List.nil_append, lexemes, memberLexemes,
        List.cons_append]
  | cons first before =>
      simp only [objectFront, List.flatMap_cons, List.cons_append, lexemes, ← memberLexemes_concat,
        List.append_assoc, List.nil_append]

/-- An item and a comma make the front of an array longer. -/
theorem arrayFront_concat (before : List Doc) (item : Doc) :
    arrayFront before ++ (item.lexemes ++ [.mark ',']) = arrayFront (before ++ [item]) := by
  simp only [arrayFront, List.flatMap_append, List.flatMap_cons, List.flatMap_nil,
    List.append_nil, List.cons_append]

/-- A member and a comma make the front of an object longer. -/
theorem objectFront_concat (before : List (String × Doc)) (key : String) (value : Doc) :
    objectFront before ++ (.text key :: .mark ':' :: (value.lexemes ++ [.mark ','])) =
      objectFront (before ++ [(key, value)]) := by
  simp only [objectFront, List.flatMap_append, List.flatMap_cons, List.flatMap_nil,
    List.append_nil, List.cons_append]

end Doc

namespace Reading

open Doc

/-- The containers that are open behind lexemes. -/
inductive Opened : List OpenContainer → List Lexeme → Prop
  | nil : Opened [] []
  | array {stack : List OpenContainer} {lexemes : List Lexeme} {before : List Doc}
      {held : List Json} (outer : Opened stack lexemes) (read : itemsJson? before = some held) :
      Opened (.array held.reverse :: stack) (lexemes ++ arrayFront before)
  | object {stack : List OpenContainer} {lexemes : List Lexeme} {before : List (String × Doc)}
      {held : Members} (outer : Opened stack lexemes) (read : membersJson? [] before = some held)
      (key : String) :
      Opened (.object held key :: stack)
        (lexemes ++ (objectFront before ++ [.text key, .mark ':']))

/-- What the reader is in behind lexemes. -/
inductive Represents : Reading → List Lexeme → Prop
  | expectValue {stack : List OpenContainer} {lexemes : List Lexeme}
      (outer : Opened stack lexemes) : Represents (.expectValue stack) lexemes
  | expectItem {stack : List OpenContainer} {lexemes : List Lexeme}
      (outer : Opened stack lexemes) :
      Represents (.expectItem stack) (lexemes ++ [.mark '['])
  | expectFirstKey {stack : List OpenContainer} {lexemes : List Lexeme}
      (outer : Opened stack lexemes) :
      Represents (.expectFirstKey stack) (lexemes ++ [.mark '\x7b'])
  | expectKey {stack : List OpenContainer} {lexemes : List Lexeme} {before : List (String × Doc)}
      {held : Members} (outer : Opened stack lexemes) (read : membersJson? [] before = some held) :
      Represents (.expectKey held stack) (lexemes ++ objectFront before)
  | expectColon {stack : List OpenContainer} {lexemes : List Lexeme}
      {before : List (String × Doc)} {held : Members} (outer : Opened stack lexemes)
      (read : membersJson? [] before = some held) (key : String) :
      Represents (.expectColon held key stack) (lexemes ++ (objectFront before ++ [.text key]))
  | finished {stack : List OpenContainer} {lexemes : List Lexeme} {document : Doc} {value : Json}
      (outer : Opened stack lexemes) (read : document.json? = some value) :
      Represents (.finished value stack) (lexemes ++ document.lexemes)

/-- The token that starts a value is the lexeme behind what was read. -/
theorem represents_start {stack : List OpenContainer} {lexemes : List Lexeme} {lexeme : Lexeme}
    {token : Token} {next : Reading} (outer : Opened stack lexemes) (reads : lexeme.Reads token)
    (started : startValue stack token = some next) : Represents next (lexemes ++ [lexeme]) := by
  cases reads with
  | openArray =>
      simp only [startValue] at started
      split_ifs at started
      cases started
      exact .expectItem outer
  | openObject =>
      simp only [startValue] at started
      split_ifs at started
      cases started
      exact .expectFirstKey outer
  | closeArray | closeObject | comma | colon => cases started
  | null =>
      cases started
      exact .finished outer (rfl : Doc.null.json? = some .null)
  | bool value =>
      cases started
      exact .finished outer (rfl : (Doc.bool value).json? = some (.bool value))
  | text value =>
      cases started
      exact .finished outer (rfl : (Doc.text value).json? = some (.text value))
  | @number n value found =>
      cases started
      have read : (Doc.number n).json? = some (.number value) := by
        rw [json?, found]
        rfl
      exact .finished outer read

/-- The token behind a value is the lexeme behind that of the value. -/
theorem represents_after {stack : List OpenContainer} {lexemes : List Lexeme} {document : Doc}
    {value : Json} {lexeme : Lexeme} {token : Token} {next : Reading}
    (outer : Opened stack lexemes) (read : document.json? = some value)
    (reads : lexeme.Reads token) (moved : afterValue value stack token = some next) :
    Represents next (lexemes ++ document.lexemes ++ [lexeme]) := by
  cases outer with
  | nil => cases moved
  | @array _ lexemes before held outer front =>
      have items := itemsJson?_concat front read
      cases reads with
      | comma =>
          cases moved
          rw [List.append_assoc, List.append_assoc, arrayFront_concat, ← List.reverse_concat]
          exact .expectValue (.array outer items)
      | closeArray =>
          cases moved
          rw [List.append_assoc, List.append_assoc, lexemes_array, List.reverse_cons,
            List.reverse_reverse]
          have whole : (Doc.array (before ++ [document])).json? =
              some (.array (held ++ [value])) := by
            rw [json?, items]
            rfl
          exact .finished outer whole
      | _ => cases moved
  | @object _ lexemes before held outer front key =>
      have members : membersJson? [] (before ++ [(key, document)]) = some (held.insert key value) :=
        membersJson?_concat front read
      cases reads with
      | comma =>
          cases moved
          simp only [List.append_assoc, List.cons_append, List.nil_append]
          rw [objectFront_concat]
          exact .expectKey outer members
      | closeObject =>
          cases moved
          simp only [List.append_assoc, List.cons_append, List.nil_append]
          rw [lexemes_object]
          have whole : (Doc.object (before ++ [(key, document)])).json? =
              some (.object (held.insert key value)) := by
            rw [json?, members]
            rfl
          exact .finished outer whole
      | _ => cases moved

/-- An array that is opened has an empty front. -/
theorem opened_array {stack : List OpenContainer} {lexemes : List Lexeme}
    (outer : Opened stack lexemes) : Opened (.array [] :: stack) (lexemes ++ [.mark '[']) :=
  .array outer (rfl : itemsJson? [] = some [])

/-- An empty container is finished as soon as it is opened. -/
theorem represents_empty {stack : List OpenContainer} {lexemes : List Lexeme}
    (outer : Opened stack lexemes) :
    Represents (.finished (.array []) stack) (lexemes ++ [.mark '['] ++ [.mark ']']) ∧
      Represents (.finished (.object []) stack) (lexemes ++ [.mark '\x7b'] ++ [.mark '\x7d']) := by
  rw [List.append_assoc, List.append_assoc]
  exact ⟨.finished outer (rfl : (Doc.array []).json? = some (.array [])),
    .finished outer (rfl : (Doc.object []).json? = some (.object []))⟩

/-- **One token.** -/
theorem represents_step {reading next : Reading} {lexemes : List Lexeme} {lexeme : Lexeme}
    {token : Token} (represents : Represents reading lexemes) (reads : lexeme.Reads token)
    (stepped : step reading token = some next) : Represents next (lexemes ++ [lexeme]) := by
  cases represents with
  | expectValue outer => exact represents_start outer reads stepped
  | expectItem outer =>
      cases reads with
      | closeArray =>
          cases stepped
          exact (represents_empty outer).1
      -- Any other token starts the first item of an array that has none yet.
      | openArray => exact represents_start (opened_array outer) .openArray stepped
      | openObject => exact represents_start (opened_array outer) .openObject stepped
      | closeObject => exact represents_start (opened_array outer) .closeObject stepped
      | comma => exact represents_start (opened_array outer) .comma stepped
      | colon => exact represents_start (opened_array outer) .colon stepped
      | null => exact represents_start (opened_array outer) .null stepped
      | bool value => exact represents_start (opened_array outer) (.bool value) stepped
      | number found => exact represents_start (opened_array outer) (.number found) stepped
      | text value => exact represents_start (opened_array outer) (.text value) stepped
  | expectFirstKey outer =>
      cases reads with
      | closeObject =>
          cases stepped
          exact (represents_empty outer).2
      | text key =>
          cases stepped
          rw [List.append_assoc]
          exact .expectColon outer (rfl : membersJson? [] [] = some []) key
      | _ => cases stepped
  | expectKey outer read =>
      cases reads with
      | text key =>
          cases stepped
          rw [List.append_assoc]
          exact .expectColon outer read key
      | _ => cases stepped
  | expectColon outer read key =>
      cases reads with
      | colon =>
          cases stepped
          have front := Opened.object outer read key
          simp only [List.append_assoc, List.cons_append, List.nil_append] at front ⊢
          exact .expectValue front
      | _ => cases stepped
  | finished outer read => exact represents_after outer read reads stepped

/-- All tokens. -/
theorem represents_run {reading last : Reading} {before lexemes : List Lexeme}
    {tokens : List Token} (represents : Represents reading before)
    (reads : List.Forall₂ Lexeme.Reads lexemes tokens)
    (run : tokens.foldlM step reading = some last) : Represents last (before ++ lexemes) := by
  induction reads generalizing reading before with
  | nil =>
      cases run
      rwa [List.append_nil]
  | cons first others ih =>
      rw [List.foldlM_cons] at run
      obtain ⟨next, stepped, run⟩ := Option.bind_eq_some_iff.mp run
      have whole := ih (represents_step represents first stepped) run
      rwa [List.append_assoc, List.singleton_append] at whole

/-- What a reading ends with is the document that it represents. -/
theorem represents_result {last : Reading} {lexemes : List Lexeme} {value : Json}
    (represents : Represents last lexemes) (result : last.result? = some value) :
    ∃ document : Doc, document.lexemes = lexemes ∧ document.json? = some value := by
  cases represents with
  | @finished stack _ document _ outer read =>
      cases outer with
      | nil =>
          cases result
          exact ⟨document, rfl, read⟩
      | array | object => cases result
  | _ => cases result

end Reading

namespace Json

/-- **What is read is written.** A text from which a document is read spells it. -/
theorem parse?_sound {text : String} {value : Json} (read : parse? text = some value) :
    ∃ document : Doc, document.Spells text ∧ document.json? = some value := by
  obtain ⟨tokens, scanned, parsed⟩ := Option.bind_eq_some_iff.mp read
  obtain ⟨lexemes, spelled, reads⟩ := Token.scanned scanned
  obtain ⟨last, run, result⟩ := Option.bind_eq_some_iff.mp parsed
  have represents := Reading.represents_run (.expectValue .nil) reads run
  obtain ⟨document, rfl, found⟩ := Reading.represents_result represents result
  exact ⟨document, spelled, found⟩

end Json
end ClusterClient
