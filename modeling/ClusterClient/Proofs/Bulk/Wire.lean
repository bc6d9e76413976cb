import ClusterClient.Bulk.Batch
import ClusterClient.Proofs.Json.Printable
import ClusterClient.Proofs.Json.Text
import Mathlib.Data.List.DropRight

/-! # The body of a batch, read back

`Operation.ofLines?` reads the lines of a body from left to right: a control line, and behind it the
document unless the operation deletes. What it reads from the body of a batch is what the batch was
filled with since it was cleared last (`ClusterClient.Bulk.Batch.fill_body`). Two facts carry this:
a control line is read back whatever characters the type and the id have
(`ClusterClient.Bulk.Operation.ofControl?_controlLine`), and no line has a line break in it
(`ClusterClient.Bulk.Operation.Sound.no_break`).
-/

namespace ClusterClient.Bulk

/-- The word for an action stands for it. -/
theorem Action.ofName?_name (action : Action) : Action.ofName? action.name = some action := by
  cases action <;> rfl

theorem Action.hasDocument_iff (action : Action) :
    action.hasDocument = true ↔ action ≠ .delete := by
  cases action <;> decide

namespace Operation

/-- Whether an operation fits into a batch. A delete names its document, and every other operation
has a document on one line. -/
def Fits (action : Action) (id document : String) : Prop :=
  (action = .delete → id ≠ "") ∧
    (action ≠ .delete → '\n' ∉ document.toList ∧ '\r' ∉ document.toList)

instance (action : Action) (id document : String) : Decidable (Fits action id document) :=
  inferInstanceAs (Decidable (_ ∧ _))

/-- The operation that is asked for. The document of a delete is disregarded. -/
def asked (action : Action) (docType id document : String) : Operation :=
  ⟨action, docType, id, if action = .delete then none else some document⟩

/-- The operation that a control line names, without a document: the line is a JSON object whose one
key is an action, and the type and perhaps an id stand behind it. -/
def ofControl? (line : String) : Option Operation :=
  match Json.parse? line with
  | some (.object [(key, address)]) => do
    let action ← Action.ofName? key
    let docType ← (← address.get? "_type").text?
    let id ← match address.get? "_id" with
      | none => some ""
      | some id => id.text?
    return ⟨action, docType, id, none⟩
  | _ => none

/-- The operations that lines spell, read from left to right. -/
def ofLines? : List String → Option (List Operation)
  | [] => some []
  | line :: rest => do
    let operation ← ofControl? line
    if operation.action = .delete then
      return operation :: (← ofLines? rest)
    else
      match rest with
      | [] => none
      | document :: rest =>
        return { operation with document := some document } :: (← ofLines? rest)

/-- The operations that a body spells. A line feed ends each of its lines. -/
def ofBody? (body : String) : Option (List Operation) :=
  ofLines? ((body.toList.splitOn '\n').dropLast.map String.ofList)

theorem hasLineBreak_eq_true (text : String) :
    hasLineBreak text = true ↔ '\n' ∈ text.toList ∨ '\r' ∈ text.toList := by
  simp only [hasLineBreak, List.any_eq_true, Bool.or_eq_true, beq_iff_eq]
  constructor
  · rintro ⟨c, member, rfl | rfl⟩
    · exact .inl member
    · exact .inr member
  · rintro (member | member)
    · exact ⟨_, member, .inl rfl⟩
    · exact ⟨_, member, .inr rfl⟩

/-- An operation that fits is made as it is asked for. -/
theorem make_of_fits {action : Action} {id document : String} (fits : Fits action id document)
    (docType : String) :
    make action docType id document = .ok (asked action docType id document) := by
  unfold make asked
  by_cases deletes : action = .delete
  · subst deletes
    have named : id.isEmpty = false := by
      rw [← Bool.not_eq_true, String.isEmpty_iff]
      exact fits.1 rfl
    simp only [Action.hasDocument, Bool.false_eq_true, if_false, named, if_true]
  · obtain ⟨noFeed, noReturn⟩ := fits.2 deletes
    have whole : hasLineBreak document = false := by
      rw [← Bool.not_eq_true, hasLineBreak_eq_true]
      rintro (feed | return_)
      · exact noFeed feed
      · exact noReturn return_
    rw [if_pos ((Action.hasDocument_iff action).mpr deletes), whole, if_neg deletes]
    rfl

/-- What does not fit is a delete without an id, or a document of several lines for another action.
-/
theorem not_fits_iff (action : Action) (id document : String) :
    ¬ Fits action id document ↔
      (action = .delete ∧ id = "") ∨
        (action ≠ .delete ∧ ('\n' ∈ document.toList ∨ '\r' ∈ document.toList)) := by
  simp only [Fits, not_and_or, Classical.not_imp, not_not]

/-- What is said against an operation that does not fit. -/
def refusal (action : Action) (id : String) : ClientError :=
  if action = .delete then .deleteWithoutId else .lineBreakIn id

/-- An operation that does not fit is refused for its own reason. -/
theorem make_of_not_fits {action : Action} {id document : String}
    (unfit : ¬ Fits action id document) (docType : String) :
    make action docType id document = .error (refusal action id) := by
  unfold make refusal
  rcases (not_fits_iff action id document).mp unfit with ⟨rfl, unnamed⟩ | ⟨keeps, broken⟩
  · simp only [Action.hasDocument, Bool.false_eq_true, if_false, String.isEmpty_iff.mpr unnamed,
      if_true]
  · rw [if_pos ((Action.hasDocument_iff action).mpr keeps),
      if_pos ((hasLineBreak_eq_true document).mpr broken), if_neg keeps]

section Control

variable (action : Action) (docType id : String)

/-- The tokens of a control line. -/
def controlTokens : List Token :=
  [.openObject, .text action.name, .colon, .openObject, .text "_type", .colon, .text docType]
    ++ (if id.isEmpty then [] else [.comma, .text "_id", .colon, .text id])
    ++ [.closeObject, .closeObject]

/-- A control line with its names as quoted texts. -/
theorem controlChars_eq :
    controlChars action docType id =
      '\x7b' :: (Json.quoted action.name ++ ':' :: ' ' :: '\x7b' ::
        (Json.quoted "_type" ++ ':' :: ' ' :: (Json.quoted docType ++
          ((if id.isEmpty then []
            else ',' :: ' ' :: (Json.quoted "_id" ++ ':' :: ' ' :: Json.quoted id))
            ++ ['\x7d', '\x7d'])))) := by
  have name : Json.quoted action.name = '\x22' :: (action.name.toList ++ ['\x22']) := by
    cases action <;> rfl
  have typeKey : "\"_type\": ".toList = Json.quoted "_type" ++ [':', ' '] := by decide
  have idKey : ", \"_id\": ".toList = ',' :: ' ' :: (Json.quoted "_id" ++ [':', ' ']) := by decide
  unfold controlChars
  rw [name, typeKey, idKey]
  split_ifs
  · simp only [List.append_assoc, List.cons_append, List.nil_append]
  · simp only [List.append_assoc, List.cons_append, List.nil_append]

/-- A control line is read as the tokens that it was written from, whatever quotes and line breaks
stand in type and id. -/
theorem ofChars?_controlChars :
    Token.ofChars? (controlChars action docType id) = some (controlTokens action docType id) := by
  have opened : Token.step .gap '\x7b' = some ([.openObject], .gap) := rfl
  have colon : Token.step .gap ':' = some ([.colon], .gap) := rfl
  have comma : Token.step .gap ',' = some ([.comma], .gap) := rfl
  have closed : Token.step .gap '\x7d' = some ([.closeObject], .gap) := rfl
  have blank : Token.step .gap ' ' = some ([], .gap) := rfl
  have ending : Token.scan .gap ['\x7d', '\x7d'] = some [.closeObject, .closeObject] := rfl
  rw [Token.ofChars?, controlChars_eq, controlTokens, Token.scan_of_token opened,
    Token.scan_quoted, Token.scan_of_token colon, Token.scan_of_step blank,
    Token.scan_of_token opened, Token.scan_quoted, Token.scan_of_token colon,
    Token.scan_of_step blank, Token.scan_quoted]
  by_cases unnamed : id.isEmpty = true
  · rw [if_pos unnamed, if_pos unnamed, List.nil_append, ending]
    rfl
  · rw [if_neg unnamed, if_neg unnamed]
    simp only [List.cons_append, List.append_assoc]
    rw [Token.scan_of_token comma, Token.scan_of_step blank, Token.scan_quoted,
      Token.scan_of_token colon, Token.scan_of_step blank, Token.scan_quoted, ending]
    rfl

/-- **A control line is read back.** Whatever the type and the id are, the line spells them. -/
theorem ofControl?_controlLine :
    ofControl? (controlLine action docType id) = some ⟨action, docType, id, none⟩ := by
  have parsed : Json.parse? (controlLine action docType id) =
      Json.ofTokens? (controlTokens action docType id) := by
    rw [Json.parse?_eq, controlLine, String.toList_ofList, ofChars?_controlChars,
      Option.bind_some]
  by_cases unnamed : id.isEmpty = true
  · have tree : Json.parse? (controlLine action docType id) =
        some (.object [(action.name, .object [("_type", .text docType)])]) := by
      rw [parsed, controlTokens, if_pos unnamed]
      rfl
    obtain rfl : id = "" := String.isEmpty_iff.mp unnamed
    simp only [ofControl?, tree, Action.ofName?_name]
    rfl
  · have tree : Json.parse? (controlLine action docType id) =
        some (.object [(action.name, .object [("_id", .text id), ("_type", .text docType)])]) := by
      rw [parsed, controlTokens, if_neg unnamed]
      rfl
    simp only [ofControl?, tree, Action.ofName?_name]
    rfl

/-- A control line has no control character, as those of type and id are escaped. -/
theorem printable_controlChars : Printable (controlChars action docType id) := by
  have member : ∀ (key : String) (value : List Char), Printable value →
      Printable (Json.quoted key ++ ':' :: ' ' :: value) := by
    intro key value visible
    exact (Json.printable_quoted key).append (.cons (by decide) (.cons (by decide) visible))
  have closed : Printable ['\x7d', '\x7d'] := .replicate 2 (by decide)
  have idPart : Printable (if id.isEmpty then []
      else ',' :: ' ' :: (Json.quoted "_id" ++ ':' :: ' ' :: Json.quoted id)) := by
    split_ifs
    · exact .nil
    · exact .cons (by decide) (.cons (by decide) (member _ _ (Json.printable_quoted id)))
  have address : Printable (Json.quoted docType ++ _) :=
    (Json.printable_quoted docType).append (idPart.append closed)
  rw [controlChars_eq]
  exact .cons (by decide) (member _ _ (.cons (by decide) (member _ _ address)))

end Control

/-- Whether the lines of an operation are well formed: only a delete is without a document, and a
document stands on one line. -/
def Sound (operation : Operation) : Prop :=
  match operation.document with
  | none => operation.action = .delete
  | some document =>
    operation.action ≠ .delete ∧ '\n' ∉ document.toList ∧ '\r' ∉ document.toList

/-- An operation that fits stands on sound lines. -/
theorem sound_asked {action : Action} {id document : String} (fits : Fits action id document)
    (docType : String) : (asked action docType id document).Sound := by
  unfold asked
  by_cases deletes : action = .delete
  · rw [if_pos deletes]
    exact deletes
  · rw [if_neg deletes]
    exact ⟨deletes, fits.2 deletes⟩

/-- No line of an operation has a line break in it. -/
theorem Sound.no_break {operation : Operation} (sound : operation.Sound) :
    ∀ line ∈ operation.lines, '\n' ∉ line.toList ∧ '\r' ∉ line.toList := by
  have control : '\n' ∉ operation.control.toList ∧ '\r' ∉ operation.control.toList := by
    rw [Operation.control, controlLine, String.toList_ofList]
    exact (printable_controlChars _ _ _).no_break
  intro line member
  rcases List.mem_cons.mp member with rfl | document
  · exact control
  · rw [Option.mem_toList] at document
    unfold Sound at sound
    rw [document] at sound
    exact sound.2

/-- An operation takes two lines, and a delete one. -/
theorem Sound.length_lines {operation : Operation} (sound : operation.Sound) :
    operation.lines.length = 1 + if operation.action = .delete then 0 else 1 := by
  unfold Sound at sound
  cases given : operation.document with
  | none =>
      rw [given] at sound
      rw [lines, given, if_pos sound]
      rfl
  | some document =>
      rw [given] at sound
      rw [lines, given, if_neg sound.1]
      rfl

/-- Behind the control line of a delete the next operation starts. -/
theorem ofLines?_delete {line : String} {operation : Operation}
    (named : ofControl? line = some operation) (deletes : operation.action = .delete)
    (rest : List String) : ofLines? (line :: rest) = (ofLines? rest).map (operation :: ·) := by
  rw [ofLines?, named, Option.bind_eq_bind, Option.bind_some, if_pos deletes,
    Option.map_eq_bind]
  rfl

/-- Behind any other control line the next line is the document, as it stands. -/
theorem ofLines?_document {line : String} {operation : Operation}
    (named : ofControl? line = some operation) (keeps : operation.action ≠ .delete)
    (document : String) (rest : List String) :
    ofLines? (line :: document :: rest) =
      (ofLines? rest).map ({ operation with document := some document } :: ·) := by
  rw [ofLines?, named, Option.bind_eq_bind, Option.bind_some, if_neg keeps, Option.map_eq_bind]
  rfl

/-- **Reading takes back writing.** The lines of sound operations spell these operations. -/
theorem ofLines?_lines (operations : List Operation)
    (sound : ∀ operation ∈ operations, operation.Sound) :
    ofLines? (operations.flatMap lines) = some operations := by
  induction operations with
  | nil => rfl
  | cons operation rest ih =>
      obtain ⟨first, others⟩ := List.forall_mem_cons.mp sound
      have control : ofControl? operation.control = some { operation with document := none } :=
        ofControl?_controlLine operation.action operation.docType operation.id
      rw [List.flatMap_cons, lines]
      -- Whether a document follows is told by the action, by which the reader stays in step.
      cases given : operation.document with
      | none =>
          unfold Sound at first
          rw [given] at first
          rw [Option.toList_none, List.singleton_append, ofLines?_delete control first, ih others,
            Option.map_some, ← given]
      | some document =>
          unfold Sound at first
          rw [given] at first
          rw [Option.toList_some, List.cons_append, List.singleton_append,
            ofLines?_document control first.1, ih others, Option.map_some, ← given]

end Operation

/-- Lines that are each ended by a line feed come apart at the line feeds, behind the last of which
there is nothing. -/
theorem splitOn_endedLines (lines : List (List Char)) (whole : ∀ line ∈ lines, '\n' ∉ line) :
    (lines.flatMap fun line => line ++ ['\n']).splitOn '\n' = lines ++ [[]] := by
  induction lines with
  | nil => rfl
  | cons line rest ih =>
      obtain ⟨first, others⟩ := List.forall_mem_cons.mp whole
      rw [List.flatMap_cons, List.append_assoc, List.singleton_append,
        List.splitOn_append_cons_self_of_not_mem first, ih others]
      rfl

/-- What is done to a batch to fill it. -/
inductive Fill where
  | add (action : Action) (docType id document : String)
  | clear

namespace Fill

/-- Whether the batch is emptied. -/
def isClear : Fill → Bool
  | .add .. => false
  | .clear => true

/-- The operation that is added, if it fits into a batch. -/
def operation? : Fill → Option Operation
  | .add action docType id document =>
    if Operation.Fits action id document then some (.asked action docType id document) else none
  | .clear => none

/-- The operations that were added since the batch was emptied last. -/
def accepted (steps : List Fill) : List Operation :=
  (steps.rtakeWhile fun step => !step.isClear).filterMap operation?

theorem accepted_clear (steps : List Fill) : accepted (steps ++ [.clear]) = [] := by
  rw [accepted, List.rtakeWhile_concat_neg]
  · rfl
  · decide

/-- An operation is accepted behind the others if it fits. -/
theorem accepted_add (steps : List Fill) (action : Action) (docType id document : String) :
    accepted (steps ++ [.add action docType id document]) =
      accepted steps ++ (operation? (.add action docType id document)).toList := by
  rw [accepted, List.rtakeWhile_concat_pos _ _ _ rfl, List.filterMap_append]
  rfl

/-- Only sound operations are accepted. -/
theorem sound_accepted (steps : List Fill) :
    ∀ operation ∈ accepted steps, operation.Sound := by
  intro operation member
  obtain ⟨step, _, added⟩ := List.mem_filterMap.mp member
  cases step with
  | clear => cases added
  | add action docType id document =>
      by_cases fits : Operation.Fits action id document
      · rw [operation?, if_pos fits] at added
        cases added
        exact Operation.sound_asked fits docType
      · rw [operation?, if_neg fits] at added
        cases added

end Fill

namespace Batch

/-- The batch behind a step. An operation that does not fit leaves it as it is. -/
def step (batch : Batch) : Fill → Batch
  | .add action docType id document =>
    match batch.add action docType id document with
    | .ok batch => batch
    | .error _ => batch
  | .clear => batch.clear

/-- The batch behind steps that are taken one after the other. -/
def fill (batch : Batch) (steps : List Fill) : Batch := steps.foldl step batch

theorem fill_concat (batch : Batch) (steps : List Fill) (step : Fill) :
    batch.fill (steps ++ [step]) = (batch.fill steps).step step := by
  rw [fill, List.foldl_append]
  rfl

section Add

variable (batch : Batch) {action : Action} {id document : String}

theorem add_of_fits (fits : Operation.Fits action id document) (docType : String) :
    batch.add action docType id document =
      .ok (batch.push (.asked action docType id document)) := by
  rw [add, Operation.make_of_fits fits]
  rfl

theorem add_of_not_fits (unfit : ¬ Operation.Fits action id document) (docType : String) :
    batch.add action docType id document = .error (Operation.refusal action id) := by
  rw [add, Operation.make_of_not_fits unfit]
  rfl

/-- A compact text fits into every batch. -/
theorem add_compact (keeps : action ≠ .delete) (docType id : String) (document : Json) :
    batch.add action docType id document.compact =
      .ok (batch.push ⟨action, docType, id, some document.compact⟩) := by
  have fits : Operation.Fits action id document.compact :=
    ⟨fun deletes => absurd deletes keeps, fun _ => (Json.printable_compact document).no_break⟩
  rw [add_of_fits batch fits, Operation.asked, if_neg keeps]

theorem step_of_fits (fits : Operation.Fits action id document) (docType : String) :
    batch.step (.add action docType id document) =
      batch.push (.asked action docType id document) := by
  rw [step, add_of_fits batch fits]

/-- What does not fit leaves the batch as it was. -/
theorem step_of_not_fits (unfit : ¬ Operation.Fits action id document) (docType : String) :
    batch.step (.add action docType id document) = batch := by
  rw [step, add_of_not_fits batch unfit]

end Add

/-- The operations of a batch are those that fit, since it was emptied last. -/
theorem fill_eq {start : Batch} (empty : start.operations = []) (steps : List Fill) :
    start.fill steps = { start with operations := Fill.accepted steps } := by
  induction steps using List.reverseRecOn with
  | nil =>
      rw [Fill.accepted, List.rtakeWhile_nil, List.filterMap_nil, ← empty]
      rfl
  | append_singleton steps step ih =>
      rw [fill_concat, ih]
      cases step with
      | clear =>
          rw [Fill.accepted_clear]
          rfl
      | add action docType id document =>
          rw [Fill.accepted_add, Fill.operation?]
          by_cases fits : Operation.Fits action id document
          · rw [if_pos fits, step_of_fits _ fits]
            rfl
          · rw [if_neg fits, step_of_not_fits _ fits, Option.toList_none, List.append_nil]

variable {batch : Batch}

/-- The lines of a batch, as characters. -/
def lineChars (batch : Batch) : List (List Char) := batch.lines.map String.toList

/-- The body is the lines, each ended by a line feed. -/
theorem toList_body (batch : Batch) :
    batch.body.toList = batch.lineChars.flatMap fun line => line ++ ['\n'] := by
  rw [body, String.toList_ofList, lineChars, List.flatMap_map]

theorem lineChars_no_break (sound : ∀ operation ∈ batch.operations, operation.Sound) :
    ∀ line ∈ batch.lineChars, '\n' ∉ line ∧ '\r' ∉ line := by
  intro chars member
  obtain ⟨line, among, rfl⟩ := List.mem_map.mp member
  obtain ⟨operation, owned, written⟩ := List.mem_flatMap.mp among
  exact (sound operation owned).no_break line written

/-- The lines of the body are found again at the line feeds. -/
theorem splitOn_body (sound : ∀ operation ∈ batch.operations, operation.Sound) :
    batch.body.toList.splitOn '\n' = batch.lineChars ++ [[]] := by
  rw [toList_body]
  exact splitOn_endedLines _ fun line member => (lineChars_no_break sound line member).1

theorem map_ofList_lineChars (batch : Batch) :
    batch.lineChars.map String.ofList = batch.lines := by
  simp only [lineChars, List.map_map, Function.comp_def, String.ofList_toList, List.map_id']

/-- A body of sound operations spells them. -/
theorem ofBody?_body (sound : ∀ operation ∈ batch.operations, operation.Sound) :
    Operation.ofBody? batch.body = some batch.operations := by
  rw [Operation.ofBody?, splitOn_body sound, List.dropLast_concat, map_ofList_lineChars, lines,
    Operation.ofLines?_lines batch.operations sound]

/-- There is a line for each operation and another one for each document. -/
theorem length_lines {operations : List Operation}
    (sound : ∀ operation ∈ operations, operation.Sound) :
    (operations.flatMap Operation.lines).length =
      operations.length + operations.countP fun operation => operation.action ≠ .delete := by
  induction operations with
  | nil => rfl
  | cons operation rest ih =>
      obtain ⟨first, others⟩ := List.forall_mem_cons.mp sound
      rw [List.flatMap_cons, List.length_append, first.length_lines, ih others, List.length_cons,
        List.countP_cons]
      by_cases deletes : operation.action = .delete
      · simp only [deletes, if_true, ne_eq, not_true_eq_false, decide_false, Bool.false_eq_true,
          if_false]
        omega
      · simp only [deletes, if_false, ne_eq, not_false_eq_true, decide_true, if_true]
        omega

/-- The body of a batch with operations ends with a line feed. -/
theorem getLast?_body (filled : batch.operations ≠ []) :
    batch.body.toList.getLast? = some '\n' := by
  have some_line : batch.lineChars ≠ [] := by
    obtain ⟨operation, rest, given⟩ := List.exists_cons_of_ne_nil filled
    rw [lineChars, lines, given, List.flatMap_cons, Operation.lines]
    exact List.cons_ne_nil _ _
  rw [toList_body, ← List.dropLast_concat_getLast some_line, List.flatMap_append,
    List.flatMap_singleton, ← List.append_assoc, List.getLast?_concat]

/-- Only an empty batch has an empty body. -/
theorem body_eq_empty_iff (batch : Batch) : batch.body = "" ↔ batch.operations = [] := by
  constructor
  · intro nothing
    by_contra filled
    have ended := getLast?_body filled
    rw [nothing] at ended
    cases ended
  · intro nothing
    rw [body, lines, nothing]
    rfl

/-- What holds of a batch that started empty and was filled by the given steps: what its body
spells, how the body is framed, and what one operation more does to it. -/
structure Spelled (start : Batch) (steps : List Fill) (batch : Batch) : Prop where
  kept : batch.index = start.index ∧ batch.desiredSize = start.desiredSize
  size : batch.size = (Fill.accepted steps).length
  framed : ∃ lines : List (List Char),
    batch.body.toList.splitOn '\n' = lines ++ [[]] ∧
      lines.length = (Fill.accepted steps).length +
        ((Fill.accepted steps).countP fun operation => operation.action ≠ .delete) ∧
      (∀ line ∈ lines, '\n' ∉ line ∧ '\r' ∉ line) ∧
      Operation.ofLines? (lines.map String.ofList) = some (Fill.accepted steps)
  empty_iff : batch.body = "" ↔ Fill.accepted steps = []
  ended : Fill.accepted steps ≠ [] → batch.body.toList.getLast? = some '\n'
  rejected_iff : ∀ action docType id document,
    (∃ error, batch.add action docType id document = .error error) ↔
      (action ≠ .delete ∧ ('\n' ∈ document.toList ∨ '\r' ∈ document.toList)) ∨
        (action = .delete ∧ id = "")
  rejected : ∀ action docType id document error,
    batch.add action docType id document = .error error →
      error = (if action = .delete then .deleteWithoutId else .lineBreakIn id) ∧
        start.fill (steps ++ [.add action docType id document]) = batch ∧
        Fill.accepted (steps ++ [.add action docType id document]) = Fill.accepted steps
  added : ∀ action docType id document after,
    batch.add action docType id document = .ok after →
      start.fill (steps ++ [.add action docType id document]) = after ∧
        Fill.accepted (steps ++ [.add action docType id document]) =
          Fill.accepted steps ++
            [⟨action, docType, id, if action = .delete then none else some document⟩] ∧
        (after.isFull = true ↔ start.desiredSize ≤ (Fill.accepted steps).length + 1)

/-- A batch is made empty, for an index with a name and a size for which there is room. -/
theorem create_eq_ok_iff {index : String} {desiredSize : Nat} {start : Batch} :
    create index desiredSize = .ok start ↔
      index ≠ "" ∧ desiredSize ≤ maxSize ∧ start = ⟨index, desiredSize, []⟩ := by
  simp only [create, String.isEmpty_iff, ← Nat.not_lt]
  split_ifs with unnamed oversized
  · simp only [unnamed, ne_eq, not_true_eq_false, false_and]
  · simp only [oversized, not_true_eq_false, false_and, and_false]
  · simp only [Except.ok.injEq, unnamed, oversized, ne_eq, not_false_eq_true, true_and, eq_comm]

/-- A batch is refused for want of an index, whatever its size. -/
theorem create_eq_refused_iff {index : String} {desiredSize : Nat} {error : ClientError} :
    create index desiredSize = .error (.refused error) ↔
      index = "" ∧ error = .missingBulkIndex := by
  simp only [create, String.isEmpty_iff]
  split_ifs with unnamed oversized
  · simp only [Except.error.injEq, Unmade.refused.injEq, unnamed, true_and, eq_comm]
  · simp only [Except.error.injEq, reduceCtorEq, unnamed, false_and]
  · simp only [unnamed, false_and]

/-- Only the room for a batch that has an index can be missing. -/
theorem create_eq_overflow_iff {index : String} {desiredSize : Nat} :
    create index desiredSize = .error .overflow ↔ index ≠ "" ∧ maxSize < desiredSize := by
  simp only [create, String.isEmpty_iff]
  split_ifs with unnamed oversized
  · simp only [Except.error.injEq, reduceCtorEq, unnamed, ne_eq, not_true_eq_false, false_and]
  · simp only [unnamed, oversized, ne_eq, not_false_eq_true, and_self]
  · simp only [oversized, and_false]

/-- **The body of a batch spells what was accepted.** Whatever is added to a batch and however often
it is emptied, its lines read from left to right are the operations that were accepted since it was
emptied last. -/
theorem fill_body {index : String} {desiredSize : Nat} {start : Batch}
    (created : create index desiredSize = .ok start) (steps : List Fill) :
    Spelled start steps (start.fill steps) := by
  have empty : start.operations = [] := by
    obtain ⟨_, _, rfl⟩ := create_eq_ok_iff.mp created
    rfl
  have filled := fill_eq empty steps
  have sound : ∀ operation ∈ (start.fill steps).operations, operation.Sound := by
    rw [filled]
    exact Fill.sound_accepted steps
  have operations : (start.fill steps).operations = Fill.accepted steps := by rw [filled]
  refine
    { kept := by rw [filled]; exact ⟨rfl, rfl⟩
      size := congrArg List.length operations
      framed := ?_
      empty_iff := by rw [body_eq_empty_iff, operations]
      ended := fun some_operation => getLast?_body (by rwa [operations])
      rejected_iff := ?_
      rejected := ?_
      added := ?_ }
  · refine ⟨(start.fill steps).lineChars, splitOn_body sound, ?_, lineChars_no_break sound, ?_⟩
    · rw [lineChars, List.length_map, lines, length_lines sound, operations]
    · rw [map_ofList_lineChars, lines, operations]
      exact Operation.ofLines?_lines _ (Fill.sound_accepted steps)
  · intro action docType id document
    rw [or_comm, ← Operation.not_fits_iff]
    by_cases fits : Operation.Fits action id document
    · simp only [add_of_fits _ fits, reduceCtorEq, exists_false, fits, not_true_eq_false]
    · simp only [add_of_not_fits _ fits, Except.error.injEq, exists_eq', fits, not_false_eq_true]
  · intro action docType id document error refused
    by_cases fits : Operation.Fits action id document
    · rw [add_of_fits _ fits] at refused
      cases refused
    · rw [add_of_not_fits _ fits] at refused
      cases refused
      refine ⟨rfl, ?_, ?_⟩
      · rw [fill_concat, step_of_not_fits _ fits]
      · rw [Fill.accepted_add, Fill.operation?, if_neg fits, Option.toList_none, List.append_nil]
  · intro action docType id document after taken
    by_cases fits : Operation.Fits action id document
    · rw [add_of_fits _ fits] at taken
      cases taken
      refine ⟨?_, ?_, ?_⟩
      · rw [fill_concat, step_of_fits _ fits]
      · rw [Fill.accepted_add, Fill.operation?, if_pos fits]
        rfl
      · rw [isFull, decide_eq_true_eq, filled, size, push, List.length_append]
        rfl
    · rw [add_of_not_fits _ fits] at taken
      cases taken

/-- A batch that is emptied once, and then takes a delete, an operation whose type and id are full
of quotes and line breaks, and one that does not fit. -/
theorem fill_body_escaped :
    create "idx" 2 = .ok ⟨"idx", 2, []⟩ ∧
      Spelled ⟨"idx", 2, []⟩
        [.add .index "t" "0" "\x7b\x7d", .clear, .add .delete "t" "1" "\n",
          .add .create "a\"b\n" "\r\\" "[1]", .add .update "t" "2" "1\n2"]
        (fill ⟨"idx", 2, []⟩
          [.add .index "t" "0" "\x7b\x7d", .clear, .add .delete "t" "1" "\n",
            .add .create "a\"b\n" "\r\\" "[1]", .add .update "t" "2" "1\n2"]) :=
  ⟨rfl, @fill_body "idx" 2 _ rfl _⟩

end Batch

end ClusterClient.Bulk
