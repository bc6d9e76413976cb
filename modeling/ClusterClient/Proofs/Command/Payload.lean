import ClusterClient.Proofs.Command.Load
import ClusterClient.Proofs.Json.Carrying

/-! # What the documents of a load mean

The lines that a load sends carry over the documents on the lines that it accepts, in the order of
these lines (`ClusterClient.Command.load_carries`). Only numbers may change, and only those that
neither are whole numbers of 64 bits nor have at most fifteen digits
(`ClusterClient.Command.load_rounds`).
-/

namespace ClusterClient.Command

open Bulk

/-- The lines that a load accepts as documents: those that are not blank, up to the first line that
is neither blank nor a document or cannot be read. -/
def acceptedLines : List (Option String) → List String
  | some line :: input =>
    if IsSound line then
      if isBlankText line then acceptedLines input else line :: acceptedLines input
    else []
  | _ => []

/-- The lines of requests that are documents. -/
def payloads (log : List Dispatch) : List String :=
  log.flatMap fun dispatch =>
    ((Operation.ofBody? dispatch.call.body).getD []).filterMap Operation.document

section Payload

variable {options : LoadOptions}

/-- The documents in the requests for groups are the compact texts of the groups in order. -/
theorem payloads_of_spelled {groups : List (List Json)} {log : List Dispatch}
    (spelled : log.map (fun dispatch => Operation.ofBody? dispatch.call.body) =
      groups.map fun group => some (group.map options.operation)) :
    payloads log = groups.flatten.map Json.compact := by
  induction groups generalizing log with
  | nil =>
      obtain rfl := List.map_eq_nil_iff.mp spelled
      rfl
  | cons group groups ih =>
      obtain ⟨dispatch, rest, rfl, first, others⟩ := List.map_eq_cons_iff.mp spelled
      have documents : (group.map options.operation).filterMap Operation.document =
          group.map Json.compact := by
        rw [List.filterMap_map, ← List.filterMap_eq_map]
        rfl
      rw [payloads, List.flatMap_cons, first, Option.getD_some, documents, List.flatten_cons,
        List.map_append]
      exact congrArg _ (ih others)

/-- A line at which a load stops: it cannot be read, or is neither blank nor a document. -/
def Stops : Option String → Prop
  | none => True
  | some line => ¬ IsSound line

/-- An input is read up to its end or to a line at which the load stops. -/
theorem input_split (input : List (Option String)) :
    ∃ before : List String, (∀ line ∈ before, IsSound line) ∧
      acceptedLines input = before.filter (fun line => !isBlankText line) ∧
        (input = before.map some ∨
          ∃ line behind, input = before.map some ++ line :: behind ∧ Stops line) := by
  induction input with
  | nil => exact ⟨[], List.forall_mem_nil _, rfl, .inl rfl⟩
  | cons first input ih =>
      match first with
      | none => exact ⟨[], List.forall_mem_nil _, rfl, .inr ⟨none, input, rfl, trivial⟩⟩
      | some line =>
          by_cases sound : IsSound line
          · obtain ⟨before, all, accepted, split⟩ := ih
            refine ⟨line :: before, List.forall_mem_cons.mpr ⟨sound, all⟩, ?_, ?_⟩
            · rw [acceptedLines, if_pos sound, List.filter_cons, accepted]
              cases isBlankText line <;> rfl
            · rcases split with rfl | ⟨stop, behind, rfl, stops⟩
              · exact .inl rfl
              · exact .inr ⟨stop, behind, rfl, stops⟩
          · refine ⟨[], List.forall_mem_nil _, ?_, .inr ⟨some line, input, rfl, sound⟩⟩
            rw [acceptedLines, if_neg sound]
            rfl

/-- At a line that stops the load nothing that waits makes a difference. -/
theorem loadLines_stops {line : Option String} (stops : Stops line) (number : Nat)
    (behind : List (Option String)) :
    ∃ error, ∀ loading,
      loadLines options number loading (line :: behind) = .done (.error error) := by
  cases line with
  | none => exact ⟨_, fun _ => rfl⟩
  | some line => exact ⟨_, fun loading => loadLines_broken stops number loading behind⟩

/-- A load that stops has sent the full groups of the documents before. -/
theorem load_stops (usable : options.Usable) {before : List String}
    (sound : ∀ line ∈ before, IsSound line) {line : Option String}
    (stops : Stops line) (behind : List (Option String)) :
    ∃ full left error, Grouped options.batchSize (documentsOn before) full left ∧
      load options (some (before.map some ++ line :: behind)) =
        performEach (full.map options.batchFor) >>= fun _ => .done (.error error) := by
  obtain ⟨full, left, grouped, read⟩ :=
    loadLines_sound usable.positive sound (line :: behind) [] usable.positive
  obtain ⟨error, ends⟩ := @loadLines_stops options line stops (1 + before.length) behind
  refine ⟨full, left, error, grouped, ?_⟩
  rw [load_eq usable, read, Exchange.bind_assoc, LoadOptions.sendEach_eq, Exchange.bind_assoc]
  simp only [Exchange.done_bind, ends, finish]

/-- Each line that has a document carries over to the compact text of it. -/
theorem carries_documents {lines : List String} (sound : ∀ line ∈ lines, IsSound line) :
    List.Forall₂ Carries (lines.filter fun line => !isBlankText line)
      ((documentsOn lines).map Json.compact) := by
  induction lines with
  | nil => exact .nil
  | cons line lines ih =>
      obtain ⟨first, others⟩ := List.forall_mem_cons.mp sound
      by_cases blank : isBlankText line = true
      · rw [documentsOn_blank blank, List.filter_cons_of_neg (by simp [blank])]
        exact ih others
      · obtain ⟨document, parsed⟩ := Option.isSome_iff_exists.mp (first.resolve_left blank)
        rw [documentsOn_document blank parsed, List.filter_cons_of_pos (by simp [blank]),
          List.map_cons]
        exact .cons (Json.compact_carries parsed) (ih others)

/-- **A load carries documents over.** The documents that it sends are those on the lines that it
accepts, in the order of these lines and with the same meaning, up to what their numerals are
rewritten to. Only fewer than fill a batch are not sent, and only if the load stops. -/
theorem load_carries (client : Client) (options : LoadOptions) (input : List (Option String))
    (named : options.index ≠ "") (positive : 1 ≤ options.batchSize)
    (fits : options.batchSize ≤ Batch.maxSize) :
    ∃ sent unsent : List String, acceptedLines input = sent ++ unsent ∧
      unsent.length < options.batchSize ∧ ((∀ line ∈ input, ¬ Stops line) → unsent = []) ∧
        List.Forall₂ Carries sent (payloads (client.log (load options (some input)))) := by
  have usable : options.Usable := ⟨named, positive, fits⟩
  obtain ⟨before, sound, accepted, split⟩ := input_split input
  have carried := carries_documents sound
  rw [accepted]
  rcases split with rfl | ⟨line, behind, rfl, stops⟩
  · obtain ⟨full, left, grouped, same⟩ := load_sound usable sound
    have spelled := (sends_of_eq (grouped.rounded_ne_nil positive) same client).spelled
    refine ⟨_, [], (List.append_nil _).symm, positive, fun _ => rfl, ?_⟩
    rw [payloads_of_spelled spelled, grouped.flatten_rounded]
    exact carried
  · -- The group that is not full is lost, so the lines are cut behind the groups that are.
    obtain ⟨full, left, error, grouped, same⟩ := load_stops usable sound stops behind
    have spelled := (sends_of_eq (grouped.full_ne_nil positive) same client).spelled
    rw [← grouped.all, List.map_append] at carried
    refine ⟨_, _, (List.take_append_drop (full.flatten.map Json.compact).length _).symm, ?_, ?_, ?_⟩
    · have length := (List.forall₂_drop_append _ _ _ carried).length_eq
      rw [length, List.length_map]
      exact grouped.left_length
    · intro none
      exact absurd stops (none line (List.mem_append_right _ List.mem_cons_self))
    · rw [payloads_of_spelled spelled]
      exact List.forall₂_take_append _ _ _ carried

/-- The load of a blank line and a document with numbers of several forms, the first of which is
replaced by a later member of its name; the line behind them cannot be read. -/
theorem load_carries_forms :
    ("idx" ≠ "" ∧ 1 ≤ 1 ∧ 1 ≤ Batch.maxSize) ∧
      acceptedLines [some " ", some "\x7b\"b\":1.50,\"a\":-0,\"b\":2E1\x7d", none] =
        ["\x7b\"b\":1.50,\"a\":-0,\"b\":2E1\x7d"] ∧
      payloads ((Client.oneNode [.failure]).log (load ⟨"idx", "_doc", 1, none, false⟩
        (some [some " ", some "\x7b\"b\":1.50,\"a\":-0,\"b\":2E1\x7d", none]))) =
          ["\x7b\"a\":-0.0,\"b\":20.0\x7d"] ∧
      ∃ sent unsent : List String,
        acceptedLines [some " ", some "\x7b\"b\":1.50,\"a\":-0,\"b\":2E1\x7d", none] =
            sent ++ unsent ∧
          unsent.length < 1 ∧
          ((∀ line ∈ [some " ", some "\x7b\"b\":1.50,\"a\":-0,\"b\":2E1\x7d", none],
            ¬ Stops line) → unsent = []) ∧
          List.Forall₂ Carries sent
            (payloads ((Client.oneNode [.failure]).log (load ⟨"idx", "_doc", 1, none, false⟩
              (some [some " ", some "\x7b\"b\":1.50,\"a\":-0,\"b\":2E1\x7d", none])))) :=
  ⟨by decide, by decide, by decide +kernel,
    load_carries _ ⟨"idx", "_doc", 1, none, false⟩ _ (by decide) (by decide) (by decide)⟩

/-- One text denotes the document of another, numbers and all. -/
def Denotes (line payload : String) : Prop :=
  ∃ given sent : Doc, given.Spells line ∧ sent.Spells payload ∧
    sent.meaning Numeral.exact = given.meaning Numeral.exact

/-- The text of a document with one member, which is a number. -/
def memberText (cs : List Char) : String :=
  String.ofList ('\x7b' :: (Json.quoted "n" ++ ':' :: (cs ++ ['\x7d'])))

/-- The text spells a document with the number as its one member. -/
theorem spells_memberText {n : Numeral} {cs : List Char} (spelled : n.Spelled cs) :
    (Doc.object [("n", .number n)]).Spells (memberText cs) := by
  have closed : Written ([.number n] ++ [.mark '\x7d']) (cs ++ ['\x7d']) :=
    .append (.lexeme (.number spelled)) (.mark (c := '\x7d') .nil) (led_mark (by decide) _)
  have member := Written.mark (c := ':') closed
  have named : Written (.text "n" :: _) (Json.quoted "n" ++ _) := .quoted member
  have opened := Written.mark (c := '\x7b') named
  have written := opened [] [] .nil nofun
  rw [List.append_nil, List.append_nil] at written
  rw [Doc.Spells, memberText, String.toList_ofList]
  exact written

/-- If the text of one number denotes that of another, both numbers are worth the same. -/
theorem exact_of_denotes {n m : Numeral} {cs ds : List Char} (spelled : n.Spelled cs)
    (spelled' : m.Spelled ds) (denotes : Denotes (memberText cs) (memberText ds)) :
    m.exact = n.exact := by
  obtain ⟨given, written, spells, spells', same⟩ := denotes
  obtain rfl := Doc.spells_unique spells (spells_memberText spelled)
  obtain rfl := Doc.spells_unique spells' (spells_memberText spelled')
  have members := congrFun (Meaning.object.inj same) "n"
  exact Meaning.number.inj (Option.some.inj members)

/-- **Long fractions are rounded.** A number of nineteen digits loses two of them. -/
theorem load_rounds :
    ¬ ∀ (client : Client) (options : LoadOptions) (input : List (Option String)),
      options.index ≠ "" → 1 ≤ options.batchSize →
        ∃ sent unsent : List String, acceptedLines input = sent ++ unsent ∧
          unsent.length < options.batchSize ∧ ((∀ line ∈ input, ¬ Stops line) → unsent = []) ∧
            List.Forall₂ Denotes sent (payloads (client.log (load options (some input)))) := by
  intro all
  obtain ⟨sent, unsent, accepted, room, _, denoted⟩ := all (Client.oneNode [.failure])
    ⟨"idx", "_doc", 1, none, false⟩ [some "\x7b\"n\":0.1234567890123456789\x7d"]
    (by decide) le_rfl
  have lines : acceptedLines [some "\x7b\"n\":0.1234567890123456789\x7d"] =
      ["\x7b\"n\":0.1234567890123456789\x7d"] := by decide
  have payload : payloads ((Client.oneNode [.failure]).log
      (load ⟨"idx", "_doc", 1, none, false⟩
        (some [some "\x7b\"n\":0.1234567890123456789\x7d"]))) =
      ["\x7b\"n\":0.12345678901234568\x7d"] := by decide +kernel
  obtain rfl : unsent = [] := List.length_eq_zero_iff.mp (Nat.lt_one_iff.mp room)
  rw [List.append_nil, lines] at accepted
  rw [← accepted, payload] at denoted
  have denotes : Denotes (memberText "0.1234567890123456789".toList)
      (memberText "0.12345678901234568".toList) := by
    cases denoted with
    | cons denotes _ => exact denotes
  have long : (⟨false, ['0'], some "1234567890123456789".toList, none⟩ : Numeral).Spelled
      "0.1234567890123456789".toList := Numeral.ofChars?_iff.mp rfl
  have short : (⟨false, ['0'], some "12345678901234568".toList, none⟩ : Numeral).Spelled
      "0.12345678901234568".toList := Numeral.ofChars?_iff.mp rfl
  have same := exact_of_denotes long short denotes
  -- Both numerals are worth their digits times the power of ten of the last one.
  have worth : (1 : ℚ) * (12345678901234568 * 10 ^ (-17 : ℤ)) =
      1 * (1234567890123456789 * 10 ^ (-19 : ℤ)) := by
    exact_mod_cast same
  norm_num at worth

end Payload

end ClusterClient.Command
