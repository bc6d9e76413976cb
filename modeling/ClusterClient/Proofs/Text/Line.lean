import ClusterClient.Text.Basic
import Mathlib.Data.List.Basic
import Mathlib.Tactic.SplitIfs

/-! # The lines of a text

A file is cut into lines byte by byte. If it holds the UTF-8 bytes of a text, the lines are those of
the text (`ClusterClient.Line.ofFile_toUTF8`), since no character but the line feed has the byte of
the line feed, and none but the carriage return has that of the carriage return.
-/

namespace ClusterClient.Line

/-- A line without the carriage return at its end, if there is one. -/
def dropReturn (line : List Char) : List Char :=
  if line.getLast? = some '\r' then line.dropLast else line

/-- The lines that stand between line feeds: all pieces but the last, without a carriage return at
the end, and the last one as it is unless it is empty. -/
def ofPieces (pieces : List (List Char)) : List (List Char) :=
  pieces.dropLast.map dropReturn ++ pieces.getLast?.toList.filter fun line => !line.isEmpty

/-- The lines of a text. -/
def ofText (text : String) : List String :=
  (ofPieces (text.toList.splitOn '\n')).map String.ofList

/-- The UTF-8 bytes of characters. -/
def bytes (cs : List Char) : List UInt8 := cs.flatMap String.utf8EncodeChar

/-- The bytes of a text are those of its parts. -/
theorem bytes_append (cs ds : List Char) : bytes (cs ++ ds) = bytes cs ++ bytes ds :=
  List.flatMap_append

/-- The UTF-8 form of a text is the bytes of its characters. -/
theorem data_toUTF8 (text : String) : text.toUTF8.data.toList = bytes text.toList := by
  obtain ⟨cs, rfl⟩ : ∃ cs, text = String.ofList cs := ⟨_, String.ofList_toList.symm⟩
  rw [String.toUTF8_eq_toByteArray, String.toByteArray_ofList, String.toList_ofList,
    List.utf8Encode, List.data_toByteArray]
  rfl

/-- A line is read back from its bytes. -/
theorem text?_bytes (line : List Char) : text? (bytes line) = some (String.ofList line) := by
  have encoded : ByteArray.mk (bytes line).toArray = (String.ofList line).toByteArray := by
    apply ByteArray.ext
    rw [String.toByteArray_ofList, List.utf8Encode, List.data_toByteArray, bytes]
  rw [text?, encoded, String.fromUTF8?, dif_pos (String.ofList line).isValidUTF8]
  rfl

/-- A byte of a character is its code, or a byte of no ASCII character. -/
theorem utf8EncodeChar_bytes (c : Char) :
    ∀ byte ∈ String.utf8EncodeChar c, byte.toNat = c.toNat ∨ 128 ≤ byte.toNat := by
  have read : ∀ n < 256, (UInt8.ofNat n).toNat = n := by
    intro n bound
    rw [UInt8.toNat_ofNat', Nat.mod_eq_of_lt bound]
  intro byte member
  simp only [String.utf8EncodeChar] at member
  split_ifs at member with one two three
  · rw [List.mem_singleton.mp member]
    exact .inl (read _ (by omega))
  all_goals
    right
    simp only [List.mem_cons, List.not_mem_nil, or_false] at member
  · rcases member with rfl | rfl
    all_goals rw [read _ (by omega)]; omega
  · rcases member with rfl | rfl | rfl
    all_goals rw [read _ (by omega)]; omega
  · rcases member with rfl | rfl | rfl | rfl
    all_goals rw [read _ (by omega)]; omega

/-- Only a character itself has a code below 128 among its bytes. -/
theorem not_mem_utf8EncodeChar {c : Char} {code : UInt8} (small : code.toNat < 128)
    (other : c.toNat ≠ code.toNat) : code ∉ String.utf8EncodeChar c := by
  intro member
  rcases utf8EncodeChar_bytes c code member with same | large
  · exact other same.symm
  · omega

/-- Bytes that are no line feed are taken into the line. -/
theorem split_append (seen start rest : List UInt8) (whole : 10 ∉ start) :
    split seen (start ++ rest) = split (start.reverse ++ seen) rest := by
  induction start generalizing seen with
  | nil => rfl
  | cons byte start ih =>
      have first : byte ≠ 10 := fun same => whole (same ▸ List.mem_cons_self)
      have later : 10 ∉ start := fun member => whole (List.mem_cons_of_mem _ member)
      rw [List.cons_append, split, if_neg first, ih _ later, List.reverse_cons, List.append_assoc]
      rfl

/-- Only a carriage return is taken off the end of a line. -/
theorem close_of_ne {byte : UInt8} (other : byte ≠ 13) (seen : List UInt8) :
    close (byte :: seen) = (byte :: seen).reverse := by
  unfold close
  split
  · rename_i same
    exact absurd (List.cons.inj same).1 other
  · rfl

theorem bytes_singleton (c : Char) : bytes [c] = String.utf8EncodeChar c :=
  List.flatMap_singleton _ _

/-- A line that is closed loses the carriage return at its end. -/
theorem close_bytes (line : List Char) : close (bytes line).reverse = bytes (dropReturn line) := by
  rcases List.eq_nil_or_concat' line with rfl | ⟨before, last, rfl⟩
  · rfl
  · rw [dropReturn, List.getLast?_concat, List.dropLast_concat, bytes_append, List.reverse_append]
    by_cases returns : last = '\r'
    · subst returns
      rw [if_pos rfl]
      exact List.reverse_reverse _
    · have noReturn : 13 ∉ String.utf8EncodeChar last :=
        not_mem_utf8EncodeChar (by decide) fun same => returns (Char.toNat_inj.mp same)
      rw [if_neg (by rwa [Option.some.injEq]), bytes_append, bytes_singleton]
      cases given : (String.utf8EncodeChar last).reverse with
      | nil => exact absurd (List.reverse_eq_nil_iff.mp given) String.utf8EncodeChar_ne_nil
      | cons byte others =>
          have other : byte ≠ 13 := by
            rintro rfl
            apply noReturn
            rw [← List.mem_reverse, given]
            exact List.mem_cons_self
          rw [List.cons_append, close_of_ne other, ← List.cons_append, ← given,
            List.reverse_append, List.reverse_reverse, List.reverse_reverse]

theorem ofPieces_singleton (line : List Char) :
    ofPieces [line] = if line.isEmpty then [] else [line] := by
  cases line <;> rfl

/-- All pieces but the last are lines that a line feed ended. -/
theorem ofPieces_cons (line : List Char) {pieces : List (List Char)} (more : pieces ≠ []) :
    ofPieces (line :: pieces) = dropReturn line :: ofPieces pieces := by
  rw [ofPieces, List.dropLast_cons_of_ne_nil more, List.getLast?_cons_of_ne_nil more]
  rfl

/-- The bytes of a text are cut where the text is. -/
theorem split_bytes (line cs : List Char) (whole : '\n' ∉ line) :
    split (bytes line).reverse (bytes cs) =
      (ofPieces ((line ++ cs).splitOn '\n')).map bytes := by
  -- The induction is on the characters that are left; `line` is what was read of a line.
  induction cs generalizing line with
  | nil =>
      rw [List.append_nil, List.splitOn_eq_singleton whole, ofPieces_singleton]
      cases line with
      | nil => rfl
      | cons c line =>
          have some_byte : (bytes (c :: line)).reverse ≠ [] := by
            rw [ne_eq, List.reverse_eq_nil_iff, bytes, List.flatMap_cons, List.append_eq_nil_iff]
            exact fun nothing => String.utf8EncodeChar_ne_nil nothing.1
          have nothing : bytes [] = [] := rfl
          rw [nothing, split, if_neg (by rwa [List.isEmpty_iff]), List.reverse_reverse]
          rfl
  | cons c cs ih =>
      by_cases feed : c = '\n'
      · subst feed
        have rest : bytes ('\n' :: cs) = 10 :: bytes cs := rfl
        rw [List.splitOn_append_cons_self_of_not_mem whole, rest, split, if_pos rfl, close_bytes,
          ofPieces_cons _ (List.splitOn_ne_nil _ _), List.map_cons]
        exact congrArg (bytes (dropReturn line) :: ·) (ih [] List.not_mem_nil)
      · have noFeed : 10 ∉ String.utf8EncodeChar c :=
          not_mem_utf8EncodeChar (by decide) fun same => feed (Char.toNat_inj.mp same)
        have longer : '\n' ∉ line ++ [c] := by
          rw [List.mem_append, List.mem_singleton]
          rintro (member | same)
          · exact whole member
          · exact feed same.symm
        have taken := ih (line ++ [c]) longer
        have rest : bytes (c :: cs) = String.utf8EncodeChar c ++ bytes cs := rfl
        rw [bytes_append, bytes_singleton, List.reverse_append, List.append_assoc,
          List.singleton_append] at taken
        rw [rest, split_append _ _ _ noFeed, taken]

/-- **The lines of a file are the lines of its text.** -/
theorem ofFile_toUTF8 (text : String) : ofFile text.toUTF8 = (ofText text).map some := by
  have cut := split_bytes [] text.toList List.not_mem_nil
  have nothing : (bytes []).reverse = [] := rfl
  rw [nothing, List.nil_append] at cut
  rw [ofFile, data_toUTF8, cut, ofText, List.map_map, List.map_map]
  exact List.map_congr_left fun line _ => text?_bytes line

example : ofText "a\r\n\n\r" = ["a", "", "\r"] := by decide

end ClusterClient.Line
