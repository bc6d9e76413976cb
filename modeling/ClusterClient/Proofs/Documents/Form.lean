import ClusterClient.Documents
import ClusterClient.Proofs.Text.Line
import ClusterClient.Text.Basic

/-! # Form encoding and back

What is encoded is decoded again: a plus sign stands for a space, a percent sign and two hexadecimal
digits for a byte, every other character for its own bytes, and the bytes are those of a text
(`ClusterClient.Form.decode?_encode`). An encoded text holds no character with a meaning in a URL
but the percent sign and the plus sign (`ClusterClient.Form.isSafe_encode`).
-/

namespace ClusterClient.Form

/-- The bytes that encoded characters stand for, if each percent sign has its two digits. -/
def decodeBytes? : List Char → Option (List UInt8)
  | [] => some []
  | '%' :: high :: low :: rest => do
    let high ← digit? 16 high
    let low ← digit? 16 low
    let bytes ← decodeBytes? rest
    return UInt8.ofNat (high * 16 + low) :: bytes
  | '%' :: _ => none
  | '+' :: rest => (decodeBytes? rest).map (32 :: ·)
  | c :: rest => (decodeBytes? rest).map (String.utf8EncodeChar c ++ ·)

/-- The text that an encoded one stands for, if there is one. -/
def decode? (encoded : String) : Option String := do
  let bytes ← decodeBytes? encoded.toList
  String.fromUTF8? (ByteArray.mk bytes.toArray)

/-- The characters of encoded texts: ASCII letters and digits, and six others. -/
def IsSafe (c : Char) : Prop := c.isAlphanum ∨ c ∈ ['*', '-', '.', '_', '+', '%']

instance : DecidablePred IsSafe := fun _ => inferInstanceAs (Decidable (_ ∨ _))

/-- A hexadecimal digit is read as the value that it was written for. -/
theorem digit?_upperHexDigit : ∀ n < 16, digit? 16 (upperHexDigit n) = some n := by decide

/-- Hexadecimal digits may stand in a query. -/
theorem isSafe_upperHexDigit : ∀ n < 16, IsSafe (upperHexDigit n) := by decide

/-- Only ASCII bytes stand for themselves. -/
theorem plain_lt {byte : UInt8} (plain : isPlain byte) : byte.toNat < 128 := by
  simp only [isPlain, Bool.or_eq_true, decide_eq_true_eq, beq_iff_eq] at plain
  omega

/-- What stands for itself is safe and is no sign of the encoding. -/
theorem plain_ascii : ∀ n < 128, isPlain (UInt8.ofNat n) →
    IsSafe (Char.ofNat n) ∧ Char.ofNat n ≠ '%' ∧ Char.ofNat n ≠ '+' := by
  decide

/-- An ASCII character is the one byte of its code. -/
theorem utf8EncodeChar_ascii :
    ∀ n < 128, String.utf8EncodeChar (Char.ofNat n) = [UInt8.ofNat n] := by
  decide

/-- Whatever a byte is encoded to may stand in a query. -/
theorem isSafe_encodeByte (byte : UInt8) : ∀ c ∈ encodeByte byte, IsSafe c := by
  intro c member
  have bound := byte.toNat_lt
  rw [encodeByte] at member
  split at member
  · rename_i plain
    rw [List.mem_singleton.mp member]
    exact (plain_ascii _ (plain_lt plain) (by rwa [UInt8.ofNat_toNat])).1
  · split at member
    · rw [List.mem_singleton.mp member]
      decide
    · simp only [List.mem_cons, List.not_mem_nil, or_false] at member
      rcases member with rfl | rfl | rfl
      · decide
      · exact isSafe_upperHexDigit _ (by omega)
      · exact isSafe_upperHexDigit _ (by omega)

/-- An encoded text consists of safe characters. -/
theorem isSafe_encode (value : String) : ∀ c ∈ (encode value).toList, IsSafe c := by
  intro c member
  rw [encode, String.toList_ofList] at member
  obtain ⟨given, _, member⟩ := List.mem_flatMap.mp member
  obtain ⟨byte, _, member⟩ := List.mem_flatMap.mp member
  exact isSafe_encodeByte byte c member

/-- A character that is no sign of the encoding stands for its own bytes. -/
theorem decodeBytes?_cons {c : Char} (percent : c ≠ '%') (plus : c ≠ '+') (rest : List Char) :
    decodeBytes? (c :: rest) = (decodeBytes? rest).map (String.utf8EncodeChar c ++ ·) := by
  rw [decodeBytes?]
  · exact fun _ _ _ same => absurd same percent
  · exact percent
  · exact plus

/-- The characters for one byte are read back as this byte. -/
theorem decodeBytes?_encodeByte (byte : UInt8) (rest : List Char) :
    decodeBytes? (encodeByte byte ++ rest) = (decodeBytes? rest).map (byte :: ·) := by
  have bound := byte.toNat_lt
  rw [encodeByte]
  split
  · rename_i plain
    have ascii := plain_lt plain
    obtain ⟨_, percent, plus⟩ := plain_ascii _ ascii (by rwa [UInt8.ofNat_toNat])
    rw [List.singleton_append, decodeBytes?_cons percent plus, utf8EncodeChar_ascii _ ascii,
      UInt8.ofNat_toNat]
    rfl
  · split
    · rename_i space
      rw [space]
      rfl
    · have value : UInt8.ofNat (byte.toNat / 16 * 16 + byte.toNat % 16) = byte := by
        rw [Nat.div_add_mod', UInt8.ofNat_toNat]
      simp only [List.cons_append, List.nil_append, decodeBytes?,
        digit?_upperHexDigit (byte.toNat / 16) (by omega),
        digit?_upperHexDigit (byte.toNat % 16) (by omega), Option.bind_eq_bind, Option.bind_some,
        value]
      cases decodeBytes? rest <;> rfl

/-- Encoded bytes are decoded to what they were. -/
theorem decodeBytes?_encodeBytes (bytes : List UInt8) :
    decodeBytes? (bytes.flatMap encodeByte) = some bytes := by
  induction bytes with
  | nil => rfl
  | cons byte bytes ih =>
      rw [List.flatMap_cons, decodeBytes?_encodeByte, ih]
      rfl

/-- **Encoding loses nothing.** -/
theorem decode?_encode (value : String) : decode? (encode value) = some value := by
  have bytes : decodeBytes? (encode value).toList = some (Line.bytes value.toList) := by
    rw [encode, String.toList_ofList, ← decodeBytes?_encodeBytes, Line.bytes, List.flatMap_assoc]
    rfl
  have text := Line.text?_bytes value.toList
  rw [String.ofList_toList] at text
  rw [decode?, bytes]
  exact text

/-- A space, a sign of the encoding and a letter of two bytes. -/
example : encode "a b+ü" = "a+b%2B%C3%BC" := by decide

/-- Different texts have different encoded forms. -/
theorem encode_injective : Function.Injective encode := by
  intro first second same
  have read := decode?_encode first
  rw [same, decode?_encode] at read
  exact (Option.some.inj read).symm

end ClusterClient.Form
