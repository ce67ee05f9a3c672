import Reckoner.Token.Scan

/-!
# The bytes of texts

The bytes of a text are those of its characters in order, so texts that are put
together have their bytes put together. Bytes that are those of a text are decoded
to it and to no other. An ASCII character is one byte, its code point; a text of
such characters is read back from its bytes.
-/

namespace Reckoner

/-- The list of a byte array has the bytes of its data. Core lists them with a loop that
counts up, which is unrolled here. -/
theorem toList_byteArray (bytes : ByteArray) : bytes.toList = bytes.data.toList := by
  have collects (index : Nat) (held : List UInt8) :
      ByteArray.toList.loop bytes index held = held.reverse ++ bytes.data.toList.drop index := by
    fun_induction ByteArray.toList.loop bytes index held with
    | case1 index held inside inductionHypothesis =>
      have bound : index < bytes.data.toList.length := inside
      rw [inductionHypothesis, List.drop_eq_getElem_cons bound, List.reverse_cons,
        List.append_assoc, List.singleton_append, Array.getElem_toList]
      congr 2
      exact getElem!_pos bytes.data index inside
    | case2 index held outside =>
      rw [List.drop_eq_nil_of_le (Nat.le_of_not_lt outside), List.append_nil]
  simpa [ByteArray.toList] using collects 0 []

/-- Bytes are decoded to the text they are the bytes of, if they are those of any. -/
theorem fromUTF8?_eq_some_iff {bytes : List UInt8} {text : String} :
    String.fromUTF8? (ByteArray.mk bytes.toArray) = some text ↔ bytesOf text = bytes := by
  constructor
  · intro decoded
    rw [String.fromUTF8?] at decoded
    split at decoded
    · cases decoded
      rw [bytesOf, String.toUTF8_eq_toByteArray, String.fromUTF8, toList_byteArray]
    · cases decoded
  · rintro rfl
    have whole : ByteArray.mk (bytesOf text).toArray = text.toByteArray := by
      rw [bytesOf, String.toUTF8_eq_toByteArray, toList_byteArray]
    rw [whole, String.fromUTF8?, dif_pos text.isValidUTF8]
    rfl

/-- The bytes of a text are those of its characters in order. -/
theorem bytesOf_eq_flatMap (text : String) :
    bytesOf text = text.toList.flatMap String.utf8EncodeChar := by
  rw [bytesOf, String.toUTF8_eq_toByteArray, toList_byteArray, ← String.utf8Encode_toList,
    List.utf8Encode, List.toList_data_toByteArray]

/-- The empty text has no bytes. -/
@[simp] theorem bytesOf_empty : bytesOf "" = [] := bytesOf_eq_flatMap ""

/-- Texts that are put together have their bytes put together. -/
@[simp] theorem bytesOf_append (text later : String) :
    bytesOf (text ++ later) = bytesOf text ++ bytesOf later := by
  simp [bytesOf_eq_flatMap]

/-- An ASCII character is one byte, with its code point as value. -/
theorem utf8EncodeChar_of_ascii {character : Char} (ascii : character.toNat < 128) :
    String.utf8EncodeChar character = [UInt8.ofNat character.toNat] :=
  if_pos (Nat.le_of_lt_succ ascii)

/-- No byte of a character outside ASCII is an ASCII byte. -/
theorem not_ascii_of_mem {character : Char} (outside : 128 ≤ character.toNat) {byte : UInt8}
    (member : byte ∈ String.utf8EncodeChar character) : 128 ≤ byte.toNat := by
  have long : ¬ character.val.toNat ≤ 127 := Nat.not_le_of_lt outside
  simp only [String.utf8EncodeChar, if_neg long] at member
  split at member <;> try split at member
  all_goals
    simp only [List.mem_cons, List.not_mem_nil, or_false] at member
    rcases member with rfl | rfl | rfl | rfl <;> rw [UInt8.toNat_ofNat'] <;> omega

/-- A text of ASCII characters has one byte for each, with its code point as value. -/
theorem bytesOf_of_ascii {text : String}
    (ascii : ∀ character ∈ text.toList, character.toNat < 128) :
    bytesOf text = text.toList.map fun character => UInt8.ofNat character.toNat := by
  rw [bytesOf_eq_flatMap]
  generalize text.toList = characters at ascii
  induction characters with
  | nil => rfl
  | cons character characters inductionHypothesis =>
    have first : character.toNat < 128 := ascii character List.mem_cons_self
    have later : ∀ other ∈ characters, other.toNat < 128 :=
      fun other member => ascii other (List.mem_cons_of_mem character member)
    rw [List.flatMap_cons, utf8EncodeChar_of_ascii first, inductionHypothesis later]
    rfl

/-- A text of one ASCII character is one byte. -/
theorem bytesOf_singleton (character : Char) (ascii : character.toNat < 128) :
    bytesOf (String.singleton character) = [UInt8.ofNat character.toNat] := by
  rw [bytesOf_eq_flatMap, String.toList_singleton, List.flatMap_singleton,
    utf8EncodeChar_of_ascii ascii]

/-- A space is one byte. -/
theorem bytesOf_space : bytesOf " " = [0x20] := bytesOf_singleton ' ' (by decide)

/-- A byte is the code point of a character. -/
theorem toNat_char_of_byte (byte : UInt8) : (Char.ofNat byte.toNat).toNat = byte.toNat := by
  have bound : byte.toNat < 256 := byte.toNat_lt
  have valid : byte.toNat.isValidChar := .inl (by omega)
  rw [Char.ofNat, dif_pos valid]
  rfl

/-- A text of ASCII characters is read back from its bytes. -/
theorem textOf_bytesOf {text : String} (ascii : ∀ character ∈ text.toList, character.toNat < 128) :
    Scan.textOf (bytesOf text) = text := by
  have restored : ∀ character ∈ text.toList,
      Char.ofNat (UInt8.ofNat character.toNat).toNat = character := by
    intro character member
    have small := ascii character member
    rw [UInt8.toNat_ofNat', Nat.mod_eq_of_lt (by omega), Char.ofNat_toNat]
  rw [bytesOf_of_ascii ascii, Scan.textOf, List.map_map]
  exact (congrArg String.ofList (List.map_congr_left restored)).trans (by simp)

/-- ASCII bytes are read back from their text. -/
theorem bytesOf_textOf {bytes : List UInt8} (ascii : ∀ byte ∈ bytes, byte.toNat < 128) :
    bytesOf (Scan.textOf bytes) = bytes := by
  have characters : ∀ character ∈ (Scan.textOf bytes).toList, character.toNat < 128 := by
    intro character member
    rw [Scan.textOf, String.toList_ofList] at member
    obtain ⟨byte, within, rfl⟩ := List.mem_map.mp member
    rw [toNat_char_of_byte]
    exact ascii byte within
  rw [bytesOf_of_ascii characters, Scan.textOf, String.toList_ofList, List.map_map]
  simp [Function.comp_def, toNat_char_of_byte]

end Reckoner
