import Mathlib.Data.List.Basic
import Reckoner.Proofs.Calculation.Failure
import Reckoner.Proofs.Text.Printable
import Reckoner.Proofs.Token.Foreign

/-!
# Messages of failures

A message shows one part of the text that failed: a byte, which is escaped, or the text
of a token, which is shown as it is. The second is harmless because a scan finds no token
with anything but a numeral or a symbol in it. So a message is printable, whatever is in
the text.

A message also tells its failure. The three kinds of messages differ in their wording, a
position ends at the first character that is no digit, a token at the closing quote, and
an escaped byte can be read back.
-/

namespace Reckoner

/-- What is in front of a mark and what is behind it can be told from the whole if the mark
is not in the part in front. -/
theorem eq_of_marked {mark : Char} {front otherFront back otherBack : List Char}
    (free : mark ∉ front) (otherFree : mark ∉ otherFront)
    (same : front ++ mark :: back = otherFront ++ mark :: otherBack) :
    front = otherFront ∧ back = otherBack := by
  have cut {part : List Char} (free : mark ∉ part) (rest : List Char) :
      (part ++ mark :: rest).takeWhile (· != mark) = part := by
    have passed : ∀ character ∈ part, (character != mark) = true := by
      intro character member
      exact bne_iff_ne.mpr fun isMark => free (isMark ▸ member)
    rw [List.takeWhile_append_of_pos passed, List.takeWhile_cons_of_neg (by simp),
      List.append_nil]
  have fronts : front = otherFront := by rw [← cut free back, same, cut otherFree]
  subst fronts
  exact ⟨rfl, (List.cons.inj (List.append_cancel_left same)).2⟩

/-! ### Escaped bytes -/

namespace Escape

/-- The number that a lower-case hexadecimal digit stands for. -/
def digitValue (digit : Char) : Nat :=
  if digit.toNat < 0x3a then digit.toNat - 0x30 else digit.toNat - 0x57

/-- The byte that a character stands for behind a backslash: a control character that has
a letter, or the character itself. -/
def ofMark (mark : Char) : UInt8 :=
  if mark = 't' then 0x09 else if mark = 'r' then 0x0d else if mark = 'n' then 0x0a
  else UInt8.ofNat mark.toNat

/-- The byte that is escaped so. The length of its text tells how it was escaped. -/
def unescape : List Char → Option UInt8
  | [character] => some (UInt8.ofNat character.toNat)
  | [_, mark] => some (ofMark mark)
  | [_, _, high, low] => some (UInt8.ofNat (16 * digitValue high + digitValue low))
  | _ => none

/-- The digit that is written for a number stands for the number modulo sixteen. -/
theorem digitValue_hexDigit (value : Nat) : digitValue (hexDigit value) = value % 16 := by
  have digits : ∀ digit < 16, digitValue (Nat.digitChar digit) = digit := by decide
  exact digits _ (Nat.mod_lt value (by decide))

/-- A byte that is written as two hexadecimal digits is read back from them. -/
theorem unescape_hexByte (value : UInt8) : unescape (hexByte value).toList = some value := by
  have bound : value.toNat < 256 := value.toNat_lt
  have split : 16 * (value.toNat / 16 % 16) + value.toNat % 16 = value.toNat := by omega
  rw [hexByte, String.toList_ofList, unescape, digitValue_hexDigit, digitValue_hexDigit, split,
    UInt8.ofNat_toNat]

/-- An escaped byte is read back, whatever byte it is. -/
theorem unescape_byte (value : UInt8) : unescape (byte value).toList = some value := by
  unfold byte
  -- The short escapes are fixed texts.
  repeat (split; · next short => rw [short]; rfl)
  split
  · rw [String.toList_singleton, unescape, toNat_char_of_byte, UInt8.ofNat_toNat]
  · exact unescape_hexByte value

/-- Bytes that are escaped alike are equal, because the escaped byte is read back. -/
theorem byte_injective {value other : UInt8} (same : byte value = byte other) : value = other := by
  have readBack := unescape_byte value
  rw [same, unescape_byte other] at readBack
  exact (Option.some.inj readBack).symm

end Escape

/-! ### Tokens and positions -/

/-- Numbers that are written alike are equal, because the numeral is read back. -/
theorem Decimal.writeNat_injective {number other : Nat}
    (same : writeNat number = writeNat other) : number = other := by
  rw [← read_writeNat number, same, read_writeNat]

/-- A numeral has digits only. -/
theorem Decimal.not_mem_numeral {numeral : String} (isNumeral : isNumeral numeral = true)
    {mark : Char} (notDigit : mark.isDigit = false) : mark ∉ numeral.toList := by
  intro member
  have digit : mark.isDigit = true :=
    Char.isDigit_iff_toNat.mpr ((isNumeral_iff.mp isNumeral).2 mark member)
  rw [notDigit] at digit
  cases digit

/-- No token has a quote in its text. -/
theorem Token.quote_not_mem_value {token : Token} (wellFormed : token.isWellFormed = true) :
    '"' ∉ token.value.toList := by
  obtain ⟨kind, value⟩ := token
  cases kind with
  | number => exact Decimal.not_mem_numeral wellFormed rfl
  | openParen | closeParen =>
    obtain rfl := of_decide_eq_true wellFormed
    decide
  | operator sign =>
    obtain rfl := of_decide_eq_true wellFormed
    cases sign <;> decide

/-- The text of a token tells the token, because a scan of it finds no other. -/
theorem Token.eq_of_value_eq {token other : Token} (wellFormed : token.isWellFormed = true)
    (otherWellFormed : other.isWellFormed = true) (same : token.value = other.value) :
    token = other := by
  have scanned := (Scan.reads_token wellFormed).tokenize
  rw [same, (Scan.reads_token otherWellFormed).tokenize] at scanned
  exact (List.cons.inj (Except.ok.inj scanned)).1.symm

/-! ### Failures of texts -/

/-- The failures that texts have: for a byte, for a token that has the text of its kind,
or for the end of the text. -/
inductive Failure.OfText : Failure → Prop
  | foreign (position : Nat) (byte : UInt8) :
      OfText (.unreadable (.lexical (.unexpectedCharacter position byte)))
  | unexpected {token : Token} (wellFormed : token.isWellFormed = true) (position : Nat) :
      OfText (.unreadable (.grammatical (.unexpectedToken token position)))
  | ended : OfText (.unreadable (.grammatical .unexpectedEndOfInput))

namespace Failure

/-- A text has no other failures: its tokens are well formed, and it has a value as soon as
they are accepted. -/
theorem ofText_of_failed {text : String} {failure : Failure}
    (failed : evaluate text = .error failure) : failure.OfText := by
  obtain ⟨cause, unread, rfl⟩ := evaluate_eq_error_iff.mp failed
  rcases Tree.ofText_eq_error_iff.mp unread with
    ⟨⟨position, byte⟩, _, rfl⟩ | ⟨tokens, error, scanned, rejected, rfl⟩
  · exact .foreign position byte
  · have faulty := (Grammar.rejected_iff_fault tokens error).mp rejected
    obtain ⟨count, bound, _, _, inside, ended⟩ := Grammar.Expectation.exists_stop_of_fault faulty
    rcases Nat.lt_or_eq_of_le bound with within | atEnd
    · rw [(inside within).2]
      exact .unexpected (Scan.isWellFormed_of_tokenize scanned (List.getElem_mem within)) _
    · rw [ended atEnd]
      exact .ended

/-- All parts of such a message are printable: the words, the position, and the escaped
byte or the text of the token. -/
theorem OfText.isPrintable_message {failure : Failure} (ofText : failure.OfText) :
    isPrintable failure.message = true := by
  cases ofText with
  | foreign position byte =>
    change isPrintable ("unexpected character at " ++ Decimal.writeNat position ++ ": '" ++
      Escape.byte byte ++ "'") = true
    rw [isPrintable_append, isPrintable_append, isPrintable_append, isPrintable_append,
      isPrintable_writeNat, Escape.isPrintable_byte]
    rfl
  | @unexpected token wellFormed position =>
    change isPrintable ("unexpected token \"" ++ token.value ++ "\" at " ++
      Decimal.writeNat position) = true
    rw [isPrintable_append, isPrintable_append, isPrintable_append, isPrintable_writeNat,
      Token.isPrintable_value wellFormed]
    rfl
  | ended => rfl

/-- The message for a text that fails is printable, whatever the text is. -/
theorem isPrintable_message {text : String} {failure : Failure}
    (failed : evaluate text = .error failure) : isPrintable failure.message = true :=
  (ofText_of_failed failed).isPrintable_message

/-! ### From a message to its failure -/

/-- The message for a byte, cut at the colon that ends the position. -/
theorem toList_foreign (position : Nat) (byte : UInt8) :
    (unreadable (.lexical (.unexpectedCharacter position byte))).message.toList =
      "unexpected character at ".toList ++ ((Decimal.writeNat position).toList ++
        ':' :: (" '".toList ++ ((Escape.byte byte).toList ++ "'".toList))) := by
  change ("unexpected character at " ++ Decimal.writeNat position ++ ": '" ++
    Escape.byte byte ++ "'").toList = _
  simp only [String.toList_append, List.append_assoc]
  rfl

/-- The message for a token, cut at the quote that ends the token's text. -/
theorem toList_unexpected (token : Token) (position : Nat) :
    (unreadable (.grammatical (.unexpectedToken token position))).message.toList =
      "unexpected token \"".toList ++ (token.value.toList ++
        '"' :: (" at ".toList ++ (Decimal.writeNat position).toList)) := by
  change ("unexpected token \"" ++ token.value ++ "\" at " ++ Decimal.writeNat position).toList = _
  simp only [String.toList_append, List.append_assoc]
  rfl

/-- Behind the word that all messages begin with there is another letter for each kind of
failure. -/
theorem letter_foreign (position : Nat) (byte : UInt8) :
    (unreadable (.lexical (.unexpectedCharacter position byte))).message.toList[11]? =
      some 'c' := by
  rw [toList_foreign]
  rfl

/-- In the message for a token this letter is a t. -/
theorem letter_unexpected (token : Token) (position : Nat) :
    (unreadable (.grammatical (.unexpectedToken token position))).message.toList[11]? =
      some 't' := by
  rw [toList_unexpected]
  rfl

/-- In the message for the end of the text it is an e. -/
theorem letter_ended :
    (unreadable (.grammatical .unexpectedEndOfInput)).message.toList[11]? = some 'e' := rfl

/-- The message for a byte ends its position with a colon. -/
theorem foreign_of_message {position otherPosition : Nat} {byte otherByte : UInt8}
    (same : (unreadable (.lexical (.unexpectedCharacter position byte))).message =
      (unreadable (.lexical (.unexpectedCharacter otherPosition otherByte))).message) :
    position = otherPosition ∧ byte = otherByte := by
  have noColon (number : Nat) : ':' ∉ (Decimal.writeNat number).toList :=
    Decimal.not_mem_numeral (Decimal.isNumeral_writeNat number) rfl
  have sameCharacters := congrArg String.toList same
  rw [toList_foreign, toList_foreign] at sameCharacters
  obtain ⟨positions, behind⟩ :=
    eq_of_marked (noColon _) (noColon _) (List.append_cancel_left sameCharacters)
  have bytes := List.append_cancel_right (List.append_cancel_left behind)
  exact ⟨Decimal.writeNat_injective (String.toList_inj.mp positions),
    Escape.byte_injective (String.toList_inj.mp bytes)⟩

/-- The message for a token ends its text with a quote. -/
theorem unexpected_of_message {token otherToken : Token} {position otherPosition : Nat}
    (wellFormed : token.isWellFormed = true) (otherWellFormed : otherToken.isWellFormed = true)
    (same : (unreadable (.grammatical (.unexpectedToken token position))).message =
      (unreadable (.grammatical (.unexpectedToken otherToken otherPosition))).message) :
    token = otherToken ∧ position = otherPosition := by
  have sameCharacters := congrArg String.toList same
  rw [toList_unexpected, toList_unexpected] at sameCharacters
  obtain ⟨values, behind⟩ := eq_of_marked (Token.quote_not_mem_value wellFormed)
    (Token.quote_not_mem_value otherWellFormed) (List.append_cancel_left sameCharacters)
  have positions := List.append_cancel_left behind
  exact ⟨Token.eq_of_value_eq wellFormed otherWellFormed (String.toList_inj.mp values),
    Decimal.writeNat_injective (String.toList_inj.mp positions)⟩

/-- The failures of texts are told apart by their messages. One letter tells the kind of a
failure, and within a kind the position and what was found are read back. -/
theorem OfText.eq_of_message {failure other : Failure} (ofText : failure.OfText)
    (otherOfText : other.OfText) (same : failure.message = other.message) : failure = other := by
  have sameLetter := congrArg (fun message : String => message.toList[11]?) same
  cases ofText with
  | foreign position byte =>
    cases otherOfText with
    | foreign otherPosition otherByte =>
      obtain ⟨rfl, rfl⟩ := foreign_of_message same
      rfl
    | unexpected | ended =>
      simp [letter_foreign, letter_unexpected, letter_ended] at sameLetter
  | unexpected wellFormed position =>
    cases otherOfText with
    | unexpected otherWellFormed otherPosition =>
      obtain ⟨rfl, rfl⟩ := unexpected_of_message wellFormed otherWellFormed same
      rfl
    | foreign | ended =>
      simp [letter_foreign, letter_unexpected, letter_ended] at sameLetter
  | ended =>
    cases otherOfText with
    | ended => rfl
    | foreign | unexpected =>
      simp [letter_foreign, letter_unexpected, letter_ended] at sameLetter

end Failure

/-- The message for a text that fails has printable ASCII characters only, so it is one
line and carries no control sequence, whatever the text is; and it tells the failure: texts
with the same message fail in the same stage, at the same position and for the same byte or
token. -/
theorem message_tells_failure {text : String} {failure : Failure}
    (failed : evaluate text = .error failure) :
    (∀ character ∈ failure.message.toList,
      0x20 ≤ character.toNat ∧ character.toNat ≤ 0x7e) ∧
    '\n' ∉ failure.message.toList ∧
    ∀ (other : String) (otherFailure : Failure), evaluate other = .error otherFailure →
      (otherFailure.message = failure.message ↔ otherFailure = failure) := by
  have printable := Failure.isPrintable_message failed
  refine ⟨?_, newline_not_mem printable, ?_⟩
  · intro character member
    have inside : isPrintableChar character = true := List.all_eq_true.mp printable _ member
    simpa [isPrintableChar] using inside
  · intro other otherFailure otherFailed
    constructor
    · exact (Failure.ofText_of_failed otherFailed).eq_of_message (Failure.ofText_of_failed failed)
    · rintro rfl
      rfl

/-- The escape character that would begin a control sequence is shown as `\x1b`. -/
theorem escape_character_told :
    let foreign : Failure := .unreadable (.lexical (.unexpectedCharacter 1 0x1b))
    evaluate "1\x1b[2J" = .error foreign ∧
      foreign.message = "unexpected character at 1: '\\x1b'" ∧
      (∀ character ∈ foreign.message.toList,
        0x20 ≤ character.toNat ∧ character.toNat ≤ 0x7e) ∧
      '\n' ∉ foreign.message.toList ∧
      ∃ otherFailure, evaluate "(\x1b" = .error otherFailure ∧
        otherFailure.message = foreign.message := by
  intro foreign
  have first : Scan.FirstForeign (bytesOf "1\x1b[2J") 1 0x1b := by
    constructor
    · decide +kernel
    · decide +kernel
    · decide +kernel
  have otherFirst : Scan.FirstForeign (bytesOf "(\x1b") 1 0x1b := by
    constructor
    · decide +kernel
    · decide +kernel
    · decide +kernel
  obtain ⟨printable, oneLine, told⟩ := message_tells_failure first.evaluate.1
  exact ⟨first.evaluate.1, by decide, printable, oneLine, foreign, otherFirst.evaluate.1,
    (told _ _ otherFirst.evaluate.1).mpr rfl⟩

end Reckoner
