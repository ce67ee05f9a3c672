import Reckoner.Proofs.Text.Bytes

/-!
# How tokens are spelled

The tokens that a scan finds have the text of their kind: a number token has a
numeral and every other token its own symbol. In the other direction, a scan of
such a text finds the token, whatever follows. Only a number must not be followed
by a further digit, because a run of digits is taken as far as it goes.
-/

namespace Reckoner

/-- Whether a token has the text of its kind. -/
def Token.isWellFormed (token : Token) : Bool :=
  match token.kind with
  | .number => Decimal.isNumeral token.value
  | .openParen => token.value = "("
  | .closeParen => token.value = ")"
  | .operator sign => token.value = sign.text

/-- The text of a well-formed number is a numeral. -/
theorem Token.isNumeral_of_number {token : Token} (wellFormed : token.isWellFormed = true)
    (number : token.kind = .number) : Decimal.isNumeral token.value = true := by
  rwa [isWellFormed, number] at wellFormed

/-- The bytes of digits are those from 48 to 57. -/
theorem Scan.isDigit_iff {byte : UInt8} :
    isDigit byte = true ↔ 48 ≤ byte.toNat ∧ byte.toNat ≤ 57 := by
  simp only [isDigit, Bool.and_eq_true, decide_eq_true_eq, UInt8.le_iff_toNat_le]
  exact Iff.rfl

/-- A numeral has a character, and all of them have code points from 48 to 57. -/
theorem Decimal.isNumeral_iff {text : String} :
    isNumeral text = true ↔
      text ≠ "" ∧ ∀ character ∈ text.toList, 48 ≤ character.toNat ∧ character.toNat ≤ 57 := by
  simp only [isNumeral, Bool.and_eq_true, Bool.not_eq_true', List.all_eq_true,
    Char.isDigit_iff_toNat, ← Bool.not_eq_true, String.isEmpty_iff]
  exact Iff.rfl

/-- The text of a numeral in bytes: there is a digit, and all are digits. -/
theorem bytesOf_numeral {numeral : String} (isNumeral : Decimal.isNumeral numeral = true) :
    Scan.textOf (bytesOf numeral) = numeral ∧ bytesOf numeral ≠ [] ∧
      ∀ byte ∈ bytesOf numeral, Scan.isDigit byte = true := by
  obtain ⟨occupied, digits⟩ := Decimal.isNumeral_iff.mp isNumeral
  have ascii : ∀ character ∈ numeral.toList, character.toNat < 128 := by
    intro character member
    have := (digits character member).2
    omega
  refine ⟨textOf_bytesOf ascii, ?_, ?_⟩
  · intro empty
    rw [bytesOf_of_ascii ascii] at empty
    exact occupied (String.toList_eq_nil_iff.mp (List.map_eq_nil_iff.mp empty))
  · intro byte member
    rw [bytesOf_of_ascii ascii] at member
    obtain ⟨character, within, rfl⟩ := List.mem_map.mp member
    obtain ⟨low, high⟩ := digits character within
    rw [Scan.isDigit_iff, UInt8.toNat_ofNat', Nat.mod_eq_of_lt (by omega)]
    exact ⟨low, high⟩

/-- Digits are the bytes of their text. -/
theorem bytesOf_textOf_digits {digits : List UInt8}
    (all : ∀ byte ∈ digits, Scan.isDigit byte = true) : bytesOf (Scan.textOf digits) = digits := by
  apply bytesOf_textOf
  intro byte member
  have := (Scan.isDigit_iff.mp (all byte member)).2
  omega

/-- A run of digits is a numeral. -/
theorem isNumeral_textOf {digits : List UInt8} (occupied : digits ≠ [])
    (all : ∀ byte ∈ digits, Scan.isDigit byte = true) :
    Decimal.isNumeral (Scan.textOf digits) = true := by
  rw [Decimal.isNumeral_iff]
  constructor
  · intro empty
    have none : digits = [] := by simpa [Scan.textOf] using empty
    exact occupied none
  · intro character member
    rw [Scan.textOf, String.toList_ofList] at member
    obtain ⟨byte, within, rfl⟩ := List.mem_map.mp member
    rw [toNat_char_of_byte]
    exact Scan.isDigit_iff.mp (all byte within)

namespace Scan

/-- Whether bytes would prolong a run of digits. -/
def startsWithDigit (bytes : List UInt8) : Bool := bytes.head?.any isDigit

/-- A scan goes past a separator. -/
theorem ofBytesAt_separator {byte : UInt8} (separator : isSeparator byte = true) (offset : Nat)
    (rest : List UInt8) : ofBytesAt offset (byte :: rest) = ofBytesAt (offset + 1) rest := by
  rw [ofBytesAt, if_pos separator]

/-- A scan takes a symbol as a token and goes on behind it. -/
theorem ofBytesAt_punctuation {byte : UInt8} {token : Token} (separator : isSeparator byte = false)
    (digit : isDigit byte = false) (found : punctuation? byte = some token) (offset : Nat)
    (rest : List UInt8) :
    ofBytesAt offset (byte :: rest) = (ofBytesAt (offset + 1) rest).cons ⟨token, offset⟩ := by
  rw [ofBytesAt]
  simp [separator, digit, found]

/-- The run that a digit begins has digits only. -/
theorem isDigit_of_mem_run {first : UInt8} (digit : isDigit first = true) (rest : List UInt8) :
    ∀ byte ∈ first :: rest.takeWhile isDigit, isDigit byte = true := by
  intro byte member
  rcases List.mem_cons.mp member with rfl | inRun
  · exact digit
  · exact List.all_eq_true.mp List.all_takeWhile byte inRun

/-- A run of digits that nothing prolongs is one token. -/
theorem ofBytesAt_digits {digits : List UInt8} (occupied : digits ≠ [])
    (all : ∀ byte ∈ digits, isDigit byte = true) (offset : Nat) {rest : List UInt8}
    (apart : startsWithDigit rest = false) :
    ofBytesAt offset (digits ++ rest) =
      (ofBytesAt (offset + digits.length) rest).cons ⟨.number (textOf digits), offset⟩ := by
  obtain ⟨first, later, rfl⟩ := List.exists_cons_of_ne_nil occupied
  have digit : isDigit first = true := all first List.mem_cons_self
  have separator : ¬ isSeparator first = true := by
    intro blank
    simp only [isSeparator, Bool.or_eq_true, decide_eq_true_eq] at blank
    rcases blank with (rfl | rfl) | rfl <;> cases digit
  have more : ∀ byte ∈ later, isDigit byte = true :=
    fun byte member => all byte (List.mem_cons_of_mem first member)
  have run : (later ++ rest).takeWhile isDigit = later := by
    rw [List.takeWhile_append_of_pos more]
    cases rest with
    | nil => simp
    | cons byte rest => simp [List.takeWhile_cons_of_neg, show isDigit byte = false from apart]
  have behind : (later ++ rest).dropWhile isDigit = rest := by
    rw [List.dropWhile_append_of_pos more]
    cases rest with
    | nil => rfl
    | cons byte rest => simp [show isDigit byte = false from apart]
  rw [List.cons_append, ofBytesAt, if_neg separator, if_pos digit]
  simp only [run, behind]

/-- A well-formed token that is no number is spelled with one byte, its symbol. -/
theorem exists_punctuation {token : Token} (wellFormed : token.isWellFormed = true)
    (notNumber : token.kind ≠ .number) : ∃ byte, bytesOf token.value = [byte] ∧
      isSeparator byte = false ∧ isDigit byte = false ∧ punctuation? byte = some token := by
  obtain ⟨kind, value⟩ := token
  cases kind with
  | number => exact absurd rfl notNumber
  | openParen =>
    obtain rfl : value = "(" := of_decide_eq_true wellFormed
    exact ⟨0x28, bytesOf_singleton '(' (by decide), rfl, rfl, rfl⟩
  | closeParen =>
    obtain rfl : value = ")" := of_decide_eq_true wellFormed
    exact ⟨0x29, bytesOf_singleton ')' (by decide), rfl, rfl, rfl⟩
  | operator sign =>
    obtain rfl : value = sign.text := of_decide_eq_true wellFormed
    cases sign with
    | add => exact ⟨0x2b, bytesOf_singleton '+' (by decide), rfl, rfl, rfl⟩
    | subtract => exact ⟨0x2d, bytesOf_singleton '-' (by decide), rfl, rfl, rfl⟩

/-- A well-formed token is found where its text stands, unless it is a number that
further digits prolong. -/
theorem ofBytesAt_token {token : Token} (wellFormed : token.isWellFormed = true) (offset : Nat)
    {rest : List UInt8} (apart : token.kind = .number → startsWithDigit rest = false) :
    ofBytesAt offset (bytesOf token.value ++ rest) =
      (ofBytesAt (offset + (bytesOf token.value).length) rest).cons ⟨token, offset⟩ := by
  by_cases number : token.kind = .number
  · obtain ⟨kind, value⟩ := token
    obtain rfl : kind = .number := number
    obtain ⟨restored, occupied, digits⟩ := bytesOf_numeral wellFormed
    have found := ofBytesAt_digits occupied digits offset (apart rfl)
    rwa [restored] at found
  · obtain ⟨byte, spelled, separator, digit, found⟩ := exists_punctuation wellFormed number
    rw [spelled]
    exact ofBytesAt_punctuation separator digit found offset rest

/-- A byte that is a token on its own makes a well-formed one. -/
theorem isWellFormed_of_punctuation {byte : UInt8} {token : Token}
    (found : punctuation? byte = some token) : token.isWellFormed = true := by
  unfold punctuation? at found
  repeat' split at found
  case isFalse.isFalse.isFalse.isFalse => cases found
  all_goals
    cases found
    rfl

/-- A byte that is a token on its own is the text of this token. -/
theorem spelled_of_punctuation {byte : UInt8} {token : Token}
    (found : punctuation? byte = some token) :
    token.kind ≠ .number ∧ bytesOf token.value = [byte] := by
  unfold punctuation? at found
  repeat' split at found
  case isTrue =>
    subst byte
    cases found
    exact ⟨nofun, bytesOf_singleton '(' (by decide)⟩
  case isFalse.isTrue =>
    subst byte
    cases found
    exact ⟨nofun, bytesOf_singleton ')' (by decide)⟩
  case isFalse.isFalse.isTrue =>
    subst byte
    cases found
    exact ⟨nofun, bytesOf_singleton '+' (by decide)⟩
  case isFalse.isFalse.isFalse.isTrue =>
    subst byte
    cases found
    exact ⟨nofun, bytesOf_singleton '-' (by decide)⟩
  case isFalse.isFalse.isFalse.isFalse => cases found

/-- A scan that gets to these bytes finds these tokens in them, and then goes on with
what follows, provided that no digit follows. -/
def Reads (bytes : List UInt8) (tokens : List Token) : Prop :=
  ∀ offset rest, startsWithDigit rest = false →
    (ofBytesAt offset (bytes ++ rest)).tokens =
      tokens ++ (ofBytesAt (offset + bytes.length) rest).tokens ∧
    (ofBytesAt offset (bytes ++ rest)).failure = (ofBytesAt (offset + bytes.length) rest).failure

/-- In no bytes there are no tokens. -/
theorem reads_nil : Reads [] [] := fun _ _ _ => ⟨rfl, rfl⟩

/-- The text of a well-formed token is read as that token. -/
theorem reads_token {token : Token} (wellFormed : token.isWellFormed = true) :
    Reads (bytesOf token.value) [token] := by
  intro offset rest apart
  rw [ofBytesAt_token wellFormed offset fun _ => apart]
  exact ⟨rfl, rfl⟩

/-- A separator is read past. -/
theorem Reads.behind_separator {byte : UInt8} {bytes : List UInt8} {tokens : List Token}
    (reads : Reads bytes tokens) (separator : isSeparator byte = true) :
    Reads (byte :: bytes) tokens := by
  intro offset rest apart
  rw [List.cons_append, ofBytesAt_separator separator, List.length_cons,
    Nat.add_comm bytes.length, ← Nat.add_assoc]
  exact reads (offset + 1) rest apart

/-- A token that is no number can be followed by anything. -/
theorem Reads.behind_token {token : Token} {bytes : List UInt8} {tokens : List Token}
    (reads : Reads bytes tokens) (wellFormed : token.isWellFormed = true)
    (notNumber : token.kind ≠ .number) :
    Reads (bytesOf token.value ++ bytes) (token :: tokens) := by
  intro offset rest apart
  obtain ⟨later, ended⟩ := reads (offset + (bytesOf token.value).length) rest apart
  rw [List.append_assoc, ofBytesAt_token wellFormed offset fun number => absurd number notNumber,
    List.length_append, ← Nat.add_assoc, List.cons_append, ← later, ← ended]
  exact ⟨rfl, rfl⟩

/-- Bytes are read one part after the other if the second part does not begin with a
digit. -/
theorem Reads.append {bytes more : List UInt8} {tokens later : List Token}
    (reads : Reads bytes tokens) (next : Reads more later) (occupied : more ≠ [])
    (apart : startsWithDigit more = false) : Reads (bytes ++ more) (tokens ++ later) := by
  intro offset rest restApart
  obtain ⟨byte, others, rfl⟩ := List.exists_cons_of_ne_nil occupied
  obtain ⟨first, firstEnded⟩ := reads offset (byte :: others ++ rest) apart
  obtain ⟨second, secondEnded⟩ := next (offset + bytes.length) rest restApart
  rw [List.append_assoc, List.length_append, ← Nat.add_assoc, List.append_assoc, ← second,
    ← secondEnded]
  exact ⟨first, firstEnded⟩

/-- A whole input is read to its end. -/
theorem Reads.tokenize {bytes : List UInt8} {tokens : List Token} (reads : Reads bytes tokens) :
    tokenize bytes = .ok tokens := by
  obtain ⟨found, ended⟩ := reads 0 [] rfl
  rw [List.append_nil, ofBytesAt] at found ended
  have all : (ofBytes bytes).tokens = tokens := found.trans (List.append_nil _)
  have none : (ofBytes bytes).failure = none := ended
  simp only [Reckoner.tokenize, result, none, all]

/-- A scan finds well-formed tokens only. -/
theorem isWellFormed_of_mem {offset : Nat} {bytes : List UInt8} {lexeme : Lexeme}
    (member : lexeme ∈ (ofBytesAt offset bytes).lexemes) : lexeme.token.isWellFormed = true := by
  fun_induction ofBytesAt offset bytes with
  | case1 offset => cases member
  | case2 offset byte rest separator inductionHypothesis => exact inductionHypothesis member
  | case3 offset byte rest separator digit digits inductionHypothesis =>
    rcases List.mem_cons.mp member with rfl | later
    · exact isNumeral_textOf (List.cons_ne_nil _ _) (isDigit_of_mem_run digit rest)
    · exact inductionHypothesis later
  | case4 offset byte rest separator digit token found inductionHypothesis =>
    rcases List.mem_cons.mp member with rfl | later
    · exact isWellFormed_of_punctuation found
    · exact inductionHypothesis later
  | case5 offset byte rest separator digit found => cases member

/-- The tokens of a scanned input are well formed. -/
theorem isWellFormed_of_tokenize {bytes : List UInt8} {tokens : List Token}
    (scanned : tokenize bytes = .ok tokens) {token : Token} (member : token ∈ tokens) :
    token.isWellFormed = true := by
  unfold tokenize result at scanned
  split at scanned
  · cases scanned
    obtain ⟨lexeme, found, rfl⟩ := List.mem_map.mp member
    exact isWellFormed_of_mem found
  · cases scanned

end Scan

end Reckoner
