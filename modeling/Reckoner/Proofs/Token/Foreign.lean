import Reckoner.Log
import Reckoner.Proofs.Token.Offsets

/-!
# Foreign bytes

Every byte of an input is a digit, a symbol, a separator or foreign. A scan gets to
the end of an input exactly if no byte is foreign, and otherwise it stops at the first
one that is. What it found by then is what it finds in the bytes in front.

An input that is scanned to its end consists of the texts of its tokens, each at its
own offset and none running into the next, and of separators elsewhere.

No byte of a character outside ASCII occurs in a token, and such a character has all of
its bytes outside ASCII. In a text the first foreign byte is therefore the first byte of
a character.
-/

namespace Reckoner

namespace Scan

/-- Whether a byte is neither part of a token nor a separator. The symbols are the two
parentheses, plus and minus. -/
def isForeign (byte : UInt8) : Bool :=
  !isDigit byte && !([0x28, 0x29, 0x2b, 0x2d] : List UInt8).contains byte && !isSeparator byte

/-- The first foreign byte of an input stands at this position. -/
structure FirstForeign (bytes : List UInt8) (position : Nat) (byte : UInt8) : Prop where
  found : bytes[position]? = some byte
  foreign : isForeign byte = true
  earlier : ∀ other ∈ bytes.take position, isForeign other = false

/-- Of the bytes only the four symbols are tokens on their own. -/
theorem punctuation?_eq_none_iff {byte : UInt8} :
    punctuation? byte = none ↔ byte ∉ ([0x28, 0x29, 0x2b, 0x2d] : List UInt8) := by
  simp only [punctuation?, List.mem_cons, List.not_mem_nil, or_false, not_or]
  grind

/-- A foreign byte is one that a scan has no way to take. -/
theorem isForeign_iff {byte : UInt8} :
    isForeign byte = true ↔
      isSeparator byte = false ∧ isDigit byte = false ∧ punctuation? byte = none := by
  rw [punctuation?_eq_none_iff]
  simp only [isForeign, Bool.and_eq_true, Bool.not_eq_true', List.contains_eq_mem,
    decide_eq_false_iff_not, and_comm]

/-- Any other byte is taken as a separator, as a digit or as a symbol. -/
theorem isForeign_eq_false_iff {byte : UInt8} :
    isForeign byte = false ↔ isSeparator byte = true ∨ isDigit byte = true ∨
      ∃ token, punctuation? byte = some token := by
  rw [← Bool.not_eq_true, isForeign_iff]
  cases isSeparator byte <;> cases isDigit byte <;> cases punctuation? byte <;> simp

/-- The bytes of a character outside ASCII are foreign. -/
theorem isForeign_of_not_ascii {byte : UInt8} (outside : 128 ≤ byte.toNat) :
    isForeign byte = true := by
  have other (symbol : UInt8) (ascii : symbol.toNat < 128) : byte ≠ symbol := by
    rintro rfl
    omega
  have noDigit : isDigit byte = false := by
    rw [← Bool.not_eq_true, isDigit_iff]
    omega
  simp [isForeign, isSeparator, noDigit, other]

/-- An input whose first foreign byte is given is split there. -/
theorem firstForeign_iff {bytes : List UInt8} {position : Nat} {byte : UInt8} :
    FirstForeign bytes position byte ↔ ∃ front later, bytes = front ++ byte :: later ∧
      position = front.length ∧ isForeign byte = true ∧
      ∀ other ∈ front, isForeign other = false := by
  constructor
  · rintro ⟨found, foreign, earlier⟩
    obtain ⟨inside, rfl⟩ := List.getElem?_eq_some_iff.mp found
    refine ⟨bytes.take position, bytes.drop (position + 1), ?_, ?_, foreign, earlier⟩
    · rw [← List.drop_eq_getElem_cons inside, List.take_append_drop]
    · rw [List.length_take, Nat.min_eq_left (Nat.le_of_lt inside)]
  · rintro ⟨front, later, rfl, rfl, foreign, earlier⟩
    exact ⟨by simp, foreign, by rwa [List.take_left]⟩

/-- An input with foreign bytes has a first one. -/
theorem exists_firstForeign {bytes : List UInt8}
    (present : ∃ byte ∈ bytes, isForeign byte = true) :
    ∃ position byte, FirstForeign bytes position byte := by
  obtain ⟨byte, found⟩ := Option.isSome_iff_exists.mp (List.find?_isSome.mpr present)
  obtain ⟨foreign, front, later, split, earlier⟩ := List.find?_eq_some_iff_append.mp found
  refine ⟨front.length, byte, firstForeign_iff.mpr ⟨front, later, split, rfl, foreign, ?_⟩⟩
  simpa using earlier

/-! ### Where a scan stops -/

/-- A scan that comes to a foreign byte stops there and finds nothing more. -/
theorem ofBytesAt_foreign {byte : UInt8} (foreign : isForeign byte = true) (offset : Nat)
    (rest : List UInt8) :
    ofBytesAt offset (byte :: rest) = ⟨[], some (.unexpectedCharacter offset byte)⟩ := by
  obtain ⟨separator, digit, none⟩ := isForeign_iff.mp foreign
  rw [ofBytesAt]
  simp [separator, digit, none]

/-- A scan gets to its end exactly if no byte is foreign.

Proof: induction along the scan. What it takes is not foreign, and it stops only at a byte
that is. -/
theorem failure_eq_none_iff (offset : Nat) (bytes : List UInt8) :
    (ofBytesAt offset bytes).failure = none ↔ ∀ byte ∈ bytes, isForeign byte = false := by
  fun_induction ofBytesAt offset bytes with
  | case1 offset => simp
  | case2 offset byte rest separator inductionHypothesis =>
    have known : isForeign byte = false := isForeign_eq_false_iff.mpr (.inl separator)
    refine inductionHypothesis.trans ?_
    simp [known]
  | case3 offset byte rest separator digit digits inductionHypothesis =>
    have split : byte :: rest = digits ++ rest.dropWhile isDigit := by
      simp [digits, List.takeWhile_append_dropWhile]
    have run : ∀ other ∈ digits, isForeign other = false := fun other member =>
      isForeign_eq_false_iff.mpr (.inr (.inl (isDigit_of_mem_run digit rest other member)))
    refine inductionHypothesis.trans ?_
    rw [split, List.forall_mem_append]
    exact ⟨fun behind => ⟨run, behind⟩, And.right⟩
  | case4 offset byte rest separator digit token found inductionHypothesis =>
    have known : isForeign byte = false := isForeign_eq_false_iff.mpr (.inr (.inr ⟨token, found⟩))
    refine inductionHypothesis.trans ?_
    simp [known]
  | case5 offset byte rest separator digit found =>
    have foreign : isForeign byte = true := isForeign_iff.mpr
      ⟨Bool.eq_false_iff.mpr separator, Bool.eq_false_iff.mpr digit, found⟩
    simp [foreign]

/-- A scan stops at the first foreign byte, with what it finds in front of it. -/
theorem ofBytes_of_firstForeign {bytes : List UInt8} {position : Nat} {byte : UInt8}
    (first : FirstForeign bytes position byte) :
    ofBytes bytes = ⟨(ofBytes (bytes.take position)).lexemes,
        some (.unexpectedCharacter position byte)⟩ ∧
      (ofBytes (bytes.take position)).failure = none := by
  obtain ⟨front, later, rfl, rfl, foreign, earlier⟩ := firstForeign_iff.mp first
  have complete : (ofBytes front).failure = none := (failure_eq_none_iff 0 front).mpr earlier
  have apart : startsWithDigit (byte :: later) = false := (isForeign_iff.mp foreign).2.1
  have stopped := ofBytesAt_foreign foreign 0 later
  rw [List.take_left, ofBytes_append (.inr apart), ofBytes.eq_def (byte :: later), stopped]
  refine ⟨?_, complete⟩
  simp [followedBy, complete, moved, ScanError.moved]

end Scan

open Scan

/-- A scan fails exactly at the first foreign byte. -/
theorem tokenize_eq_error_iff {bytes : List UInt8} {position : Nat} {byte : UInt8} :
    tokenize bytes = .error (.unexpectedCharacter position byte) ↔
      FirstForeign bytes position byte := by
  constructor
  · intro failed
    have incomplete : (ofBytes bytes).failure ≠ none := by
      intro complete
      rw [tokenize, result, complete] at failed
      cases failed
    have present : ∃ other ∈ bytes, isForeign other = true := by
      rw [ofBytes, ne_eq, failure_eq_none_iff] at incomplete
      simpa using incomplete
    obtain ⟨first, found, firstForeign⟩ := exists_firstForeign present
    rw [tokenize, result, (ofBytes_of_firstForeign firstForeign).1] at failed
    cases failed
    exact firstForeign
  · intro first
    rw [tokenize, result, (ofBytes_of_firstForeign first).1]

/-- A scan fails exactly if there is a foreign byte. -/
theorem exists_error_iff (bytes : List UInt8) :
    (∃ error, tokenize bytes = .error error) ↔ ∃ byte ∈ bytes, isForeign byte = true := by
  constructor
  · rintro ⟨⟨position, byte⟩, failed⟩
    obtain ⟨front, later, rfl, _, foreign, _⟩ :=
      firstForeign_iff.mp (tokenize_eq_error_iff.mp failed)
    exact ⟨byte, by simp, foreign⟩
  · intro present
    obtain ⟨position, byte, first⟩ := exists_firstForeign present
    exact ⟨_, tokenize_eq_error_iff.mpr first⟩

/-! ### Slices -/

/-- The number of bytes of the token. -/
def Lexeme.width (lexeme : Lexeme) : Nat := (bytesOf lexeme.token.value).length

/-- A position within the token. -/
def Lexeme.Covers (lexeme : Lexeme) (position : Nat) : Prop :=
  lexeme.offset ≤ position ∧ position < lexeme.offset + lexeme.width

/-- Whether a position is covered is decided by two comparisons. -/
instance (lexeme : Lexeme) (position : Nat) : Decidable (lexeme.Covers position) :=
  inferInstanceAs (Decidable (_ ∧ _))

namespace Scan

/-- A token that is found is one byte wide at least. -/
theorem width_pos {offset : Nat} {bytes : List UInt8} {lexeme : Lexeme}
    (member : lexeme ∈ (ofBytesAt offset bytes).lexemes) : 0 < lexeme.width := by
  have wellFormed := isWellFormed_of_mem member
  by_cases number : lexeme.token.kind = .number
  · have numeral := Token.isNumeral_of_number wellFormed number
    exact List.length_pos_iff.mpr (bytesOf_numeral numeral).2.1
  · obtain ⟨byte, spelled, _⟩ := exists_punctuation wellFormed number
    simp [Lexeme.width, spelled]

/-- A number is as wide as its run of digits. -/
theorem width_digits {digits : List UInt8} (all : ∀ byte ∈ digits, isDigit byte = true)
    (offset : Nat) : (⟨.number (textOf digits), offset⟩ : Lexeme).width = digits.length :=
  congrArg List.length (bytesOf_textOf_digits all)

/-- A symbol is one byte wide. -/
theorem width_punctuation {byte : UInt8} {token : Token} (found : punctuation? byte = some token)
    (offset : Nat) : (⟨token, offset⟩ : Lexeme).width = 1 :=
  congrArg List.length (spelled_of_punctuation found).2

/-- The offset of a token is that of its first byte, so a scan from some offset on finds
tokens from there on. -/
theorem offset_le_of_mem {offset : Nat} {bytes : List UInt8} {lexeme : Lexeme}
    (member : lexeme ∈ (ofBytesAt offset bytes).lexemes) : offset ≤ lexeme.offset := by
  obtain ⟨front, later, split⟩ := List.append_of_mem member
  obtain ⟨before, behind, _, place, _⟩ := exists_place split
  omega

/-- A token ends before the next one begins. -/
theorem lexemes_apart (offset : Nat) (bytes : List UInt8) :
    (ofBytesAt offset bytes).lexemes.Pairwise fun earlier later =>
      earlier.offset + earlier.width ≤ later.offset := by
  fun_induction ofBytesAt offset bytes with
  | case1 offset => exact .nil
  | case2 offset byte rest separator inductionHypothesis => exact inductionHypothesis
  | case3 offset byte rest separator digit digits inductionHypothesis =>
    refine .cons (fun later member => ?_) inductionHypothesis
    rw [width_digits (isDigit_of_mem_run digit rest)]
    exact offset_le_of_mem member
  | case4 offset byte rest separator digit token found inductionHypothesis =>
    refine .cons (fun later member => ?_) inductionHypothesis
    rw [width_punctuation found]
    exact offset_le_of_mem member
  | case5 offset byte rest separator digit found => exact .nil

/-- At the offset of a token stands its text. -/
theorem slice_of_mem {bytes : List UInt8} {lexeme : Lexeme}
    (member : lexeme ∈ (ofBytes bytes).lexemes) :
    (bytes.drop lexeme.offset).take lexeme.width = bytesOf lexeme.token.value := by
  obtain ⟨front, later, split⟩ := List.append_of_mem member
  obtain ⟨before, behind, whole, place, _⟩ := exists_front split
  rw [whole, place, List.drop_left, Lexeme.width, List.take_left]

/-- In an input that is scanned to its end, a byte that belongs to no token is a separator.

Proof: induction along the scan. The byte belongs to what the scan takes first, or stands
behind it. -/
theorem separator_or_covered {offset : Nat} {bytes : List UInt8}
    (complete : (ofBytesAt offset bytes).failure = none) {position : Nat} {byte : UInt8}
    (found : bytes[position]? = some byte) : isSeparator byte = true ∨
      ∃ lexeme ∈ (ofBytesAt offset bytes).lexemes, lexeme.Covers (offset + position) := by
  fun_induction ofBytesAt offset bytes generalizing position with
  | case1 offset => simp at found
  | case2 offset first rest separator inductionHypothesis =>
    cases position with
    | zero =>
      obtain rfl : first = byte := Option.some.inj found
      exact .inl separator
    | succ position =>
      have further := inductionHypothesis complete found
      rwa [Nat.add_assoc, Nat.add_comm 1] at further
  | case3 offset first rest separator digit digits inductionHypothesis =>
    rcases Nat.lt_or_ge position digits.length with within | beyond
    · refine .inr ⟨_, List.mem_cons_self, Nat.le_add_right _ _, ?_⟩
      rw [width_digits (isDigit_of_mem_run digit rest)]
      exact Nat.add_lt_add_left within offset
    · have split : first :: rest = digits ++ rest.dropWhile isDigit := by
        simp [digits, List.takeWhile_append_dropWhile]
      rw [split, List.getElem?_append_right beyond] at found
      have further := inductionHypothesis complete found
      rw [Nat.add_assoc, Nat.add_sub_cancel' beyond] at further
      exact further.imp_right (.imp fun _ => And.imp_left (List.mem_cons_of_mem _))
  | case4 offset first rest separator digit token punctuation inductionHypothesis =>
    cases position with
    | zero =>
      refine .inr ⟨_, List.mem_cons_self, Nat.le_refl _, ?_⟩
      rw [width_punctuation punctuation]
      exact Nat.lt_succ_self offset
    | succ position =>
      have further := inductionHypothesis complete found
      rw [Nat.add_assoc, Nat.add_comm 1] at further
      exact further.imp_right (.imp fun _ => And.imp_left (List.mem_cons_of_mem _))
  | case5 offset first rest separator digit none => cases complete

end Scan

/-! ### Characters -/

/-- A byte of characters that has no foreign byte in front of it is the first byte of one
of them.

Proof: induction on the characters. A character that begins in front of the byte does not
begin with a foreign byte, so it is ASCII and ends in front of it. -/
theorem exists_character_of_bytes {characters : List Char} {front later : List UInt8}
    {byte : UInt8}
    (split : characters.flatMap String.utf8EncodeChar = front ++ byte :: later)
    (earlier : ∀ other ∈ front, isForeign other = false) :
    ∃ before character after, characters = before ++ character :: after ∧
      before.flatMap String.utf8EncodeChar = front ∧
      (String.utf8EncodeChar character).head? = some byte := by
  induction characters generalizing front with
  | nil => simp at split
  | cons character rest inductionHypothesis =>
    obtain ⟨first, others, encoded⟩ :=
      List.exists_cons_of_ne_nil (String.utf8EncodeChar_ne_nil (c := character))
    rw [List.flatMap_cons] at split
    match front with
    | [] =>
      refine ⟨[], character, rest, rfl, rfl, ?_⟩
      rw [encoded] at split ⊢
      exact congrArg some (List.cons.inj split).1
    | other :: front =>
      have head : first = other := by
        rw [encoded] at split
        exact (List.cons.inj split).1
      have ascii : character.toNat < 128 := by
        apply Nat.lt_of_not_ge
        intro outside
        have high := not_ascii_of_mem outside (encoded ▸ List.mem_cons_self)
        have known := earlier other List.mem_cons_self
        rw [← head, isForeign_of_not_ascii high] at known
        cases known
      rw [utf8EncodeChar_of_ascii ascii] at encoded split
      obtain ⟨before, found, after, rfl, same, begins⟩ :=
        inductionHypothesis (List.cons.inj split).2
          fun further member => earlier further (List.mem_cons_of_mem other member)
      refine ⟨character :: before, found, after, rfl, ?_, begins⟩
      rw [List.flatMap_cons, utf8EncodeChar_of_ascii ascii, same, List.singleton_append,
        (List.cons.inj split).1]

/-- In a text, the first foreign byte is the first byte of a character. -/
theorem Scan.FirstForeign.exists_character {text : String} {position : Nat} {byte : UInt8}
    (first : FirstForeign (bytesOf text) position byte) :
    ∃ before character after, text = before ++ String.singleton character ++ after ∧
      position = (bytesOf before).length ∧
      (bytesOf (String.singleton character)).head? = some byte := by
  obtain ⟨front, later, split, rfl, _, earlier⟩ := firstForeign_iff.mp first
  rw [bytesOf_eq_flatMap] at split
  obtain ⟨before, character, after, characters, rfl, begins⟩ :=
    exists_character_of_bytes split earlier
  refine ⟨String.ofList before, character, String.ofList after, ?_, ?_, ?_⟩
  · apply String.toList_inj.mp
    simp [characters]
  · rw [bytesOf_eq_flatMap, String.toList_ofList]
  · rw [bytesOf_eq_flatMap, String.toList_singleton, List.flatMap_singleton]
    exact begins

/-- A text with a foreign byte fails for it, whatever else is wrong with the text. It is
not parsed, so its tokens are all that is recorded. -/
theorem Scan.FirstForeign.evaluate {text : String} {position : Nat} {byte : UInt8}
    (first : FirstForeign (bytesOf text) position byte) :
    Reckoner.evaluate text =
        .error (.unreadable (.lexical (.unexpectedCharacter position byte))) ∧
      Log.ofText text = Log.ofScan (ofBytes ((bytesOf text).take position)) := by
  have stopped := (ofBytes_of_firstForeign first).1
  constructor
  · simp only [Reckoner.evaluate, Tree.ofText, Tree.ofBytes, tokenize_eq_error_iff.mpr first]
  · rw [Log.ofText, stopped]
    simp [Log.ofScan, result]

end Reckoner
