import Reckoner.Proofs.Token.Spelling

/-!
# Scans of inputs in parts

An input that is cut in two can be scanned part by part. The second scan counts
its offsets from the end of the first part, and it only takes place if the first
one got to its end. The cut must not go through a run of digits, because the two
halves of such a run would be two tokens.
-/

namespace Reckoner

/-- The same failure in an input with `distance` more bytes in front. -/
def ScanError.moved (distance : Nat) : ScanError → ScanError
  | .unexpectedCharacter position byte => .unexpectedCharacter (distance + position) byte

namespace Scan

/-- The same scan in an input with `distance` more bytes in front. -/
def moved (distance : Nat) (scan : Scan) : Scan where
  lexemes := scan.lexemes.map fun lexeme => ⟨lexeme.token, distance + lexeme.offset⟩
  failure := scan.failure.map (ScanError.moved distance)

/-- Goes on with a scan of what follows, unless this one stopped before. -/
def followedBy (scan later : Scan) : Scan :=
  match scan.failure with
  | none => ⟨scan.lexemes ++ later.lexemes, later.failure⟩
  | some _ => scan

/-- Whether bytes end within a run of digits, or at the end of one. -/
def endsWithDigit (bytes : List UInt8) : Bool := bytes.getLast?.any isDigit

/-- A scan finds the same tokens further on. -/
@[simp] theorem tokens_moved (distance : Nat) (scan : Scan) :
    (scan.moved distance).tokens = scan.tokens := by
  simp [tokens, moved, Function.comp_def]

/-- A scan gets to its end or fails to, wherever it takes place. -/
@[simp] theorem failure_moved_eq_none (distance : Nat) (scan : Scan) :
    (scan.moved distance).failure = none ↔ scan.failure = none := by
  simp [moved]

/-- A scan that begins with a token begins with it further on as well. -/
theorem moved_cons (distance : Nat) (lexeme : Lexeme) (scan : Scan) :
    (scan.cons lexeme).moved distance =
      (scan.moved distance).cons ⟨lexeme.token, distance + lexeme.offset⟩ := rfl

/-- A token in front of a scan stays in front of what follows the scan. -/
theorem cons_followedBy (lexeme : Lexeme) (scan later : Scan) :
    (scan.cons lexeme).followedBy later = (scan.followedBy later).cons lexeme := by
  obtain ⟨lexemes, failure⟩ := scan
  cases failure <;> rfl

/-- Where the scanned bytes stand shows in the offsets only. -/
theorem ofBytesAt_add (distance offset : Nat) (bytes : List UInt8) :
    ofBytesAt (distance + offset) bytes = (ofBytesAt offset bytes).moved distance := by
  fun_induction ofBytesAt offset bytes with
  | case1 offset =>
    rw [ofBytesAt]
    rfl
  | case2 offset byte rest separator inductionHypothesis =>
    rw [ofBytesAt_separator separator, ← inductionHypothesis, Nat.add_assoc]
  | case3 offset byte rest separator digit digits inductionHypothesis =>
    rw [ofBytesAt, if_neg separator, if_pos digit, moved_cons, ← inductionHypothesis,
      ← Nat.add_assoc]
  | case4 offset byte rest separator digit token found inductionHypothesis =>
    rw [ofBytesAt_punctuation (Bool.eq_false_iff.mpr separator) (Bool.eq_false_iff.mpr digit) found,
      moved_cons, ← inductionHypothesis, Nat.add_assoc]
  | case5 offset byte rest separator digit found =>
    rw [ofBytesAt, if_neg separator, if_neg digit, found]
    rfl

/-- What is left behind a run of digits does not begin with one. -/
theorem startsWithDigit_dropWhile (bytes : List UInt8) :
    startsWithDigit (bytes.dropWhile isDigit) = false := by
  rw [startsWithDigit]
  cases found : (bytes.dropWhile isDigit).head? with
  | none => rfl
  | some byte =>
    have stopped := List.head?_dropWhile_not isDigit bytes
    rw [found] at stopped
    simpa using stopped

/-- A separator is no digit. -/
theorem startsWithDigit_separator {byte : UInt8} (separator : isSeparator byte = true)
    (rest : List UInt8) : startsWithDigit (byte :: rest) = false := by
  simp only [isSeparator, Bool.or_eq_true, decide_eq_true_eq] at separator
  rcases separator with (rfl | rfl) | rfl <;> rfl

/-- How bytes end depends on their last part, unless that is empty, and then it ends with
no digit either. -/
theorem endsWithDigit_of_append (front : List UInt8) {bytes : List UInt8}
    (apart : endsWithDigit (front ++ bytes) = false) : endsWithDigit bytes = false := by
  rw [endsWithDigit, List.getLast?_append] at apart
  rw [endsWithDigit]
  cases found : bytes.getLast? with
  | none => rfl
  | some last => simpa [found] using apart

/-- Digits end with a digit, if there are any. -/
theorem endsWithDigit_digits {digits : List UInt8} (occupied : digits ≠ [])
    (all : ∀ byte ∈ digits, isDigit byte = true) : endsWithDigit digits = true := by
  rw [endsWithDigit, List.getLast?_eq_some_getLast occupied]
  exact all _ (List.getLast_mem occupied)

/-- The scan of two parts is the scan of the first, followed by that of the second,
unless the cut goes through a run of digits.

Proof: induction along the scan of the first part. Only its last run of digits can
reach the cut, and then the second part does not go on with a digit. -/
theorem ofBytesAt_append (offset : Nat) (bytes more : List UInt8)
    (apart : endsWithDigit bytes = false ∨ startsWithDigit more = false) :
    ofBytesAt offset (bytes ++ more) =
      (ofBytesAt offset bytes).followedBy (ofBytesAt (offset + bytes.length) more) := by
  fun_induction ofBytesAt offset bytes with
  | case1 offset => rfl
  | case2 offset byte rest separator inductionHypothesis =>
    have later := inductionHypothesis (apart.imp_left (endsWithDigit_of_append [byte]))
    rw [List.cons_append, ofBytesAt_separator separator, later, List.length_cons,
      Nat.add_right_comm, Nat.add_assoc]
  | case3 offset byte rest separator digit digits inductionHypothesis =>
    have split : byte :: rest = digits ++ rest.dropWhile isDigit := by
      simp [digits, List.takeWhile_append_dropWhile]
    have all : ∀ other ∈ digits, isDigit other = true := isDigit_of_mem_run digit rest
    rw [split] at apart
    have later := inductionHypothesis (apart.imp_left (endsWithDigit_of_append digits))
    have runEnds : startsWithDigit (rest.dropWhile isDigit ++ more) = false := by
      cases left : rest.dropWhile isDigit with
      | nil =>
        rw [left, List.append_nil, endsWithDigit_digits (List.cons_ne_nil _ _) all] at apart
        exact apart.resolve_left (by simp)
      | cons other behind =>
        have stopped := startsWithDigit_dropWhile rest
        rwa [left] at stopped
    rw [split, List.append_assoc, ofBytesAt_digits (List.cons_ne_nil _ _) all offset runEnds, later,
      cons_followedBy, List.length_append, Nat.add_assoc]
  | case4 offset byte rest separator digit token found inductionHypothesis =>
    have later := inductionHypothesis (apart.imp_left (endsWithDigit_of_append [byte]))
    rw [List.cons_append, ofBytesAt_punctuation (Bool.eq_false_iff.mpr separator)
      (Bool.eq_false_iff.mpr digit) found, later, cons_followedBy, List.length_cons,
      Nat.add_right_comm, Nat.add_assoc]
  | case5 offset byte rest separator digit found =>
    rw [List.cons_append, ofBytesAt, if_neg separator, if_neg digit, found]
    rfl

/-- The second part of a whole input is scanned like an input of its own, only further
on. -/
theorem ofBytes_append {bytes more : List UInt8}
    (apart : endsWithDigit bytes = false ∨ startsWithDigit more = false) :
    ofBytes (bytes ++ more) = (ofBytes bytes).followedBy ((ofBytes more).moved bytes.length) := by
  rw [ofBytes, ofBytesAt_append 0 bytes more apart, Nat.zero_add, ← Nat.add_zero bytes.length,
    ofBytesAt_add]
  rfl

end Scan

open Scan

/-- A scan has a result exactly if it got to the end. -/
theorem tokenize_eq_ok_iff (bytes : List UInt8) (tokens : List Token) :
    tokenize bytes = .ok tokens ↔
      (Scan.ofBytes bytes).failure = none ∧ (Scan.ofBytes bytes).tokens = tokens := by
  rw [tokenize, result]
  cases (Scan.ofBytes bytes).failure <;> simp

/-- An input in two parts has tokens exactly if both parts have, and they are those of
the first part and then those of the second. -/
theorem tokenize_append {bytes more : List UInt8}
    (apart : endsWithDigit bytes = false ∨ startsWithDigit more = false) (tokens : List Token) :
    tokenize (bytes ++ more) = .ok tokens ↔ ∃ earlier later,
      tokenize bytes = .ok earlier ∧ tokenize more = .ok later ∧ tokens = earlier ++ later := by
  simp only [tokenize_eq_ok_iff, ofBytes_append apart]
  cases stopped : (Scan.ofBytes bytes).failure with
  | some failure => simp [followedBy, stopped]
  | none =>
    have joined : ((Scan.ofBytes bytes).followedBy
        ((Scan.ofBytes more).moved bytes.length)).tokens =
          (Scan.ofBytes bytes).tokens ++ (Scan.ofBytes more).tokens := by
      rw [← tokens_moved bytes.length (Scan.ofBytes more)]
      simp [followedBy, stopped, Scan.tokens]
    have ends : ((Scan.ofBytes bytes).followedBy
        ((Scan.ofBytes more).moved bytes.length)).failure = none ↔
          (Scan.ofBytes more).failure = none := by
      simp [followedBy, stopped]
    rw [joined, ends]
    constructor
    · rintro ⟨complete, rfl⟩
      exact ⟨_, _, ⟨rfl, rfl⟩, ⟨complete, rfl⟩, rfl⟩
    · rintro ⟨_, _, ⟨_, rfl⟩, ⟨complete, rfl⟩, rfl⟩
      exact ⟨complete, rfl⟩

/-- A symbol is scanned in front of any text that is, for it is no digit. -/
theorem tokenize_behind_symbol (symbol : Token) {text : String} {tokens : List Token}
    (wellFormed : symbol.isWellFormed = true) (notNumber : symbol.kind ≠ .number)
    (scanned : tokenize (bytesOf text) = .ok tokens) :
    tokenize (bytesOf (symbol.value ++ text)) = .ok (symbol :: tokens) := by
  obtain ⟨byte, spelled, _, notDigit, _⟩ := exists_punctuation wellFormed notNumber
  have symbolScanned : tokenize (bytesOf symbol.value) = .ok [symbol] :=
    (reads_token wellFormed).tokenize
  have apart : endsWithDigit (bytesOf symbol.value) = false := by
    simpa [endsWithDigit, spelled] using notDigit
  rw [bytesOf_append]
  exact (tokenize_append (.inl apart) _).mpr ⟨_, _, symbolScanned, scanned, rfl⟩

/-- A symbol can stand between any two texts that are scanned. -/
theorem tokenize_symbol (symbol : Token) {front back : String} {earlier later : List Token}
    (wellFormed : symbol.isWellFormed = true) (notNumber : symbol.kind ≠ .number)
    (frontScanned : tokenize (bytesOf front) = .ok earlier)
    (backScanned : tokenize (bytesOf back) = .ok later) :
    tokenize (bytesOf (front ++ symbol.value ++ back)) = .ok (earlier ++ symbol :: later) := by
  obtain ⟨byte, spelled, _, notDigit, _⟩ := exists_punctuation wellFormed notNumber
  have behind := tokenize_behind_symbol symbol wellFormed notNumber backScanned
  have apart : startsWithDigit (bytesOf (symbol.value ++ back)) = false := by
    simpa [startsWithDigit, spelled] using notDigit
  rw [String.append_assoc, bytesOf_append]
  exact (tokenize_append (.inr apart) _).mpr ⟨_, _, frontScanned, behind, rfl⟩

end Reckoner
