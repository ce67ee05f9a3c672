import Mathlib.Data.List.Chain
import Reckoner.Proofs.Token.Concatenation

/-!
# Layouts of token lists

A layout writes a token list down as bytes, with separators wherever one likes: in
front of the first token and behind each of them. There is one thing to look after.
Two numbers that follow each other must have a separator between them, because
their digits would make one number otherwise.

A scan finds the tokens of such a layout and nothing else has tokens at all. Since
the layout of an input is unique, this settles where each token of a scan stands.
-/

namespace Reckoner

open Scan (isSeparator isDigit startsWithDigit endsWithDigit)

/-- The bytes in front of the first token, and the tokens with the bytes behind
each of them. -/
structure Layout where
  lead : List UInt8
  words : List (Token × List UInt8)
deriving DecidableEq, Repr

namespace Layout

/-- The tokens in order. -/
def tokens (layout : Layout) : List Token := layout.words.map Prod.fst

/-- The whole text, with each token spelled as it is. -/
def bytes (layout : Layout) : List UInt8 :=
  layout.lead ++ layout.words.flatMap fun word => bytesOf word.1.value ++ word.2

/-- Something stands between two numbers. -/
def KeepsApart (word next : Token × List UInt8) : Prop :=
  word.1.kind = .number → next.1.kind = .number → word.2 ≠ []

/-- There is nothing but separators around the tokens, and two numbers do not run
into each other. -/
structure Proper (layout : Layout) : Prop where
  lead : ∀ byte ∈ layout.lead, isSeparator byte = true
  gaps : ∀ word ∈ layout.words, ∀ byte ∈ word.2, isSeparator byte = true
  apart : layout.words.IsChain KeepsApart

/-- Whether something stands between two numbers is decided by their kinds and the gap. -/
instance (word next : Token × List UInt8) : Decidable (KeepsApart word next) :=
  inferInstanceAs (Decidable (_ → _ → _))

/-- Whether a layout is proper is decided by going through its bytes and its words. -/
instance (layout : Layout) : Decidable layout.Proper :=
  decidable_of_iff (layout.lead.all isSeparator = true ∧
      (layout.words.all fun word => word.2.all isSeparator) = true ∧
      layout.words.IsChain KeepsApart) <| by
    simp only [List.all_eq_true]
    constructor
    · rintro ⟨lead, gaps, apart⟩
      exact ⟨lead, gaps, apart⟩
    · rintro ⟨lead, gaps, apart⟩
      exact ⟨lead, gaps, apart⟩

/-- The first token is a number, and nothing stands in front of it. -/
def BeginsWithNumber (layout : Layout) : Prop :=
  layout.lead = [] ∧ ∃ word, layout.words.head? = some word ∧ word.1.kind = .number

/-- The layout with one more token in front. -/
def consToken (token : Token) (layout : Layout) : Layout :=
  ⟨[], (token, layout.lead) :: layout.words⟩

/-- Behind the first token there is again a layout. -/
theorem bytes_cons (lead gap : List UInt8) (token : Token) (later : List (Token × List UInt8)) :
    (⟨lead, (token, gap) :: later⟩ : Layout).bytes =
      lead ++ (bytesOf token.value ++ (⟨gap, later⟩ : Layout).bytes) := by
  simp [bytes, List.append_assoc]

/-- A layout without tokens is proper if it consists of separators. -/
theorem proper_nil {lead : List UInt8} :
    (⟨lead, []⟩ : Layout).Proper ↔ ∀ byte ∈ lead, isSeparator byte = true :=
  ⟨Proper.lead, fun separators => ⟨separators, nofun, .nil⟩⟩

/-- A layout is proper if it is so behind the first token, unless this is a number
that runs into the next one. -/
theorem proper_cons {lead gap : List UInt8} {token : Token}
    {later : List (Token × List UInt8)} :
    (⟨lead, (token, gap) :: later⟩ : Layout).Proper ↔
      (∀ byte ∈ lead, isSeparator byte = true) ∧
      (token.kind = .number → ¬ (⟨gap, later⟩ : Layout).BeginsWithNumber) ∧
      (⟨gap, later⟩ : Layout).Proper := by
  constructor
  · rintro ⟨separators, gaps, apart⟩
    obtain ⟨first, rest⟩ := List.isChain_cons.mp apart
    refine ⟨separators, ?_, gaps _ List.mem_cons_self,
      fun word member => gaps word (List.mem_cons_of_mem _ member), rest⟩
    rintro number ⟨nothing, next, follows, nextNumber⟩
    exact first next follows number nextNumber nothing
  · rintro ⟨separators, noNumber, behind⟩
    refine ⟨separators, ?_, List.isChain_cons.mpr ⟨?_, behind.apart⟩⟩
    · intro word member
      rcases List.mem_cons.mp member with rfl | member
      · exact behind.lead
      · exact behind.gaps word member
    · intro next follows number nextNumber nothing
      exact noNumber number ⟨nothing, next, follows, nextNumber⟩

/-- The text of a well-formed token begins with a byte that is no separator, and that
is a digit exactly for a number. -/
theorem exists_first_byte {token : Token} (wellFormed : token.isWellFormed = true) :
    ∃ byte others, bytesOf token.value = byte :: others ∧ isSeparator byte = false ∧
      (isDigit byte = true ↔ token.kind = .number) := by
  by_cases number : token.kind = .number
  · obtain ⟨kind, value⟩ := token
    obtain rfl : kind = .number := number
    obtain ⟨_, occupied, digits⟩ := bytesOf_numeral wellFormed
    obtain ⟨byte, others, spelled⟩ := List.exists_cons_of_ne_nil occupied
    have digit : isDigit byte = true := digits byte (spelled ▸ List.mem_cons_self)
    refine ⟨byte, others, spelled, Bool.eq_false_iff.mpr fun separator => ?_, by simp [digit]⟩
    have noDigit : isDigit byte = false := Scan.startsWithDigit_separator separator others
    rw [digit] at noDigit
    cases noDigit
  · obtain ⟨byte, spelled, separator, digit, _⟩ := Scan.exists_punctuation wellFormed number
    exact ⟨byte, [], spelled, separator, by simp [digit, number]⟩

/-- Whether the bytes of a layout would prolong a number shows in its first token. -/
theorem startsWithDigit_bytes {layout : Layout}
    (separators : ∀ byte ∈ layout.lead, isSeparator byte = true)
    (wellFormed : ∀ token ∈ layout.tokens, token.isWellFormed = true) :
    startsWithDigit layout.bytes = true ↔ layout.BeginsWithNumber := by
  obtain ⟨lead, words⟩ := layout
  match lead, words with
  | byte :: lead, words =>
    have separator : isSeparator byte = true := separators byte List.mem_cons_self
    have noDigit : startsWithDigit (⟨byte :: lead, words⟩ : Layout).bytes = false :=
      Scan.startsWithDigit_separator separator _
    simp [noDigit, BeginsWithNumber]
  | [], [] => simp [bytes, BeginsWithNumber, startsWithDigit]
  | [], (token, gap) :: later =>
    obtain ⟨byte, others, spelled, _, digit⟩ :=
      exists_first_byte (wellFormed token List.mem_cons_self)
    rw [bytes_cons, List.nil_append, spelled]
    simpa [startsWithDigit, BeginsWithNumber] using digit

/-- A token can be put in front of a layout unless it is a number whose digits go on. -/
theorem Proper.consToken {layout : Layout} (proper : layout.Proper)
    (wellFormed : ∀ token ∈ layout.tokens, token.isWellFormed = true) {token : Token}
    (apart : token.kind = .number → startsWithDigit layout.bytes = false) :
    (layout.consToken token).Proper := by
  refine proper_cons.mpr ⟨nofun, ?_, proper⟩
  intro number begins
  have prolongs := (startsWithDigit_bytes proper.lead wellFormed).mpr begins
  rw [apart number] at prolongs
  cases prolongs

/-- A token in front of a layout has its bytes in front of the layout's. -/
theorem bytes_consToken (token : Token) (layout : Layout) :
    (layout.consToken token).bytes = bytesOf token.value ++ layout.bytes :=
  bytes_cons [] layout.lead token layout.words

/-- A layout begins with its lead, which the first token ends. -/
theorem lead_eq_takeWhile {layout : Layout}
    (separators : ∀ byte ∈ layout.lead, isSeparator byte = true)
    (wellFormed : ∀ token ∈ layout.tokens, token.isWellFormed = true) :
    layout.lead = layout.bytes.takeWhile isSeparator := by
  obtain ⟨lead, words⟩ := layout
  rw [bytes, List.takeWhile_append_of_pos separators]
  match words with
  | [] => simp
  | (token, gap) :: later =>
    obtain ⟨byte, others, spelled, separator, _⟩ :=
      exists_first_byte (wellFormed token List.mem_cons_self)
    simp [spelled, separator]

end Layout

namespace Scan

/-- Separators are read without any token. -/
theorem reads_separators {gap : List UInt8} (separators : ∀ byte ∈ gap, isSeparator byte = true) :
    Reads gap [] := by
  induction gap with
  | nil => exact reads_nil
  | cons byte gap inductionHypothesis =>
    have rest := inductionHypothesis fun other member =>
      separators other (List.mem_cons_of_mem byte member)
    exact rest.behind_separator (separators byte List.mem_cons_self)

/-- Separators do not end with a digit. -/
theorem endsWithDigit_separators {gap : List UInt8}
    (separators : ∀ byte ∈ gap, isSeparator byte = true) : endsWithDigit gap = false := by
  rw [endsWithDigit]
  cases found : gap.getLast? with
  | none => rfl
  | some last =>
    have noDigit := startsWithDigit_separator (separators last (List.mem_of_getLast? found)) []
    exact noDigit

/-- Separators in front do not count. -/
theorem tokenize_separators {gap : List UInt8}
    (separators : ∀ byte ∈ gap, isSeparator byte = true) (bytes : List UInt8)
    (tokens : List Token) : tokenize (gap ++ bytes) = .ok tokens ↔ tokenize bytes = .ok tokens := by
  have blank : tokenize gap = .ok [] := (reads_separators separators).tokenize
  rw [tokenize_append (.inl (endsWithDigit_separators separators)), blank]
  simp

/-- Separators between two parts do not count either, unless they part two digits. -/
theorem tokenize_separators_between {before gap after : List UInt8}
    (separators : ∀ byte ∈ gap, isSeparator byte = true)
    (apart : endsWithDigit before = false ∨ startsWithDigit after = false) (tokens : List Token) :
    tokenize (before ++ (gap ++ after)) = .ok tokens ↔ tokenize (before ++ after) = .ok tokens := by
  have gapApart : endsWithDigit before = false ∨ startsWithDigit (gap ++ after) = false := by
    rcases apart with beforeApart | afterApart
    · exact .inl beforeApart
    · match gap with
      | [] => exact .inr afterApart
      | byte :: gap => exact .inr (startsWithDigit_separator (separators byte List.mem_cons_self) _)
  simp only [tokenize_append gapApart, tokenize_append apart, tokenize_separators separators]

/-- A run of digits that nothing prolongs is one token, with the tokens of what is in
front of it on one side and of what is behind it on the other. -/
theorem exists_token_of_digits {before digits after : List UInt8} {tokens : List Token}
    (occupied : digits ≠ []) (all : ∀ byte ∈ digits, isDigit byte = true)
    (begins : endsWithDigit before = false) (ends : startsWithDigit after = false)
    (scanned : tokenize (before ++ (digits ++ after)) = .ok tokens) :
    ∃ earlier token later, tokenize before = .ok earlier ∧ tokenize after = .ok later ∧
      tokens = earlier ++ token :: later ∧ token.kind = .number ∧
      bytesOf token.value = digits := by
  obtain ⟨earlier, rest, front, behind, rfl⟩ := (tokenize_append (.inl begins) tokens).mp scanned
  obtain ⟨run, later, middle, back, rfl⟩ := (tokenize_append (.inr ends) rest).mp behind
  have verbatim : bytesOf (textOf digits) = digits := bytesOf_textOf_digits all
  have wellFormed : (Token.number (textOf digits)).isWellFormed = true :=
    isNumeral_textOf occupied all
  have single := (reads_token wellFormed).tokenize
  rw [Token.number, verbatim, middle] at single
  obtain rfl := Except.ok.inj single
  exact ⟨earlier, _, later, front, back, rfl, rfl, verbatim⟩

/-- Well-formed tokens with a space between neighbours are read back. -/
theorem reads_joined (tokens : List Token)
    (wellFormed : ∀ token ∈ tokens, token.isWellFormed = true) :
    Reads (bytesOf (Token.joined tokens)) tokens := by
  match tokens with
  | [] =>
    have empty : bytesOf (Token.joined []) = [] := bytesOf_of_ascii nofun
    rw [empty]
    exact reads_nil
  | [token] =>
    rw [Token.joined, List.map_singleton, String.intercalate_singleton]
    exact reads_token (wellFormed token List.mem_cons_self)
  | token :: next :: later =>
    have first := reads_token (wellFormed token List.mem_cons_self)
    have rest := reads_joined (next :: later) fun other member =>
      wellFormed other (List.mem_cons_of_mem token member)
    rw [Token.joined, List.map_cons, String.intercalate_cons_of_ne_nil (by simp), bytesOf_append,
      bytesOf_append, List.append_assoc, bytesOf_space]
    exact first.append (rest.behind_separator rfl) nofun rfl

/-- The tokens of a scan are well formed, wherever it begins. -/
theorem isWellFormed_of_mem_tokens {offset : Nat} {bytes : List UInt8} {token : Token}
    (member : token ∈ (ofBytesAt offset bytes).tokens) : token.isWellFormed = true := by
  obtain ⟨lexeme, found, rfl⟩ := List.mem_map.mp member
  exact isWellFormed_of_mem found

/-- What a scan gets to the end of is laid out properly.

Proof: induction along the scan. A separator lengthens the lead, and a token takes
the lead of the layout behind it as its gap. A run of digits is taken to its end,
so the gap behind it cannot be empty in front of another number. -/
theorem exists_layout {offset : Nat} {bytes : List UInt8}
    (complete : (ofBytesAt offset bytes).failure = none) :
    ∃ layout : Layout, layout.Proper ∧ layout.tokens = (ofBytesAt offset bytes).tokens ∧
      layout.bytes = bytes := by
  fun_induction ofBytesAt offset bytes with
  | case1 offset => exact ⟨⟨[], []⟩, Layout.proper_nil.mpr (by simp), rfl, rfl⟩
  | case2 offset byte rest separator inductionHypothesis =>
    obtain ⟨⟨lead, words⟩, proper, same, rfl⟩ := inductionHypothesis complete
    refine ⟨⟨byte :: lead, words⟩, ⟨?_, proper.gaps, proper.apart⟩, same, rfl⟩
    intro other member
    rcases List.mem_cons.mp member with rfl | member
    · exact separator
    · exact proper.lead other member
  | case3 offset byte rest separator digit digits inductionHypothesis =>
    obtain ⟨layout, proper, same, spelled⟩ := inductionHypothesis complete
    have wellFormed : ∀ token ∈ layout.tokens, token.isWellFormed = true :=
      fun token member => isWellFormed_of_mem_tokens (same ▸ member)
    have verbatim : bytesOf (textOf digits) = digits :=
      bytesOf_textOf_digits (isDigit_of_mem_run digit rest)
    refine ⟨layout.consToken (.number (textOf digits)), ?_, ?_, ?_⟩
    · exact proper.consToken wellFormed fun _ => spelled ▸ startsWithDigit_dropWhile rest
    · exact congrArg (Token.number (textOf digits) :: ·) same
    · rw [Layout.bytes_consToken, Token.number, verbatim, spelled]
      simp [digits, List.takeWhile_append_dropWhile]
  | case4 offset byte rest separator digit token found inductionHypothesis =>
    obtain ⟨layout, proper, same, spelled⟩ := inductionHypothesis complete
    have wellFormed : ∀ token ∈ layout.tokens, token.isWellFormed = true :=
      fun token member => isWellFormed_of_mem_tokens (same ▸ member)
    obtain ⟨notNumber, single⟩ := spelled_of_punctuation found
    refine ⟨layout.consToken token, ?_, ?_, ?_⟩
    · exact proper.consToken wellFormed fun number => absurd number notNumber
    · exact congrArg (token :: ·) same
    · rw [Layout.bytes_consToken, single, spelled]
      rfl
  | case5 offset byte rest separator digit found => cases complete

end Scan

namespace Layout

/-- A proper layout is scanned to its tokens.

Proof: induction on the words. What follows a token does not prolong it, because a number
is kept apart from the next one and any other token is a symbol. -/
theorem tokenize_bytes {layout : Layout} (proper : layout.Proper)
    (wellFormed : ∀ token ∈ layout.tokens, token.isWellFormed = true) :
    tokenize layout.bytes = .ok layout.tokens := by
  obtain ⟨lead, words⟩ := layout
  induction words generalizing lead with
  | nil =>
    rw [bytes, List.flatMap_nil, List.append_nil]
    exact (Scan.reads_separators proper.lead).tokenize
  | cons word later inductionHypothesis =>
    obtain ⟨token, gap⟩ := word
    obtain ⟨separators, noNumber, behind⟩ := proper_cons.mp proper
    have wellFormedToken : token.isWellFormed = true := wellFormed token List.mem_cons_self
    have wellFormedLater : ∀ other ∈ (⟨gap, later⟩ : Layout).tokens, other.isWellFormed = true :=
      fun other member => wellFormed other (List.mem_cons_of_mem token member)
    have rest := inductionHypothesis gap behind wellFormedLater
    have apart : endsWithDigit (bytesOf token.value) = false ∨
        startsWithDigit (⟨gap, later⟩ : Layout).bytes = false := by
      by_cases number : token.kind = .number
      · refine .inr (Bool.eq_false_iff.mpr fun prolongs => ?_)
        exact noNumber number ((startsWithDigit_bytes behind.lead wellFormedLater).mp prolongs)
      · obtain ⟨byte, spelled, _, digit, _⟩ := Scan.exists_punctuation wellFormedToken number
        exact .inl (by simp [spelled, endsWithDigit, digit])
    rw [bytes_cons, Scan.tokenize_separators separators, tokenize_append apart]
    exact ⟨_, _, (Scan.reads_token wellFormedToken).tokenize, rest, rfl⟩

/-- An input has at most one layout.

Proof: both layouts have the tokens that a scan finds. Each lead is all that stands in
front of the first token, so the leads agree, and so do the layouts behind that token, by
induction. -/
theorem eq_of_bytes {layout other : Layout} (proper : layout.Proper) (otherProper : other.Proper)
    (wellFormed : ∀ token ∈ layout.tokens, token.isWellFormed = true)
    (otherWellFormed : ∀ token ∈ other.tokens, token.isWellFormed = true)
    (same : layout.bytes = other.bytes) : layout = other := by
  have sameTokens : layout.tokens = other.tokens := by
    have scanned := tokenize_bytes proper wellFormed
    rw [same, tokenize_bytes otherProper otherWellFormed] at scanned
    exact (Except.ok.inj scanned).symm
  obtain ⟨lead, words⟩ := layout
  obtain ⟨otherLead, others⟩ := other
  induction words generalizing lead otherLead others with
  | nil =>
    obtain rfl : others = [] := List.map_eq_nil_iff.mp sameTokens.symm
    simpa [bytes] using same
  | cons word later inductionHypothesis =>
    obtain ⟨⟨otherToken, otherGap⟩, more, rfl, heads, tails⟩ :=
      List.map_eq_cons_iff.mp sameTokens.symm
    obtain ⟨token, gap⟩ := word
    obtain rfl : otherToken = token := heads
    obtain rfl : lead = otherLead := by
      have first : lead = _ := lead_eq_takeWhile proper.lead wellFormed
      have second : otherLead = _ := lead_eq_takeWhile otherProper.lead otherWellFormed
      rw [first, second, same]
    rw [bytes_cons, bytes_cons] at same
    have rest := inductionHypothesis gap (proper_cons.mp proper).2.2
      (fun token member => wellFormed token (List.mem_cons_of_mem _ member)) otherGap more
      (proper_cons.mp otherProper).2.2
      (fun token member => otherWellFormed token (List.mem_cons_of_mem _ member))
      (List.append_cancel_left (List.append_cancel_left same)) tails.symm
    obtain ⟨rfl, rfl⟩ := Layout.mk.inj rest
    rfl

end Layout

/-- A scan finds a token list exactly if the input is a layout of it and the tokens
are well formed, and then it is in one way only. In particular a run of digits is
one token with all its digits; the blanks between two parts do not matter unless
they part two digits; and the texts of well-formed tokens with spaces between them
are read as these tokens. -/
theorem tokenize_iff_layout :
    (∀ (bytes : List UInt8) (tokens : List Token), tokenize bytes = .ok tokens ↔
      (∀ token ∈ tokens, token.isWellFormed = true) ∧
        ∃ layout : Layout, layout.Proper ∧ layout.tokens = tokens ∧ layout.bytes = bytes) ∧
    (∀ layout other : Layout, layout.Proper → other.Proper →
      (∀ token ∈ layout.tokens, token.isWellFormed = true) →
      (∀ token ∈ other.tokens, token.isWellFormed = true) →
      layout.bytes = other.bytes → layout = other) ∧
    (∀ (before digits after : List UInt8) (tokens : List Token), digits ≠ [] →
      (∀ byte ∈ digits, isDigit byte = true) → endsWithDigit before = false →
      startsWithDigit after = false → tokenize (before ++ (digits ++ after)) = .ok tokens →
      ∃ earlier token later, tokenize before = .ok earlier ∧ tokenize after = .ok later ∧
        tokens = earlier ++ token :: later ∧ token.kind = .number ∧
        bytesOf token.value = digits) ∧
    (∀ (before gap after : List UInt8) (tokens : List Token),
      (∀ byte ∈ gap, isSeparator byte = true) →
      endsWithDigit before = false ∨ startsWithDigit after = false →
      (tokenize (before ++ (gap ++ after)) = .ok tokens ↔
        tokenize (before ++ after) = .ok tokens)) ∧
    ∀ tokens : List Token, (∀ token ∈ tokens, token.isWellFormed = true) →
      tokenize (bytesOf (Token.joined tokens)) = .ok tokens := by
  refine ⟨?_, ?_, ?_, ?_, ?_⟩
  · intro bytes tokens
    constructor
    · intro scanned
      obtain ⟨complete, same⟩ := (tokenize_eq_ok_iff bytes tokens).mp scanned
      obtain ⟨layout, proper, laidOut, spelled⟩ := Scan.exists_layout complete
      exact ⟨fun token member => Scan.isWellFormed_of_tokenize scanned member,
        layout, proper, laidOut.trans same, spelled⟩
    · rintro ⟨wellFormed, layout, proper, rfl, rfl⟩
      exact layout.tokenize_bytes proper wellFormed
  · intro layout other proper otherProper wellFormed otherWellFormed same
    exact Layout.eq_of_bytes proper otherProper wellFormed otherWellFormed same
  · intro before digits after tokens occupied all begins ends scanned
    exact Scan.exists_token_of_digits occupied all begins ends scanned
  · intro before gap after tokens separators apart
    exact Scan.tokenize_separators_between separators apart tokens
  · intro tokens wellFormed
    exact (Scan.reads_joined tokens wellFormed).tokenize

/-- Digits in brackets are one number, zeros included; a blank between two numbers is
all that keeps them apart; and one in front of a sign can be left out. -/
theorem blanks_and_digits_scanned :
    (∃ earlier token later, tokenize [0x28] = .ok earlier ∧ tokenize [0x29] = .ok later ∧
      [.openParen, .number "007", .closeParen] = earlier ++ token :: later ∧
      token.kind = .number ∧ bytesOf token.value = [0x30, 0x30, 0x37]) ∧
    Layout.consToken (.number "1") ⟨[0x20, 0x09], [(.number "2", [])]⟩ =
      ⟨[], [(.number "1", [0x20, 0x09]), (.number "2", [])]⟩ ∧
    (tokenize ([0x31] ++ ([0x20, 0x20] ++ [0x2b, 0x32])) =
        .ok [.number "1", .operator .add, .number "2"] ↔
      tokenize ([0x31] ++ [0x2b, 0x32]) = .ok [.number "1", .operator .add, .number "2"]) ∧
    tokenize (bytesOf "1 2 ( 03 - )") = .ok [.number "1", .number "2", .openParen, .number "03",
      .operator .subtract, .closeParen] := by
  obtain ⟨_, unique, runs, blanks, joined⟩ := tokenize_iff_layout
  refine ⟨?_, ?_, ?_, ?_⟩
  · exact runs [0x28] [0x30, 0x30, 0x37] [0x29] _ (by decide) (by decide +kernel) rfl rfl
      (by decide +kernel)
  · exact unique _ _ (by decide) (by decide) (by decide) (by decide) rfl
  · exact blanks [0x31] [0x20, 0x20] [0x2b, 0x32] _ (by decide +kernel) (.inr rfl)
  · exact joined [.number "1", .number "2", .openParen, .number "03", .operator .subtract,
      .closeParen] (by decide)

end Reckoner
