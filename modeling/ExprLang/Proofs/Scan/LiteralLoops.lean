import ExprLang.Proofs.Scan.OneLiteral

/-!
Literals read by loops. The character at hand decides whether a string, a number or a word begins
there. Then the characters are collected one at a time: those of a string behind its opening quote,
those of a number up to a point, and behind the point if a digit stands there, those of a word from
the first one on, of which the same is asked as of the others. What is collected, and where the
source stands afterwards, is what cutting the piece off the rest of the stream gives.
-/
set_option autoImplicit false

namespace ExprLang.Source

/-- A point is at hand, with a digit behind it. -/
def onFraction (source : Source) : Bool := source.peek == '.' && source.peekNext.isDigit

/-- The token of a number with these digits, which begins where the source stands. -/
def numberToken (source : Source) (digits : List Char) : Token :=
  Token.startingAt .number (String.ofList digits)
    (some (.number (Binary64.ofDecimal (Decimal.ofLexeme digits)))) source.cursor

/-- The token of a string with this content, which begins where the source stands. -/
def stringToken (source : Source) (content : List Char) : Token :=
  Token.startingAt .string (String.ofList ('"' :: content ++ ['"']))
    (some (.string (String.ofList content))) source.cursor

/-- The token of a word, which begins where the source stands. -/
def wordToken (source : Source) (letters : List Char) : Token :=
  Token.startingAt ((Kind.ofWord? (String.ofList letters)).getD .identifier)
    (String.ofList letters) none source.cursor

/-- A literal is read by loops: the token or the error, if there is one, and the source behind. -/
inductive ReadsByLoops [IdentifierClasses] (source : Source) :
    Option (Except LexError Token) → Source → Prop
  | nothing (hnone : source.atEnd = true ∨ ¬ StartsLiteral source.peek) :
      ReadsByLoops source none source
  | string {count : Nat} {content : List Char} {behind : Source} (hquote : source.peek = '"')
      (hloop : Repeats (collectWhile onText) count ([], source.advance) (content, behind))
      (hclosed : behind.atEnd = false) :
      ReadsByLoops source (some (.ok (source.stringToken content))) behind.advance
  | openString {count : Nat} {content : List Char} {behind : Source} (hquote : source.peek = '"')
      (hloop : Repeats (collectWhile onText) count ([], source.advance) (content, behind))
      (hopen : behind.atEnd = true) :
      ReadsByLoops source (some (.error (.unterminatedString source.lastLine))) behind
  | whole {count : Nat} {digits : List Char} {behind : Source} (hdigit : source.onDigit = true)
      (hloop : Repeats (collectWhile onDigit) count ([], source) (digits, behind))
      (hno : behind.onFraction = false) :
      ReadsByLoops source (some (.ok (source.numberToken digits))) behind
  | fraction {count more : Nat} {whole digits : List Char} {point behind : Source}
      (hdigit : source.onDigit = true)
      (hloop : Repeats (collectWhile onDigit) count ([], source) (whole, point))
      (hpoint : point.onFraction = true)
      (hmore : Repeats (collectWhile onDigit) more (whole ++ [point.peek], point.advance)
        (digits, behind)) :
      ReadsByLoops source (some (.ok (source.numberToken digits))) behind
  | word {count : Nat} {letters : List Char} {behind : Source} (hquote : source.peek ≠ '"')
      (hdigit : source.onDigit = false) (hstarts : startsIdentifier source.peek = true)
      (hloop : Repeats (collectWhile onWord) count ([], source) (letters, behind)) :
      ReadsByLoops source (some (.ok (source.wordToken letters))) behind

variable {source behind : Source} {test : Source → Bool} {p : Char → Bool} {count : Nat}
  {front run rest : List Char} {c : Char}

/-! ## What a loop collects -/

theorem collected_eq (htest : Tests test p)
    (h : Repeats (collectWhile test) count (front, source) (run, behind)) :
    run = front ++ source.rest.takeWhile p ∧
      behind = source.advanceBy (source.rest.takeWhile p).length :=
  Prod.mk.inj (h.unique (repeats_collect htest front source))

theorem rest_of_peek (h : source.peek = c) (hc : c ≠ '\x00') : ∃ rest, source.rest = c :: rest := by
  rw [peek] at h
  cases hrest : source.rest with
  | nil =>
    rw [hrest] at h
    exact absurd h.symm hc
  | cons first rest =>
    rw [hrest] at h
    exact ⟨rest, congrArg (· :: rest) h⟩

theorem ne_nul_of_isDigit (h : c.isDigit = true) : c ≠ '\x00' := by
  rintro rfl
  exact absurd h (by decide)

/-! ## Digits around a point -/

theorem onFraction_iff : source.onFraction = true ↔
    ∃ digit rest, source.rest = '.' :: digit :: rest ∧ digit.isDigit = true := by
  rw [onFraction, Bool.and_eq_true, beq_iff_eq]
  constructor
  · rintro ⟨hpoint, hdigit⟩
    obtain ⟨rest, hrest⟩ := rest_of_peek hpoint (by decide)
    rw [peekNext, hrest, List.tail_cons] at hdigit
    cases rest with
    | nil => exact absurd hdigit (by decide)
    | cons digit rest => exact ⟨digit, rest, hrest, hdigit⟩
  · rintro ⟨digit, rest, hrest, hdigit⟩
    rw [peek_of_rest hrest, peekNext, hrest]
    exact ⟨rfl, hdigit⟩

/-- The digits that the loops collect are the number at the start of the rest. -/
theorem numberLexeme_rest (source : Source) :
    let whole := source.rest.takeWhile Char.isDigit
    let point := source.advanceBy whole.length
    Segment.numberLexeme source.rest = if point.onFraction then
        whole ++ '.' :: point.advance.rest.takeWhile Char.isDigit
      else whole := by
  intro whole point
  have hrest : point.rest = source.rest.dropWhile Char.isDigit :=
    (Segment.takeWhile_dropWhile_split _ _).symm
  by_cases hpoint : point.onFraction = true
  · obtain ⟨digit, rest, hbehind, hdigit⟩ := onFraction_iff.mp hpoint
    have hsome : (digit :: rest).takeWhile Char.isDigit ≠ [] := by
      rw [List.takeWhile_cons_of_pos hdigit]
      exact List.cons_ne_nil _ _
    rw [if_pos hpoint, rest_advance hbehind,
      Segment.numberLexeme_of_point (hrest.symm.trans hbehind), if_neg hsome]
  · rw [if_neg hpoint]
    by_cases hdot : ∃ fraction, source.rest.dropWhile Char.isDigit = '.' :: fraction
    · obtain ⟨fraction, hfraction⟩ := hdot
      have hnone : fraction.takeWhile Char.isDigit = [] := by
        cases fraction with
        | nil => rfl
        | cons digit rest =>
          refine List.takeWhile_cons_of_neg fun hdigit => hpoint ?_
          exact onFraction_iff.mpr ⟨digit, rest, hrest.trans hfraction, hdigit⟩
      rw [Segment.numberLexeme_of_point hfraction, if_pos hnone]
    · exact Segment.numberLexeme_of_no_point fun fraction heq => hdot ⟨fraction, heq⟩

variable [IdentifierClasses]

/-! ## Strings -/

theorem readLiteral_of_quote (hrest : source.rest = '"' :: rest) :
    let content := rest.takeWhile (· ≠ '"')
    let behind := source.advanceBy (content.length + 1)
    source.readLiteral = if behind.atEnd then
        (some (.error (.unterminatedString source.lastLine)), behind)
      else (some (.ok (source.stringToken content)), behind.advance) := by
  intro content behind
  have hliteral : Segment.literal? source.rest = some (Segment.string rest) := by
    rw [hrest, Segment.literal?, if_pos rfl]
  have hbehind : behind.rest = rest.drop content.length := by
    show source.rest.drop (content.length + 1) = _
    rw [hrest, List.drop_succ_cons]
  have hle : content.length ≤ rest.length := (List.takeWhile_prefix _).length_le
  by_cases hend : behind.atEnd = true
  · have hlength : content.length = rest.length := by
      rw [atEnd_iff, hbehind, List.drop_eq_nil_iff] at hend
      exact Nat.le_antisymm hle hend
    have hpiece : Segment.string rest = .unclosed ('"' :: rest) := if_pos hlength
    rw [hpiece] at hliteral
    rw [if_pos hend, readLiteral_of_piece hliteral rfl]
    simp only [behind, hlength]
    rfl
  · have hlength : ¬ content.length = rest.length := by
      intro heq
      rw [atEnd_iff, hbehind, heq] at hend
      exact hend List.drop_length
    have hpiece : Segment.string rest =
        .token .string ('"' :: content ++ ['"']) (some (.string (String.ofList content))) :=
      if_neg hlength
    rw [hpiece] at hliteral
    rw [if_neg hend, readLiteral_of_piece hliteral rfl]
    have hmoved : behind.advance = source.advanceBy (content.length + 2) :=
      (advanceBy_add source (content.length + 1) 1).symm
    rw [hmoved, Segment.length, Segment.chars, List.length_append]
    rfl

/-! ## Numbers -/

theorem readLiteral_of_digit (hdigit : source.onDigit = true) :
    source.readLiteral =
      (some (.ok (source.numberToken (Segment.numberLexeme source.rest))),
        source.advanceBy (Segment.numberLexeme source.rest).length) := by
  have hfirst : source.peek.isDigit = true := hdigit
  obtain ⟨rest, hrest⟩ := rest_of_peek rfl (ne_nul_of_isDigit hfirst)
  have hquote : source.peek ≠ '"' := by
    intro heq
    rw [heq] at hfirst
    exact absurd hfirst (by decide)
  have hliteral : Segment.literal? source.rest = some (Segment.number source.rest) := by
    rw [hrest, Segment.literal?, if_neg hquote, if_pos hfirst]
  exact readLiteral_of_piece hliteral rfl

/-! ## Words -/

theorem ne_nul_of_startsIdentifier (h : startsIdentifier c = true) : c ≠ '\x00' := by
  rintro rfl
  have hcontinues := continuesIdentifier_of_startsIdentifier h
  rw [continuesIdentifier_eq_false (by decide)] at hcontinues
  cases hcontinues

/-- A word is what the loop over its characters collects from the first one on. -/
theorem readLiteral_of_word (hquote : source.peek ≠ '"') (hdigit : source.onDigit = false)
    (hstarts : startsIdentifier source.peek = true) :
    let letters := source.rest.takeWhile continuesIdentifier
    source.readLiteral =
      (some (.ok (source.wordToken letters)), source.advanceBy letters.length) := by
  intro letters
  obtain ⟨rest, hrest⟩ := rest_of_peek rfl (ne_nul_of_startsIdentifier hstarts)
  have hletters : letters = source.peek :: rest.takeWhile continuesIdentifier := by
    have hwhole := congrArg (List.takeWhile continuesIdentifier) hrest
    rwa [List.takeWhile_cons_of_pos (continuesIdentifier_of_startsIdentifier hstarts)] at hwhole
  have hliteral : Segment.literal? source.rest = some (Segment.word source.peek rest) := by
    have hdigit' : ¬ source.peek.isDigit = true := Bool.eq_false_iff.mp hdigit
    conv_lhs => rw [hrest]
    rw [Segment.literal?, if_neg hquote, if_neg hdigit', if_pos hstarts]
  rw [readLiteral_of_piece hliteral rfl, hletters]
  rfl

/-! ## All literals -/

theorem ReadsByLoops.readLiteral_eq {result : Option (Except LexError Token)}
    (h : source.ReadsByLoops result behind) : source.readLiteral = (result, behind) := by
  cases h with
  | nothing hnone => exact readLiteral_of_none (literal?_eq_none_iff.mpr hnone)
  | string hquote hloop hclosed =>
    obtain ⟨rest, hrest⟩ := rest_of_peek hquote (by decide)
    obtain ⟨rfl, rfl⟩ := collected_eq tests_onText hloop
    rw [rest_advance hrest, advance_advanceBy] at hclosed ⊢
    rw [readLiteral_of_quote hrest, if_neg (Bool.eq_false_iff.mp hclosed)]
    rfl
  | openString hquote hloop hopen =>
    obtain ⟨rest, hrest⟩ := rest_of_peek hquote (by decide)
    obtain ⟨rfl, rfl⟩ := collected_eq tests_onText hloop
    rw [rest_advance hrest, advance_advanceBy] at hopen ⊢
    rw [readLiteral_of_quote hrest, if_pos hopen]
  | whole hdigit hloop hno =>
    obtain ⟨rfl, rfl⟩ := collected_eq tests_onDigit hloop
    rw [readLiteral_of_digit hdigit, numberLexeme_rest, if_neg (Bool.eq_false_iff.mp hno)]
    rfl
  | fraction hdigit hloop hpoint hmore =>
    obtain ⟨rfl, rfl⟩ := collected_eq tests_onDigit hloop
    obtain ⟨rfl, rfl⟩ := collected_eq tests_onDigit hmore
    obtain ⟨digit, rest, hrest, -⟩ := onFraction_iff.mp hpoint
    rw [readLiteral_of_digit hdigit, numberLexeme_rest, if_pos hpoint, peek_of_rest hrest,
      advance_advanceBy, ← advanceBy_add]
    simp only [List.nil_append, List.append_assoc, List.singleton_append, List.length_append,
      List.length_cons]
  | word hquote hdigit hstarts hloop =>
    obtain ⟨rfl, rfl⟩ := collected_eq tests_onWord hloop
    exact readLiteral_of_word hquote hdigit hstarts

/-- The loops come to an end, whatever stands at hand. -/
theorem exists_readsByLoops (source : Source) :
    ∃ result behind, source.ReadsByLoops result behind := by
  by_cases hnone : source.atEnd = true ∨ ¬ StartsLiteral source.peek
  · exact ⟨_, _, .nothing hnone⟩
  have hstarts : StartsLiteral source.peek := not_not.mp (not_or.mp hnone).2
  by_cases hquote : source.peek = '"'
  · have hloop := repeats_collect tests_onText [] source.advance
    by_cases hopen : (source.advance.advanceBy
        (source.advance.rest.takeWhile (· ≠ '"')).length).atEnd = true
    · exact ⟨_, _, .openString hquote hloop hopen⟩
    · exact ⟨_, _, .string hquote hloop (Bool.eq_false_iff.mpr hopen)⟩
  by_cases hdigit : source.onDigit = true
  · have hloop := repeats_collect tests_onDigit [] source
    by_cases hpoint : (source.advanceBy
        (source.rest.takeWhile Char.isDigit).length).onFraction = true
    · exact ⟨_, _, .fraction hdigit hloop hpoint (repeats_collect tests_onDigit _ _)⟩
    · exact ⟨_, _, .whole hdigit hloop (Bool.eq_false_iff.mpr hpoint)⟩
  have hword : startsIdentifier source.peek = true :=
    (hstarts.resolve_left hquote).resolve_left hdigit
  exact ⟨_, _, .word hquote (Bool.eq_false_iff.mpr hdigit) hword
    (repeats_collect tests_onWord [] source)⟩

/-- From any place, reading a literal gives what the loops give, and leaves the source where they
leave it. -/
theorem readsByLoops_iff {result : Option (Except LexError Token)} :
    source.ReadsByLoops result behind ↔ source.readLiteral = (result, behind) := by
  refine ⟨ReadsByLoops.readLiteral_eq, fun hread => ?_⟩
  obtain ⟨result', behind', hloops⟩ := exists_readsByLoops source
  cases hread.symm.trans hloops.readLiteral_eq
  exact hloops

end ExprLang.Source
