import ExprLang.Proofs.Moves
import ExprLang.Proofs.Scan.Loops
import ExprLang.Proofs.Scan.Lossless
import ExprLang.Text.IdentifierTables

/-!
One number, string or word at a time. Wherever a source stands, also in the middle of a lexeme or
outside the text, reading a literal takes exactly the characters of the token it gives: they begin
where the source stood, and no longer run of their class begins there. A source in front of anything
else stays where it is, and a string without its closing quote takes the source to the end.
-/
set_option autoImplicit false

namespace ExprLang

section

variable [IdentifierClasses]

/-- A quote, no quotes, and a quote. -/
def IsString (lexeme : List Char) : Prop :=
  ∃ body, '"' ∉ body ∧ lexeme = '"' :: body ++ ['"']

/-- A character that starts an identifier, and any number of those that continue it. -/
def IsWord (lexeme : List Char) : Prop :=
  ∃ first body, startsIdentifier first = true ∧ (∀ c ∈ body, continuesIdentifier c = true) ∧
    lexeme = first :: body

/-- The character starts a string, a number or a word. -/
def StartsLiteral (c : Char) : Prop :=
  c = '"' ∨ c.isDigit = true ∨ startsIdentifier c = true

/-- The run begins the stream, and no longer run of its language does. -/
structure LongestIn (language : List Char → Prop) (stream run : List Char) : Prop where
  mem : language run
  starts : run <+: stream
  longest : ∀ other, language other → other <+: stream → other.length ≤ run.length

/-- The lexeme that begins the stream, with its kind and the value it spells. -/
inductive LiteralForm (stream : List Char) : Kind → List Char → Option Literal → Prop
  | number (lexeme : List Char) (hlongest : LongestIn IsNumber stream lexeme) :
      LiteralForm stream .number lexeme
        (some (.number (Binary64.ofDecimal (Decimal.ofLexeme lexeme))))
  | string (body : List Char) (hlongest : LongestIn IsString stream ('"' :: body ++ ['"'])) :
      LiteralForm stream .string ('"' :: body ++ ['"']) (some (.string (String.ofList body)))
  | word (lexeme : List Char) (hlongest : LongestIn IsWord stream lexeme) :
      LiteralForm stream ((Kind.ofWord? (String.ofList lexeme)).getD .identifier) lexeme none

namespace Source

/-- Reads one literal: the token or the error, if there is one, and the source behind it. -/
def readLiteral (source : Source) : Option (Except LexError Token) × Source :=
  match source.nextLiteral? with
  | none => (none, source)
  | some (result, behind) => (some result, behind)

/-- The token stands where the source stood, and its lexeme is what the source has moved over: the
longest run of its class at this place. -/
structure ReadsToken (source : Source) (token : Token) (behind : Source) : Prop where
  place : token = Token.startingAt token.kind token.lexeme token.literal source.cursor
  lines_eq : behind.lines = source.lines
  forward : source.offset < behind.offset
  lexeme_eq : token.lexeme.toList =
    (source.stream.drop source.offset).take (behind.offset - source.offset)
  form : LiteralForm (source.stream.drop source.offset) token.kind token.lexeme.toList token.literal

/-- The source stood in front of a quote behind which there is no other; it is at its end, and the
error is reported for the last line. -/
structure ReadsOpenString (source : Source) (error : LexError) (behind : Source) : Prop where
  quote : source.stream[source.offset]? = some '"'
  noQuote : '"' ∉ source.stream.drop (source.offset + 1)
  lines_eq : behind.lines = source.lines
  atEnd : behind.atEnd = true
  error_eq : error = .unterminatedString source.lineCount

/-- Reading a literal gives nothing and stays in place, or gives a token or an error. -/
def ReadsLiteral (source : Source) : Option (Except LexError Token) → Source → Prop
  | none, behind => behind = source
  | some (.ok token), behind => source.ReadsToken token behind
  | some (.error error), behind => source.ReadsOpenString error behind

end Source

variable {stream lexeme : List Char} {kind : Kind} {literal : Option Literal}

/-! ## The longest of their class -/

omit [IdentifierClasses] in
theorem longestIn_string {body : List Char} (hbody : '"' ∉ body) (rest : List Char) :
    LongestIn IsString ('"' :: body ++ '"' :: rest) ('"' :: body ++ ['"']) := by
  refine ⟨⟨body, hbody, rfl⟩, ⟨rest, by simp⟩, ?_⟩
  rintro _ ⟨other, hother, rfl⟩ hstarts
  have hinside : ∀ run : List Char, '"' ∉ run → ∀ c ∈ run, decide (c ≠ '"') = true := by
    intro run hrun c hc
    simpa using ne_of_mem_of_not_mem hc hrun
  have hquote : ∀ c ∈ ('"' :: rest).head?, decide (c ≠ '"') = false := by simp
  have hbegins : other <+: body ++ '"' :: rest :=
    (List.prefix_append other ['"']).trans (List.cons_prefix_cons.mp hstarts).2
  have hle := length_le_takeWhile (hinside other hother) hbegins
  rw [(takeWhile_run (hinside body hbody) hquote).1] at hle
  simp only [List.length_append, List.length_cons]
  omega

theorem longestIn_word {first : Char} {body rest : List Char} (hfirst : startsIdentifier first = true)
    (hbody : ∀ c ∈ body, continuesIdentifier c = true)
    (hrest : ∀ c ∈ rest.head?, continuesIdentifier c = false) :
    LongestIn IsWord (first :: body ++ rest) (first :: body) := by
  refine ⟨⟨first, body, hfirst, hbody, rfl⟩, List.prefix_append _ rest, ?_⟩
  rintro _ ⟨start, other, -, hother, rfl⟩ hstarts
  rw [List.cons_append, List.cons_prefix_cons] at hstarts
  have hle := length_le_takeWhile hother hstarts.2
  rw [(takeWhile_run hbody hrest).1] at hle
  exact Nat.succ_le_succ hle

theorem LiteralForm.starts (h : LiteralForm stream kind lexeme literal) : lexeme <+: stream := by
  cases h with
  | number _ hlongest => exact hlongest.starts
  | string _ hlongest => exact hlongest.starts
  | word _ hlongest => exact hlongest.starts

theorem LiteralForm.ne_nil (h : LiteralForm stream kind lexeme literal) : lexeme ≠ [] := by
  cases h with
  | number _ hlongest =>
    rcases hlongest.mem with hdigits | ⟨whole, fraction, -, -, hpoint⟩
    · exact hdigits.1
    · simp [hpoint]
  | string => simp
  | word _ hlongest =>
    obtain ⟨first, body, -, -, rfl⟩ := hlongest.mem
    simp

namespace Source

variable {source : Source} {text : String} {offset : Nat}

/-! ## What is moved over -/

omit [IdentifierClasses] in
theorem StandsAt.drop_stream (h : source.StandsAt text offset) :
    source.stream.drop source.offset = source.rest := by
  rw [h.stream_eq, h.offset_self, h.rest_eq]

/-- Moving over a lexeme that begins the rest gives its token. -/
theorem StandsAt.readsToken (h : source.StandsAt text offset)
    (hform : LiteralForm source.rest kind lexeme literal) :
    source.ReadsToken (Token.startingAt kind (String.ofList lexeme) literal source.cursor)
      (source.advanceBy lexeme.length) := by
  have hstarts := hform.starts
  have hpos := List.length_pos_iff.mpr hform.ne_nil
  have hoffset : (source.advanceBy lexeme.length).offset = source.offset + lexeme.length := by
    rw [(StandsAt.advanceBy h hstarts.length_le).offset_self, h.offset_self]
  refine ⟨rfl, rfl, by omega, ?_, ?_⟩
  · rw [hoffset, Nat.add_sub_cancel_left, h.drop_stream]
    exact (String.toList_ofList).trans (List.prefix_iff_eq_take.mp hstarts)
  · rw [h.drop_stream]
    exact String.toList_ofList.symm ▸ hform

omit [IdentifierClasses] in
/-- Moving over an open quote and all that stands behind it leads to the end. -/
theorem StandsAt.readsOpenString (h : source.StandsAt text offset) {body : List Char}
    (hrest : source.rest = '"' :: body) (hbody : '"' ∉ body) :
    source.ReadsOpenString (.unterminatedString source.lastLine)
      (source.advanceBy ('"' :: body).length) := by
  have hlines : linesOf text.toList ≠ [] := by
    intro hnone
    have hempty := h.rest_eq
    rw [streamOfText, hnone, streamOf_nil, List.drop_nil, hrest] at hempty
    cases hempty
  refine ⟨?_, ?_, rfl, ?_, ?_⟩
  · rw [← List.head?_drop, h.drop_stream, hrest]
    rfl
  · rw [← List.drop_drop, h.drop_stream, hrest]
    exact hbody
  · rw [atEnd_iff, Source.advanceBy, hrest]
    exact List.drop_length
  · rw [h.lastLine_eq, ExprLang.lastLine_eq hlines, lineCount, h.lines_eq]

theorem readLiteral_of_none (h : Segment.literal? source.rest = none) :
    source.readLiteral = (none, source) := by
  simp only [readLiteral, nextLiteral?, h, Option.bind_none]

theorem readLiteral_of_piece {piece : Segment} {result : Except LexError Token}
    (h : Segment.literal? source.rest = some piece)
    (hresult : piece.result? source.lastLine source.cursor = some result) :
    source.readLiteral = (some result, source.advanceBy piece.length) := by
  simp only [readLiteral, nextLiteral?, h, Option.bind_some, hresult, Option.map_some]

/-- Whatever piece begins the rest, its token or its error is read. -/
theorem StandsAt.readsLiteral (h : source.StandsAt text offset) {piece : Segment}
    (hpiece : LiteralAt source.rest piece) : ∃ result,
      piece.result? source.lastLine source.cursor = some result ∧
      source.ReadsLiteral (some result) (source.advanceBy piece.length) := by
  have htoken : ∀ {kind lexeme literal}, LiteralForm source.rest kind lexeme literal →
      ∃ result,
        (Segment.token kind lexeme literal).result? source.lastLine source.cursor = some result ∧
        source.ReadsLiteral (some result) (source.advanceBy lexeme.length) :=
    fun hform => ⟨_, rfl, h.readsToken hform⟩
  generalize hrest : source.rest = stream at hpiece
  cases hpiece with
  | string body rest hbody =>
    exact htoken (hrest ▸ .string body (longestIn_string hbody rest))
  | unclosed body hbody => exact ⟨_, rfl, h.readsOpenString hrest hbody⟩
  | number lexeme rest hnumber hlongest =>
    exact htoken (hrest ▸ .number lexeme ⟨hnumber, List.prefix_append lexeme rest, hlongest⟩)
  | word first body rest hfirst hbody hbehind =>
    exact htoken (hrest ▸ .word (first :: body) (longestIn_word hfirst hbody hbehind))

theorem literal?_eq_none_iff : Segment.literal? source.rest = none ↔
    source.atEnd = true ∨ ¬ StartsLiteral source.peek := by
  cases hrest : source.rest with
  | nil => simp [atEnd_iff, hrest, Segment.literal?]
  | cons c rest =>
    have hahead : ¬ source.atEnd = true := by simp [atEnd_iff, hrest]
    rw [Segment.literal?_eq_none_iff, peek_of_rest hrest, or_iff_right hahead, StartsLiteral]
    simp

/-- From any cursor, reading a literal stays in place exactly at the end and in front of a character
that starts none; else it gives the token whose characters the source moves over, or reports the
string that is left open. -/
theorem readLiteral_consumes (text : String) (cursor : Cursor) :
    let source := (ofText text).seek cursor
    (source.readLiteral.1 = none ↔ source.atEnd = true ∨ ¬ StartsLiteral source.peek) ∧
    source.ReadsLiteral source.readLiteral.1 source.readLiteral.2 := by
  intro source
  have hstands : source.StandsAt text (offsetOf (linesOf text.toList) cursor) :=
    seek_standsAt text cursor
  rw [← literal?_eq_none_iff]
  cases hliteral : Segment.literal? source.rest with
  | none =>
    rw [readLiteral_of_none hliteral]
    exact ⟨iff_of_true rfl rfl, rfl⟩
  | some piece =>
    obtain ⟨result, hresult, hreads⟩ :=
      hstands.readsLiteral (Segment.literalAt_of_literal? hliteral)
    rw [readLiteral_of_piece hliteral hresult]
    exact ⟨iff_of_false (Option.some_ne_none _) (Option.some_ne_none _), hreads⟩

end Source

end

/-- From the middle of a lexeme: the digits behind a point are a number of their own. -/
example : ((Source.ofText "x = 12.50;").seek ⟨0, 7⟩).readLiteral.1 =
    some (.ok ⟨.number, "50", some (.number 50), 1, 8⟩) := by
  decide +kernel

end ExprLang
