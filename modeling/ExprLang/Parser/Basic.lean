import ExprLang.Expr.Printer
import ExprLang.Parser.Expression

/-!
Parsers. A parser holds the tokens it has not read yet, up to the first end-of-input token, and that
token, where errors behind the last one are located. It can be asked for one expression that takes
all the tokens, or for a program, a list of statements; it keeps its position from one question to
the next. In a program an error costs one statement: reading goes on behind the next semicolon.
-/
set_option autoImplicit false

namespace ExprLang

/-- A complaint about a token: what was expected where it stands. -/
structure SyntaxError where
  token : Token
  expected : Expectation
deriving DecidableEq, Repr

/-- The words for what was expected. -/
def Expectation.text : Expectation → String
  | .expression => "Expect expression."
  | .closingParen => "Expect ')' after expression."
  | .semicolon => "Expect ';' after expression."
  | .endOfExpression => "Expect end of expression."

/-- A complaint located at a token: the line, and the lexeme between quotes or the word `end`. -/
def Token.complaint (token : Token) (words : String) : String :=
  let place := if token.isEof then "end" else "'" ++ token.lexeme ++ "'"
  "[line " ++ toString token.line ++ "] Error at " ++ place ++ ": " ++ words

/-- A syntax error in words. -/
def SyntaxError.message (error : SyntaxError) : String :=
  error.token.complaint error.expected.text

/-! ## Statements -/

namespace Statement

/-- The statement at the front of a token list, or what was expected, and the rest of the list. -/
def read (tokens : List Token) : Except Expectation Statement × List Token :=
  match Expr.read tokens with
  | (.error expected, rest) => (.error expected, rest)
  | (.ok _, []) => (.error .semicolon, [])
  | (.ok e, token :: rest) =>
    if token.kind = .semicolon then (.ok ⟨e⟩, rest) else (.error .semicolon, token :: rest)

/-- The tokens behind the first semicolon. -/
def afterSemicolon : List Token → List Token
  | [] => []
  | token :: rest => if token.kind = .semicolon then rest else afterSemicolon rest

/-- Where the next statement begins: behind this one, or after an error behind a semicolon. -/
def resume : Except Expectation Statement × List Token → List Token
  | (.ok _, rest) => rest
  | (.error _, rest) => afterSemicolon rest

theorem length_afterSemicolon_le (tokens : List Token) :
    (afterSemicolon tokens).length ≤ tokens.length - 1 := by
  induction tokens with
  | nil => exact Nat.le_refl _
  | cons token rest ih =>
    rw [afterSemicolon]
    split
    · exact Nat.le_refl _
    · simp only [List.length_cons]
      omega

/-- A statement is an expression with a semicolon behind it; where that fails, nothing more is read. -/
theorem read_of_expr {tokens left : List Token} {result : Except Expectation Expr}
    (h : Expr.read tokens = (result, left)) :
    (∃ e semicolon rest, result = .ok e ∧ left = semicolon :: rest ∧ semicolon.kind = .semicolon ∧
      read tokens = (.ok ⟨e⟩, rest)) ∨
    ∃ expected, read tokens = (.error expected, left) ∧
      (result = .error expected ∨ expected = .semicolon ∧ (∃ e, result = .ok e) ∧
        ∀ token ∈ left.head?, token.kind ≠ .semicolon) := by
  rw [read, h]
  cases result with
  | error expected => exact Or.inr ⟨expected, rfl, Or.inl rfl⟩
  | ok e =>
    cases left with
    | nil => exact Or.inr ⟨.semicolon, rfl, Or.inr ⟨rfl, ⟨e, rfl⟩, by simp⟩⟩
    | cons token rest =>
      by_cases hkind : token.kind = .semicolon
      · exact Or.inl ⟨e, token, rest, rfl, rfl, hkind, if_pos hkind⟩
      · exact Or.inr ⟨.semicolon, if_neg hkind, Or.inr ⟨rfl, ⟨e, rfl⟩, by simpa using hkind⟩⟩

theorem length_resume_lt (token : Token) (rest : List Token) :
    (resume (read (token :: rest))).length < (token :: rest).length := by
  have hle := (Expr.read_suffix (token :: rest)).length_le
  rcases hexpr : Expr.read (token :: rest) with ⟨result, left⟩
  rw [hexpr] at hle
  rcases read_of_expr hexpr with ⟨e, semicolon, behind, -, rfl, -, hread⟩ | ⟨expected, hread, -⟩
  · rw [hread, resume]
    exact Nat.lt_of_lt_of_le (Nat.lt_succ_self _) hle
  · have hskip := length_afterSemicolon_le left
    rw [hread, resume]
    simp only [List.length_cons] at *
    omega

/-- The statements and the errors of a token list in their order; `last` stands behind the list. -/
def readAll (last : Token) : List Token → List (Except SyntaxError Statement)
  | [] => []
  | token :: rest =>
    let outcome := read (token :: rest)
    let item : Except SyntaxError Statement :=
      match outcome with
      | (.ok statement, _) => .ok statement
      | (.error expected, left) => .error ⟨left.headD last, expected⟩
    item :: readAll last (resume outcome)
termination_by tokens => tokens.length
decreasing_by exact length_resume_lt token rest

end Statement

/-! ## Parsers -/

/-- The tokens still to be read and the token that ends them. -/
structure Parser where
  pending : List Token
  last : Token
deriving DecidableEq, Repr

namespace Parser

/-- The end of a list that has no end of its own: it stands where the last token stands. -/
def impliedEnd (tokens : List Token) : Token :=
  match tokens.getLast? with
  | some token => ⟨.eof, "", none, token.line, token.column⟩
  | none => ⟨.eof, "", none, 1, 1⟩

/-- A parser at the start of a token list. Nothing behind the first end of the input counts. -/
def ofTokens (tokens : List Token) : Parser where
  pending := tokens.takeWhile (!·.isEof)
  last := (tokens.find? Token.isEof).getD (impliedEnd tokens)

/-- The first token that has not been read. -/
def here (parser : Parser) : Token := parser.pending.headD parser.last

/-- Reads one expression that takes all the tokens. -/
def parse (parser : Parser) : Except SyntaxError Expr × Parser :=
  let (result, rest) := Expr.read parser.pending
  let parser := { parser with pending := rest }
  match result with
  | .error expected => (.error ⟨parser.here, expected⟩, parser)
  | .ok e => (if rest = [] then .ok e else .error ⟨parser.here, .endOfExpression⟩, parser)

/-- Reads statements to the end. -/
def program (parser : Parser) : List (Except SyntaxError Statement) × Parser :=
  (Statement.readAll parser.last parser.pending, { parser with pending := [] })

end Parser

end ExprLang
