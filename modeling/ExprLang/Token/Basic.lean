import ExprLang.Cursor
import ExprLang.Number.Text
import ExprLang.Token.Kind

/-!
Tokens: a kind, the lexeme as it stands in the text, the value the lexeme spells if it is a number
or a string, and the place of its first character, counted from one.
-/
set_option autoImplicit false

namespace ExprLang

/-- The value that a lexeme spells. -/
inductive Literal
  | number (value : Float)
  | string (text : String)
deriving DecidableEq, Repr

/-- The text of a literal: a number keeps its point, a string loses its quotes. -/
def Literal.text : Literal → String
  | .number value => Number.constant value
  | .string text => text

/-- One token of a text. -/
structure Token where
  kind : Kind
  lexeme : String
  literal : Option Literal
  line : Nat
  column : Nat
deriving DecidableEq, Repr

namespace Token

/-- A token that starts at a cursor. -/
def startingAt (kind : Kind) (lexeme : String) (literal : Option Literal) (cursor : Cursor) :
    Token :=
  ⟨kind, lexeme, literal, cursor.displayLine, cursor.displayColumn⟩

/-- The token that closes every token list. -/
def eof (cursor : Cursor) : Token :=
  Token.startingAt .eof "" none cursor

/-- The token is the end of the input. -/
def isEof (token : Token) : Bool :=
  token.kind == .eof

/-- The position of the first character; a line or column of zero counts as one. -/
def cursor (token : Token) : Cursor :=
  ⟨token.line - 1, token.column - 1⟩

/-- Kind, lexeme and literal, `null` standing for a missing literal. -/
def text (token : Token) : String :=
  token.kind.name ++ " " ++ token.lexeme ++ " " ++ (token.literal.map Literal.text).getD "null"

theorem cursor_startingAt (kind : Kind) (lexeme : String) (literal : Option Literal)
    (cursor : Cursor) :
    (Token.startingAt kind lexeme literal cursor).cursor = cursor := rfl

end Token

end ExprLang
