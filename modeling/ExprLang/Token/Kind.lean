/-!
The kinds of tokens. A kind is spelled in one way (punctuation and operators), is one word out of a
list of reserved words, or covers lexemes of any length (numbers, strings, identifiers). Two kinds
stand for no text of the language: the end of the input, and a piece of text that is no token.
-/
set_option autoImplicit false

namespace ExprLang

/-- What a token is. -/
inductive Kind
  | leftParen | rightParen | leftBrace | rightBrace | comma | dot | semicolon
  | minus | plus | slash | star | bang | equal | greater | less
  | bangEqual | equalEqual | greaterEqual | lessEqual
  | number | string | identifier
  | andKeyword | classKeyword | elseKeyword | falseKeyword | forKeyword | funKeyword | ifKeyword
  | nilKeyword | orKeyword | printKeyword | returnKeyword | superKeyword | thisKeyword
  | trueKeyword | varKeyword | whileKeyword
  | eof | unexpected
deriving DecidableEq, Repr

namespace Kind

/-- The name of a kind in a token listing. -/
def name : Kind → String
  | .leftParen => "LEFT_PAREN"
  | .rightParen => "RIGHT_PAREN"
  | .leftBrace => "LEFT_BRACE"
  | .rightBrace => "RIGHT_BRACE"
  | .comma => "COMMA"
  | .dot => "DOT"
  | .semicolon => "SEMICOLON"
  | .minus => "MINUS"
  | .plus => "PLUS"
  | .slash => "SLASH"
  | .star => "STAR"
  | .bang => "BANG"
  | .equal => "EQUAL"
  | .greater => "GREATER"
  | .less => "LESS"
  | .bangEqual => "BANG_EQUAL"
  | .equalEqual => "EQUAL_EQUAL"
  | .greaterEqual => "GREATER_EQUAL"
  | .lessEqual => "LESS_EQUAL"
  | .number => "NUMBER"
  | .string => "STRING"
  | .identifier => "IDENTIFIER"
  | .andKeyword => "AND"
  | .classKeyword => "CLASS"
  | .elseKeyword => "ELSE"
  | .falseKeyword => "FALSE"
  | .forKeyword => "FOR"
  | .funKeyword => "FUN"
  | .ifKeyword => "IF"
  | .nilKeyword => "NIL"
  | .orKeyword => "OR"
  | .printKeyword => "PRINT"
  | .returnKeyword => "RETURN"
  | .superKeyword => "SUPER"
  | .thisKeyword => "THIS"
  | .trueKeyword => "TRUE"
  | .varKeyword => "VAR"
  | .whileKeyword => "WHILE"
  | .eof => "EOF"
  | .unexpected => "UNEXPECTED"

/-- Every kind once, in the order of the declaration. -/
def all : List Kind :=
  [.leftParen, .rightParen, .leftBrace, .rightBrace, .comma, .dot, .semicolon, .minus, .plus,
   .slash, .star, .bang, .equal, .greater, .less, .bangEqual, .equalEqual, .greaterEqual,
   .lessEqual, .number, .string, .identifier, .andKeyword, .classKeyword, .elseKeyword,
   .falseKeyword, .forKeyword, .funKeyword, .ifKeyword, .nilKeyword, .orKeyword, .printKeyword,
   .returnKeyword, .superKeyword, .thisKeyword, .trueKeyword, .varKeyword, .whileKeyword, .eof,
   .unexpected]

theorem mem_all (kind : Kind) : kind ∈ all := by
  cases kind <;> decide

/-- The kind of a given name. -/
def ofName? (text : String) : Option Kind :=
  all.find? (·.name == text)

/-- Tokens of this kind carry the value that their lexeme spells. -/
def requiresLiteral (kind : Kind) : Bool :=
  kind == number || kind == string

/-- The only spelling of a kind that has one. -/
def fixedLexeme? : Kind → Option String
  | .leftParen => some "("
  | .rightParen => some ")"
  | .leftBrace => some "\x7b"
  | .rightBrace => some "\x7d"
  | .comma => some ","
  | .dot => some "."
  | .semicolon => some ";"
  | .minus => some "-"
  | .plus => some "+"
  | .slash => some "/"
  | .star => some "*"
  | .bang => some "!"
  | .equal => some "="
  | .greater => some ">"
  | .less => some "<"
  | .bangEqual => some "!="
  | .equalEqual => some "=="
  | .greaterEqual => some ">="
  | .lessEqual => some "<="
  | _ => none

/-- The reserved words. -/
def keywords : List (String × Kind) :=
  [("and", .andKeyword), ("class", .classKeyword), ("else", .elseKeyword),
   ("false", .falseKeyword), ("for", .forKeyword), ("fun", .funKeyword), ("if", .ifKeyword),
   ("nil", .nilKeyword), ("or", .orKeyword), ("print", .printKeyword), ("return", .returnKeyword),
   ("super", .superKeyword), ("this", .thisKeyword), ("true", .trueKeyword), ("var", .varKeyword),
   ("while", .whileKeyword)]

/-- The kind of a reserved word. -/
def ofWord? (word : String) : Option Kind :=
  keywords.lookup word

end Kind

end ExprLang
