import ExprLang.Text.Quoted
import ExprLang.Token.Basic

/-!
The token dump: a heading, every token on a line of its own with all its fields, and an empty line.
The names of kinds are written without underscores, each of their words with a capital letter.
-/
set_option autoImplicit false

namespace ExprLang.CommandLine

/-- A word with all letters but the first in lower case. -/
def capitalized : List Char → List Char
  | [] => []
  | first :: rest => first :: rest.map Char.toLower

/-- The name of a kind in the dump, as in `LeftParen`. -/
def kindLabel (kind : Kind) : String :=
  String.ofList ((kind.name.toList.splitOn '_').flatMap capitalized)

/-- A literal in the dump. -/
def literalLabel : Option Literal → String
  | none => "None"
  | some (.number value) => "Some(Number(" ++ Number.listed value ++ "))"
  | some (.string text) => "Some(String(" ++ quoted text ++ "))"

/-- A token in the dump. -/
def tokenLabel (token : Token) : String :=
  "Token \x7b kind: " ++ kindLabel token.kind ++ ", lexeme: " ++ quoted token.lexeme ++
    ", literal: " ++ literalLabel token.literal ++ ", line: " ++ toString token.line ++
    ", column: " ++ toString token.column ++ " \x7d"

/-- The lines of the dump. -/
def dumpLines (tokens : List Token) : List String :=
  "=== Tokens ===" :: tokens.map (fun token => "  " ++ tokenLabel token) ++ [""]

end ExprLang.CommandLine
