import ExprLang.Expr.Basic

/-!
Expressions in print: every operator stands in front of its operands, between parentheses, and the
parentheses of the program become the word `group`.
-/
set_option autoImplicit false

namespace ExprLang

/-- The pieces of the text of an expression, in front of some others. -/
def Expr.piecesOnto : Expr → List String → List String
  | .constant value, rest => value.constantText :: rest
  | .grouping inner, rest => "(group " :: inner.piecesOnto (")" :: rest)
  | .unary operator operand, rest =>
    "(" :: operator.lexeme :: " " :: operand.piecesOnto (")" :: rest)
  | .binary left operator right, rest =>
    "(" :: operator.lexeme :: " " :: left.piecesOnto (" " :: right.piecesOnto (")" :: rest))

/-- The text of an expression. -/
def Expr.text (e : Expr) : String := String.join (e.piecesOnto [])

/-- The text of a statement: that of its expression with a semicolon. -/
def Statement.text (statement : Statement) : String :=
  statement.expression.text ++ ";"

/-! ## The text of a tree from the texts of its parts -/

namespace Expr

theorem piecesOnto_append (e : Expr) :
    ∀ rest : List String, e.piecesOnto rest = e.piecesOnto [] ++ rest := by
  induction e with
  | constant value => intro rest; rfl
  | grouping inner ih =>
    intro rest
    rw [piecesOnto, piecesOnto, ih (")" :: rest), ih [")"]]
    simp
  | unary operator operand ih =>
    intro rest
    rw [piecesOnto, piecesOnto, ih (")" :: rest), ih [")"]]
    simp
  | binary left operator right ihLeft ihRight =>
    intro rest
    rw [piecesOnto, piecesOnto, ihRight (")" :: rest), ihRight [")"], ihLeft, ihLeft (_ :: _)]
    simp

theorem join_piecesOnto (e : Expr) (rest : List String) :
    String.join (e.piecesOnto rest) = e.text ++ String.join rest := by
  rw [piecesOnto_append, String.join_append, text]

theorem text_constant (value : Value) : (constant value).text = value.constantText := by
  simp [text, piecesOnto]

theorem text_grouping (inner : Expr) : (grouping inner).text = "(group " ++ inner.text ++ ")" := by
  rw [text, piecesOnto, String.join_cons, join_piecesOnto]
  simp [String.append_assoc]

theorem text_unary (operator : Token) (operand : Expr) :
    (unary operator operand).text = "(" ++ operator.lexeme ++ " " ++ operand.text ++ ")" := by
  rw [text, piecesOnto]
  simp only [String.join_cons, join_piecesOnto, String.join_nil, String.append_empty,
    String.append_assoc]

theorem text_binary (left : Expr) (operator : Token) (right : Expr) :
    (binary left operator right).text =
      "(" ++ operator.lexeme ++ " " ++ left.text ++ " " ++ right.text ++ ")" := by
  rw [text, piecesOnto]
  simp only [String.join_cons, join_piecesOnto, String.join_nil, String.append_empty,
    String.append_assoc]

end Expr

end ExprLang
