import ExprLang.Parser.Expression

/-!
The grammar of expressions. `Derives words e` says that some tokens are one way to write a tree,
whatever the operators in it bind; it leaves most token lists several trees. `Expr.FormedAt level e`
keeps the trees that respect precedence: an operator of a level has a left operand that binds at
least as tightly and a right one that binds more tightly, and an operator in front of an operand has
one that is unary or primary. Between the two, a token list has at most one tree.
-/
set_option autoImplicit false

namespace ExprLang

/-- The operators that stand between two operands, level by level. -/
def Level.operators : Level → List Kind
  | .equality => [.bangEqual, .equalEqual]
  | .comparison => [.greater, .greaterEqual, .less, .lessEqual]
  | .term => [.minus, .plus]
  | .factor => [.slash, .star]
  | .unary => []
  | .primary => []

/-- The tokens are one way to write the tree. -/
inductive Derives : List Token → Expr → Prop
  | literal (token : Token) (value : Literal) (hkind : token.kind = .number ∨ token.kind = .string)
      (hvalue : token.literal = some value) : Derives [token] (.constant value.toValue)
  | truth (token : Token) (hkind : token.kind = .trueKeyword) :
      Derives [token] (.constant (.boolean true))
  | falsity (token : Token) (hkind : token.kind = .falseKeyword) :
      Derives [token] (.constant (.boolean false))
  | nil (token : Token) (hkind : token.kind = .nilKeyword) : Derives [token] (.constant .nil)
  | grouping (left right : Token) (words : List Token) (inner : Expr)
      (hleft : left.kind = .leftParen) (hright : right.kind = .rightParen)
      (hinner : Derives words inner) : Derives (left :: words ++ [right]) (.grouping inner)
  | unary (operator : Token) (words : List Token) (operand : Expr)
      (hoperator : operator.kind = .bang ∨ operator.kind = .minus)
      (hoperand : Derives words operand) : Derives (operator :: words) (.unary operator operand)
  | binary (operator : Token) (level : Level) (before after : List Token) (left right : Expr)
      (hoperator : operator.kind ∈ level.operators) (hleft : Derives before left)
      (hright : Derives after right) :
      Derives (before ++ operator :: after) (.binary left operator right)

/-- The tree respects precedence, and its outermost node is of the level. -/
inductive Expr.FormedAt : Level → Expr → Prop
  | constant (value : Value) : FormedAt .primary (.constant value)
  | grouping (own : Level) (inner : Expr) (hinner : FormedAt own inner) :
      FormedAt .primary (.grouping inner)
  | unary (own : Level) (operator : Token) (operand : Expr) (hoperand : FormedAt own operand)
      (hown : Level.unary.rank ≤ own.rank) : FormedAt .unary (.unary operator operand)
  | binary (level first second : Level) (operator : Token) (left right : Expr)
      (hoperator : operator.kind ∈ level.operators)
      (hleft : FormedAt first left) (hfirst : level.rank ≤ first.rank)
      (hright : FormedAt second right) (hsecond : level.rank < second.rank) :
      FormedAt level (.binary left operator right)

/-- The tree respects precedence. -/
def Expr.WellFormed (e : Expr) : Prop := ∃ level, Expr.FormedAt level e

/-! ## Levels and operators -/

theorem binaryLevel?_eq_some_iff (kind : Kind) (level : Level) :
    kind.binaryLevel? = some level ↔ kind ∈ level.operators := by
  cases kind <;> cases level <;> simp [Kind.binaryLevel?, Level.operators]

theorem isUnary_iff (kind : Kind) : kind.isUnary = true ↔ kind = .bang ∨ kind = .minus := by
  simp [Kind.isUnary]

theorem rank_lt_unary {kind : Kind} {level : Level} (h : kind ∈ level.operators) :
    level.rank < Level.unary.rank := by
  cases level <;> first | decide | cases h

theorem rank_le_primary (level : Level) : level.rank ≤ Level.primary.rank := by
  cases level <;> decide

theorem not_eof_of_operator {kind : Kind} {level : Level} (h : kind ∈ level.operators) :
    kind ≠ .eof := by
  rintro rfl
  cases level <;> simp [Level.operators] at h

/-! ## Derived tokens -/

/-- The end of the input is no part of an expression. -/
theorem Derives.not_eof {words : List Token} {e : Expr} (h : Derives words e) :
    ∀ token ∈ words, token.isEof = false := by
  have hother : ∀ token : Token, token.kind ≠ .eof → token.isEof = false := fun token hkind => by
    simpa [Token.isEof] using hkind
  induction h with
  | literal token value hkind hvalue =>
    simpa using hother token (by rcases hkind with h | h <;> rw [h] <;> decide)
  | truth token hkind => simpa using hother token (by rw [hkind]; decide)
  | falsity token hkind => simpa using hother token (by rw [hkind]; decide)
  | nil token hkind => simpa using hother token (by rw [hkind]; decide)
  | grouping left right words inner hleft hright hinner ih =>
    intro token htoken
    rw [List.cons_append, List.mem_cons, List.mem_append, List.mem_singleton] at htoken
    rcases htoken with rfl | hin | rfl
    · exact hother _ (by rw [hleft]; decide)
    · exact ih token hin
    · exact hother _ (by rw [hright]; decide)
  | unary operator words operand hoperator hoperand ih =>
    intro token htoken
    rcases List.mem_cons.mp htoken with rfl | hin
    · exact hother _ (by rcases hoperator with h | h <;> rw [h] <;> decide)
    · exact ih token hin
  | binary operator level before after left right hoperator hleft hright ihLeft ihRight =>
    intro token htoken
    rw [List.mem_append, List.mem_cons] at htoken
    rcases htoken with hin | rfl | hin
    · exact ihLeft token hin
    · exact hother _ (not_eof_of_operator hoperator)
    · exact ihRight token hin

end ExprLang
