import ExprLang.Token.Kind

/-!
How tightly operators bind, from the loosest level to the tightest.
-/
set_option autoImplicit false

namespace ExprLang

/-- A level of the grammar of expressions. -/
inductive Level
  | equality | comparison | term | factor | unary | primary
deriving DecidableEq, Repr

/-- The place of a level: a higher one binds more tightly. -/
def Level.rank : Level → Nat
  | .equality => 0
  | .comparison => 1
  | .term => 2
  | .factor => 3
  | .unary => 4
  | .primary => 5

instance : LE Level := ⟨fun a b => a.rank ≤ b.rank⟩

instance (a b : Level) : Decidable (a ≤ b) := inferInstanceAs (Decidable (a.rank ≤ b.rank))

/-- The level of an operator between two operands. -/
def Kind.binaryLevel? : Kind → Option Level
  | .bangEqual | .equalEqual => some .equality
  | .greater | .greaterEqual | .less | .lessEqual => some .comparison
  | .minus | .plus => some .term
  | .slash | .star => some .factor
  | _ => none

/-- The operators in front of an operand. -/
def Kind.isUnary (kind : Kind) : Bool :=
  kind == .bang || kind == .minus

end ExprLang
