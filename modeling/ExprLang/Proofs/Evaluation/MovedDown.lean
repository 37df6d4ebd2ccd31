import ExprLang.Evaluation
import ExprLang.Proofs.Scan.Joined

/-!
Programs that are moved down. Operators are tokens, so an expression knows lines; but only to name
them. With all its operators some lines further down it has the same value, or fails at the same
operator for the same reason, which is then found that many lines further down. A program that is
executed in two parts fails where the first part does, or else where the second does.
-/
set_option autoImplicit false

namespace ExprLang

/-- The expression with its operators some lines further down. -/
def Expr.down (count : Nat) : Expr → Expr
  | .constant value => .constant value
  | .grouping inner => .grouping (inner.down count)
  | .unary operator operand => .unary (operator.down count) (operand.down count)
  | .binary left operator right =>
    .binary (left.down count) (operator.down count) (right.down count)

def Statement.down (count : Nat) (statement : Statement) : Statement :=
  ⟨statement.expression.down count⟩

def RuntimeError.down (count : Nat) (error : RuntimeError) : RuntimeError :=
  ⟨error.operator.down count, error.fault⟩

/-! ## Operators -/

namespace Token

variable (count : Nat) (operator : Token)

@[simp] theorem kind_down : (operator.down count).kind = operator.kind := rfl

theorem applyUnary_down (operand : Value) : (operator.down count).applyUnary operand =
    (operator.applyUnary operand).mapError (RuntimeError.down count) := by
  unfold applyUnary
  rw [kind_down]
  cases operator.kind <;> cases operand <;> rfl

theorem onNumbers_down (left right : Value) (result : Float → Float → Value) :
    (operator.down count).onNumbers left right result =
      (operator.onNumbers left right result).mapError (RuntimeError.down count) := by
  cases left <;> cases right <;> rfl

theorem sum_down (left right : Value) : (operator.down count).sum left right =
    (operator.sum left right).mapError (RuntimeError.down count) := by
  cases left <;> cases right <;> rfl

theorem applyBinary_down (left right : Value) : (operator.down count).applyBinary left right =
    (operator.applyBinary left right).mapError (RuntimeError.down count) := by
  rw [applyBinary, applyBinary, kind_down]
  cases operator.kind
  case plus => exact operator.sum_down count left right
  case minus | star | slash | greater | greaterEqual | less | lessEqual =>
    apply onNumbers_down
  all_goals rfl

end Token

/-! ## Expressions and programs -/

theorem Expr.evaluate_down (count : Nat) (e : Expr) :
    (e.down count).evaluate = e.evaluate.mapError (RuntimeError.down count) := by
  induction e with
  | constant value => rfl
  | grouping inner ih => exact ih
  | unary operator operand ih =>
    rw [down, evaluate, evaluate, ih]
    cases operand.evaluate with
    | error error => rfl
    | ok value => exact operator.applyUnary_down count value
  | binary left operator right ihLeft ihRight =>
    rw [down, evaluate, evaluate, ihLeft, ihRight]
    cases left.evaluate with
    | error error => rfl
    | ok a =>
      cases right.evaluate with
      | error error => rfl
      | ok b => exact operator.applyBinary_down count a b

namespace Statement

theorem executeAll_of_ok {statement : Statement} {value : Value}
    (h : statement.expression.evaluate = .ok value) (rest : List Statement) :
    executeAll (statement :: rest) = ((executeAll rest).1 + 1, (executeAll rest).2) := by
  rw [executeAll, h]

theorem executeAll_of_error {statement : Statement} {error : RuntimeError}
    (h : statement.expression.evaluate = .error error) (rest : List Statement) :
    executeAll (statement :: rest) = (0, some error) := by
  rw [executeAll, h]

theorem executeAll_down (count : Nat) (statements : List Statement) :
    executeAll (statements.map (down count)) =
      ((executeAll statements).1, (executeAll statements).2.map (RuntimeError.down count)) := by
  induction statements with
  | nil => rfl
  | cons statement rest ih =>
    have hdown : (statement.down count).expression.evaluate = _ :=
      statement.expression.evaluate_down count
    cases hvalue : statement.expression.evaluate with
    | ok value =>
      rw [hvalue] at hdown
      rw [List.map_cons, executeAll_of_ok hdown, executeAll_of_ok hvalue, ih]
    | error error =>
      rw [hvalue] at hdown
      rw [List.map_cons, executeAll_of_error hdown, executeAll_of_error hvalue]
      rfl

/-- Behind statements that do not fail, others fail as they do alone. -/
theorem executeAll_append {first : List Statement} (h : (executeAll first).2 = none)
    (second : List Statement) : (executeAll (first ++ second)).2 = (executeAll second).2 := by
  induction first with
  | nil => rfl
  | cons statement rest ih =>
    cases hvalue : statement.expression.evaluate with
    | ok value =>
      rw [executeAll_of_ok hvalue] at h
      rw [List.cons_append, executeAll_of_ok hvalue, ih h]
    | error error =>
      rw [executeAll_of_error hvalue] at h
      cases h

end Statement

end ExprLang
