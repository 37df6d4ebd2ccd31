import ExprLang.Expr.Basic

/-!
Evaluation. Operands are evaluated before their operator is looked at, the left one first, and the
first operator that fails ends the evaluation; the error keeps that operator, so that its line can
be named. Which operands an operator accepts depends on their types alone: numbers for arithmetic
and comparison, two numbers or two strings for the sum, anything for equality and negation.
-/
set_option autoImplicit false

namespace ExprLang

/-- Why an operator cannot be applied. -/
inductive Fault
  | operandNotNumber
  | operandsNotNumbers
  | operandsNotAddable
  | unsupported
deriving DecidableEq, Repr

/-- A failure of an operator. -/
structure RuntimeError where
  operator : Token
  fault : Fault
deriving DecidableEq, Repr

namespace RuntimeError

/-- The failure in words. -/
def message (error : RuntimeError) : String :=
  match error.fault with
  | .operandNotNumber => "Operand must be a number."
  | .operandsNotNumbers => "Operands must be numbers."
  | .operandsNotAddable => "Operands must be two numbers or two strings."
  | .unsupported => "Unsupported operator '" ++ error.operator.lexeme ++ "'."

/-- The line of the operator. -/
def line (error : RuntimeError) : Nat := error.operator.line

end RuntimeError

namespace Token

/-- A complaint about an operator: the words, and its line on a line of its own. -/
def operatorComplaint (operator : Token) (words : String) : String :=
  words ++ "\n[line " ++ toString operator.line ++ "]"

/-! ## Operators -/

/-- The value of an operator in front of an operand. -/
def applyUnary (operator : Token) (operand : Value) : Except RuntimeError Value :=
  match operator.kind with
  | .minus =>
    match operand with
    | .number value => .ok (.number (-value))
    | _ => .error ⟨operator, .operandNotNumber⟩
  | .bang => .ok (.boolean (!operand.isTruthy))
  | _ => .error ⟨operator, .unsupported⟩

/-- The number or the truth value that a function makes of two numbers. -/
def onNumbers (operator : Token) (left right : Value) (result : Float → Float → Value) :
    Except RuntimeError Value :=
  match left, right with
  | .number a, .number b => .ok (result a b)
  | _, _ => .error ⟨operator, .operandsNotNumbers⟩

/-- An operator that takes two numbers fails if one of them is missing. -/
theorem onNumbers_eq (operator : Token) (left right : Value) (result : Float → Float → Value) :
    operator.onNumbers left right result =
      match left.number?, right.number? with
      | some a, some b => .ok (result a b)
      | _, _ => .error ⟨operator, .operandsNotNumbers⟩ := by
  cases left <;> cases right <;> rfl

theorem applyUnary_minus {operator : Token} (h : operator.kind = .minus) (operand : Value) :
    operator.applyUnary operand =
      match operand.number? with
      | some value => .ok (.number (-value))
      | none => .error ⟨operator, .operandNotNumber⟩ := by
  unfold applyUnary
  rw [h]
  cases operand <;> rfl

/-- The sum of two numbers, or two strings one after the other. -/
def sum (operator : Token) (left right : Value) : Except RuntimeError Value :=
  match left, right with
  | .number a, .number b => .ok (.number (a + b))
  | .string a, .string b => .ok (.string (a ++ b))
  | _, _ => .error ⟨operator, .operandsNotAddable⟩

/-- The value of an operator between two operands. -/
def applyBinary (operator : Token) (left right : Value) : Except RuntimeError Value :=
  match operator.kind with
  | .plus => operator.sum left right
  | .minus => operator.onNumbers left right fun a b => .number (a - b)
  | .star => operator.onNumbers left right fun a b => .number (a * b)
  | .slash => operator.onNumbers left right fun a b => .number (a / b)
  | .greater => operator.onNumbers left right fun a b => .boolean (decide (b < a))
  | .greaterEqual => operator.onNumbers left right fun a b => .boolean (decide (b ≤ a))
  | .less => operator.onNumbers left right fun a b => .boolean (decide (a < b))
  | .lessEqual => operator.onNumbers left right fun a b => .boolean (decide (a ≤ b))
  | .equalEqual => .ok (.boolean (left.equals right))
  | .bangEqual => .ok (.boolean (!left.equals right))
  | _ => .error ⟨operator, .unsupported⟩

end Token

/-! ## Expressions and programs -/

/-- The value of an expression. -/
def Expr.evaluate : Expr → Except RuntimeError Value
  | .constant value => .ok value
  | .grouping inner => inner.evaluate
  | .unary operator operand => operand.evaluate.bind operator.applyUnary
  | .binary left operator right =>
    left.evaluate.bind fun a => right.evaluate.bind fun b => operator.applyBinary a b

/-- Evaluates statements in their order up to the first failure. Gives how many were completed, and
the failure if there was one. -/
def Statement.executeAll : List Statement → Nat × Option RuntimeError
  | [] => (0, none)
  | statement :: rest =>
    match statement.expression.evaluate with
    | .error error => (0, some error)
    | .ok _ =>
      let (count, failure) := executeAll rest
      (count + 1, failure)

/-- An interpreter counts the statements it has completed. -/
structure Interpreter where
  executed : Nat
deriving DecidableEq, Repr

namespace Interpreter

/-- An interpreter that has done nothing yet. -/
def new : Interpreter := ⟨0⟩

/-- Executes statements, and gives the failure if there was one. -/
def execute (interpreter : Interpreter) (statements : List Statement) :
    Option RuntimeError × Interpreter :=
  let (count, failure) := Statement.executeAll statements
  (failure, ⟨interpreter.executed + count⟩)

end Interpreter

end ExprLang
