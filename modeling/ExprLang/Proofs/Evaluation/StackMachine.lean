import ExprLang.Evaluation

/-!
Evaluation on a stack. The nodes of an expression in post-order are a program for a machine that
keeps values on a stack: a constant is pushed, parentheses do nothing, and an operator takes its
operands off, the right one first, and pushes what it makes of them. The machine stops at the first
operator that fails. It computes what the tree means, on top of whatever lies on the stack already,
so the failure of an expression is that of the first operator in post-order that fails, and the
operands of that operator lie on the stack by then.
-/
set_option autoImplicit false

namespace ExprLang

/-- Why the machine stops before the last node. -/
inductive Halt
  | failure (error : RuntimeError)
  | underflow
deriving DecidableEq, Repr

/-- The stack with a result on top of it, unless the result is a failure. -/
def pushResult (stack : List Value) : Except RuntimeError Value → Except Halt (List Value)
  | .ok value => .ok (value :: stack)
  | .error error => .error (.failure error)

namespace Node

/-- What one node does to the stack. -/
def step : Node → List Value → Except Halt (List Value)
  | .constant value, stack => .ok (value :: stack)
  | .grouping, stack => .ok stack
  | .unary operator, operand :: stack => pushResult stack (operator.applyUnary operand)
  | .binary operator, right :: left :: stack => pushResult stack (operator.applyBinary left right)
  | _, _ => .error .underflow

/-- What some nodes do to the stack, one after the other. -/
def run : List Node → List Value → Except Halt (List Value)
  | [], stack => .ok stack
  | node :: rest, stack => (node.step stack).bind (run rest)

/-- The token of an operator. -/
def operator? : Node → Option Token
  | .unary operator => some operator
  | .binary operator => some operator
  | _ => none

/-- An operator fails on the operands that lie on top of the stack. -/
inductive Fails (error : RuntimeError) : Node → List Value → Prop
  | unary {operator : Token} {operand : Value} {stack : List Value}
      (h : operator.applyUnary operand = .error error) :
      Fails error (.unary operator) (operand :: stack)
  | binary {operator : Token} {left right : Value} {stack : List Value}
      (h : operator.applyBinary left right = .error error) :
      Fails error (.binary operator) (right :: left :: stack)

/-! ## One node -/

variable {node : Node} {stack : List Value} {error : RuntimeError}

theorem pushResult_eq_failure {result : Except RuntimeError Value} :
    pushResult stack result = .error (.failure error) ↔ result = .error error := by
  cases result <;> simp [pushResult]

theorem step_eq_failure : node.step stack = .error (.failure error) ↔ node.Fails error stack := by
  constructor
  · intro h
    unfold step at h
    split at h
    · cases h
    · cases h
    · exact .unary (pushResult_eq_failure.mp h)
    · exact .binary (pushResult_eq_failure.mp h)
    · cases h
  · intro h
    cases h with
    | unary h => exact pushResult_eq_failure.mpr h
    | binary h => exact pushResult_eq_failure.mpr h

end Node

namespace Token

variable {operator : Token} {error : RuntimeError}

theorem operator_of_applyUnary {operand : Value}
    (h : operator.applyUnary operand = .error error) : error.operator = operator := by
  unfold applyUnary at h
  repeat' split at h
  all_goals cases h
  all_goals rfl

theorem operator_of_onNumbers {left right : Value} {result : Float → Float → Value}
    (h : operator.onNumbers left right result = .error error) : error.operator = operator := by
  unfold onNumbers at h
  split at h <;> cases h
  rfl

theorem operator_of_sum {left right : Value} (h : operator.sum left right = .error error) :
    error.operator = operator := by
  unfold sum at h
  split at h <;> cases h
  rfl

theorem operator_of_applyBinary {left right : Value}
    (h : operator.applyBinary left right = .error error) : error.operator = operator := by
  unfold applyBinary at h
  split at h
  case h_1 => exact operator_of_sum h
  case h_9 => cases h
  case h_10 => cases h
  case h_11 =>
    cases h
    rfl
  all_goals exact operator_of_onNumbers h

end Token

namespace Node

variable {node : Node} {stack : List Value} {error : RuntimeError}

theorem Fails.operator_eq (h : node.Fails error stack) : node.operator? = some error.operator := by
  cases h with
  | unary h => rw [Token.operator_of_applyUnary h, operator?]
  | binary h => rw [Token.operator_of_applyBinary h, operator?]

/-! ## Many nodes -/

theorem run_append (first second : List Node) (stack : List Value) :
    run (first ++ second) stack = (run first stack).bind (run second) := by
  induction first generalizing stack with
  | nil => rfl
  | cons node rest ih =>
    rw [List.cons_append, run, run]
    cases node.step stack with
    | error halt => rfl
    | ok next => exact ih next

/-- A run that fails does so at one node, and goes well up to it. -/
theorem run_eq_failure {nodes : List Node} :
    run nodes stack = .error (.failure error) ↔
      ∃ front node back reached, nodes = front ++ node :: back ∧ run front stack = .ok reached ∧
        node.Fails error reached := by
  constructor
  · intro h
    induction nodes generalizing stack with
    | nil => cases h
    | cons node rest ih =>
      rw [run] at h
      cases hstep : node.step stack with
      | error halt =>
        rw [hstep] at h
        cases h
        exact ⟨[], node, rest, stack, rfl, rfl, step_eq_failure.mp hstep⟩
      | ok next =>
        rw [hstep] at h
        obtain ⟨front, failing, back, reached, hsplit, hfront, hfails⟩ := ih h
        refine ⟨node :: front, failing, back, reached, by rw [hsplit, List.cons_append], ?_, hfails⟩
        rw [run, hstep]
        exact hfront
  · rintro ⟨front, node, back, reached, rfl, hfront, hfails⟩
    rw [run_append, hfront]
    show (node.step reached).bind (run back) = _
    rw [step_eq_failure.mpr hfails]
    rfl

end Node

/-! ## Expressions -/

namespace Expr

open Node

/-- The nodes of an expression push its value, whatever lies below and whatever follows. -/
theorem run_nodesOnto (e : Expr) (rest : List Node) (stack : List Value) :
    run (e.nodesOnto rest) stack = (pushResult stack e.evaluate).bind (run rest) := by
  induction e generalizing rest stack with
  | constant value => rfl
  | grouping inner ih =>
    rw [nodesOnto, ih, evaluate]
    rfl
  | unary operator operand ih =>
    rw [nodesOnto, ih, evaluate]
    cases operand.evaluate <;> rfl
  | binary left operator right ihLeft ihRight =>
    -- The left value lies on the stack when the nodes of the right operand are run.
    rw [nodesOnto, ihLeft, evaluate]
    cases left.evaluate with
    | error error => rfl
    | ok a =>
      show run (right.nodesOnto (.binary operator :: rest)) (a :: stack) = _
      rw [ihRight]
      cases right.evaluate <;> rfl

theorem run_nodes (e : Expr) : run e.nodes [] = pushResult [] e.evaluate := by
  rw [nodes, run_nodesOnto]
  cases e.evaluate <;> rfl

/-- Evaluating a tree is running its nodes in post-order: the machine ends with the value alone on
the stack, or with the same failure. An expression fails exactly if some operator in post-order does
while the nodes in front of it go well, so that its operands lie on the stack; that operator gives
the failure its line. -/
theorem evaluate_on_stack (e : Expr) :
    (∀ value, e.evaluate = .ok value ↔ run e.nodes [] = .ok [value]) ∧
    (∀ error, e.evaluate = .error error ↔ run e.nodes [] = .error (.failure error)) ∧
    ∀ error, e.evaluate = .error error ↔
      ∃ front node back stack, e.nodes = front ++ node :: back ∧ run front [] = .ok stack ∧
        node.Fails error stack ∧
        ∃ operator, node.operator? = some operator ∧ error.line = operator.line := by
  have hrun := e.run_nodes
  have hfailure : ∀ error, e.evaluate = .error error ↔ run e.nodes [] = .error (.failure error) := by
    intro error
    rw [hrun, pushResult_eq_failure]
  refine ⟨fun value => ?_, hfailure, fun error => ?_⟩
  · rw [hrun]
    cases e.evaluate <;> simp [pushResult]
  · rw [hfailure, run_eq_failure]
    constructor
    · rintro ⟨front, node, back, stack, hsplit, hfront, hfails⟩
      exact ⟨front, node, back, stack, hsplit, hfront, hfails, error.operator, hfails.operator_eq, rfl⟩
    · rintro ⟨front, node, back, stack, hsplit, hfront, hfails, -⟩
      exact ⟨front, node, back, stack, hsplit, hfront, hfails⟩

end Expr

end ExprLang
