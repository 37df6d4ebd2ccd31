import ExprLang.Parser.Level
import ExprLang.Proofs.Evaluation.StackMachine

/-!
Supported operators. The grammar knows some operators in front of an operand and some between two
operands, and the evaluation knows the same ones in the same places. So an expression in which every
operator stands where the grammar knows it can only fail because of the types of its operands, and it
does so at one of its operators.
-/
set_option autoImplicit false

namespace ExprLang

/-- Tokens of this kind stand in front of an operand or between two. -/
def Kind.IsOperator (kind : Kind) : Prop := kind.isUnary = true ∨ kind.binaryLevel? ≠ none

instance (kind : Kind) : Decidable kind.IsOperator :=
  inferInstanceAs (Decidable (_ ∨ _))

/-- Every operator stands where the grammar knows it. -/
def Expr.Supported : Expr → Prop
  | .constant _ => True
  | .grouping inner => inner.Supported
  | .unary operator operand => operator.kind.isUnary = true ∧ operand.Supported
  | .binary left operator right =>
    operator.kind.binaryLevel? ≠ none ∧ left.Supported ∧ right.Supported

/-- The operators of an expression in the order in which they are applied. -/
def Expr.operators : Expr → List Token
  | .constant _ => []
  | .grouping inner => inner.operators
  | .unary operator operand => operand.operators ++ [operator]
  | .binary left operator right => left.operators ++ (right.operators ++ [operator])

/-! ## One operator -/

namespace Token

variable {operator : Token} {error : RuntimeError}

theorem fault_of_applyUnary {operand : Value} (hkind : operator.kind.isUnary = true)
    (h : operator.applyUnary operand = .error error) : error.fault ≠ .unsupported := by
  unfold applyUnary at h
  split at h
  · split at h <;> cases h
    exact Fault.noConfusion
  · cases h
  · rename_i hminus hbang
    rw [Kind.isUnary, Bool.or_eq_true, beq_iff_eq, beq_iff_eq] at hkind
    rcases hkind with hkind | hkind
    · exact absurd hkind hbang
    · exact absurd hkind hminus

theorem fault_of_onNumbers {left right : Value} {result : Float → Float → Value}
    (h : operator.onNumbers left right result = .error error) :
    error.fault = .operandsNotNumbers := by
  unfold onNumbers at h
  split at h <;> cases h
  rfl

theorem fault_of_sum {left right : Value} (h : operator.sum left right = .error error) :
    error.fault = .operandsNotAddable := by
  unfold sum at h
  split at h <;> cases h
  rfl

theorem fault_of_applyBinary {left right : Value} (hkind : operator.kind.binaryLevel? ≠ none)
    (h : operator.applyBinary left right = .error error) : error.fault ≠ .unsupported := by
  unfold applyBinary at h
  cases hoperator : operator.kind
  case plus =>
    simp only [hoperator] at h
    rw [fault_of_sum h]
    exact Fault.noConfusion
  case minus | star | slash | greater | greaterEqual | less | lessEqual =>
    simp only [hoperator] at h
    rw [fault_of_onNumbers h]
    exact Fault.noConfusion
  case equalEqual | bangEqual =>
    simp only [hoperator] at h
    cases h
  all_goals
    rw [hoperator] at hkind
    exact absurd rfl hkind

end Token

theorem RuntimeError.message_of_fault {error : RuntimeError} (h : error.fault ≠ .unsupported) :
    error.message ∈ ["Operand must be a number.", "Operands must be numbers.",
      "Operands must be two numbers or two strings."] := by
  unfold message
  cases hfault : error.fault with
  | operandNotNumber => simp
  | operandsNotNumbers => simp
  | operandsNotAddable => simp
  | unsupported => exact absurd hfault h

/-! ## Expressions and statements -/

namespace Expr

theorem Supported.isOperator {e : Expr} (h : e.Supported) :
    ∀ operator ∈ e.operators, operator.kind.IsOperator := by
  induction e with
  | constant value => simp [operators]
  | grouping inner ih => exact ih h
  | unary operator operand ih =>
    intro other hother
    rcases List.mem_append.mp hother with hin | hlast
    · exact ih h.2 other hin
    · rw [List.mem_singleton.mp hlast]
      exact Or.inl h.1
  | binary left operator right ihLeft ihRight =>
    intro other hother
    rcases List.mem_append.mp hother with hin | hlater
    · exact ihLeft h.2.1 other hin
    rcases List.mem_append.mp hlater with hin | hlast
    · exact ihRight h.2.2 other hin
    · rw [List.mem_singleton.mp hlast]
      exact Or.inr h.1

/-- A supported expression fails at one of its operators, for the types of the operands. -/
theorem Supported.failure {e : Expr} (h : e.Supported) {error : RuntimeError}
    (herror : e.evaluate = .error error) :
    error.operator ∈ e.operators ∧ error.fault ≠ .unsupported := by
  induction e with
  | constant value => cases herror
  | grouping inner ih => exact ih h herror
  | unary operator operand ih =>
    rw [evaluate] at herror
    cases hvalue : operand.evaluate with
    | error inner =>
      rw [hvalue] at herror
      cases herror
      obtain ⟨hin, hfault⟩ := ih h.2 hvalue
      exact ⟨List.mem_append_left _ hin, hfault⟩
    | ok value =>
      rw [hvalue] at herror
      refine ⟨?_, Token.fault_of_applyUnary h.1 herror⟩
      rw [Token.operator_of_applyUnary herror, operators]
      simp
  | binary left operator right ihLeft ihRight =>
    rw [evaluate] at herror
    cases hleft : left.evaluate with
    | error inner =>
      rw [hleft] at herror
      cases herror
      obtain ⟨hin, hfault⟩ := ihLeft h.2.1 hleft
      exact ⟨List.mem_append_left _ hin, hfault⟩
    | ok a =>
      rw [hleft] at herror
      cases hright : right.evaluate with
      | error inner =>
        rw [hright] at herror
        cases herror
        obtain ⟨hin, hfault⟩ := ihRight h.2.2 hright
        exact ⟨List.mem_append_right _ (List.mem_append_left _ hin), hfault⟩
      | ok b =>
        rw [hright] at herror
        refine ⟨?_, Token.fault_of_applyBinary h.1 herror⟩
        rw [Token.operator_of_applyBinary herror, operators]
        simp

end Expr

/-- Statements fail as one of their expressions does. -/
theorem Statement.exists_of_executeAll {statements : List Statement} {error : RuntimeError}
    (h : (executeAll statements).2 = some error) :
    ∃ statement ∈ statements, statement.expression.evaluate = .error error := by
  induction statements with
  | nil => cases h
  | cons statement rest ih =>
    rw [executeAll] at h
    cases hvalue : statement.expression.evaluate with
    | error failure =>
      rw [hvalue] at h
      cases h
      exact ⟨statement, List.mem_cons_self, hvalue⟩
    | ok value =>
      rw [hvalue] at h
      obtain ⟨other, hother, hfails⟩ := ih h
      exact ⟨other, List.mem_cons_of_mem _ hother, hfails⟩

end ExprLang
