import ExprLang.Evaluation

/-!
Types. Whether an operator accepts its operands depends on their types alone, and so does the type
of what it gives. So a type can be computed for an expression from the types of its constants, from
the leaves up, in the same order as its value; there is one exactly if there is a value, it is the
type of that value, and otherwise the failure is the same. Two expressions that differ in the values
of their constants only succeed with values of one type or fail alike, whatever is divided by zero.
-/
set_option autoImplicit false

namespace ExprLang

/-- The types of values. -/
inductive ValueType
  | number | string | boolean | nil
deriving DecidableEq, Repr

def ValueType.name : ValueType → String
  | .number => "number"
  | .string => "string"
  | .boolean => "boolean"
  | .nil => "nil"

def Value.type : Value → ValueType
  | .number _ => .number
  | .string _ => .string
  | .boolean _ => .boolean
  | .nil => .nil

theorem Value.typeName_eq (value : Value) : value.typeName = value.type.name := by
  cases value <;> rfl

/-- What is left of an expression without the values of its constants. -/
inductive Sketch
  | constant (type : ValueType)
  | grouping (inner : Sketch)
  | unary (operator : Token) (operand : Sketch)
  | binary (left : Sketch) (operator : Token) (right : Sketch)
deriving DecidableEq, Repr

def Expr.sketch : Expr → Sketch
  | .constant value => .constant value.type
  | .grouping inner => .grouping inner.sketch
  | .unary operator operand => .unary operator operand.sketch
  | .binary left operator right => .binary left.sketch operator right.sketch

/-- Two expressions of one shape, with the same operators and with constants of the same types. -/
inductive Expr.Alike : Expr → Expr → Prop
  | constant {value value' : Value} (htype : value.type = value'.type) :
      Alike (.constant value) (.constant value')
  | grouping {inner inner' : Expr} (hinner : Alike inner inner') :
      Alike (.grouping inner) (.grouping inner')
  | unary (operator : Token) {operand operand' : Expr} (hoperand : Alike operand operand') :
      Alike (.unary operator operand) (.unary operator operand')
  | binary (operator : Token) {left right left' right' : Expr} (hleft : Alike left left')
      (hright : Alike right right') : Alike (.binary left operator right) (.binary left' operator right')

/-! ## Types of operators -/

namespace Token

/-- The type that an operator gives in front of an operand of some type. -/
def unaryType (operator : Token) (operand : ValueType) : Except RuntimeError ValueType :=
  match operator.kind, operand with
  | .minus, .number => .ok .number
  | .minus, _ => .error ⟨operator, .operandNotNumber⟩
  | .bang, _ => .ok .boolean
  | _, _ => .error ⟨operator, .unsupported⟩

/-- Operators that take two numbers. -/
def numericType (operator : Token) (left right result : ValueType) :
    Except RuntimeError ValueType :=
  match left, right with
  | .number, .number => .ok result
  | _, _ => .error ⟨operator, .operandsNotNumbers⟩

/-- The sum takes two numbers or two strings. -/
def sumType (operator : Token) (left right : ValueType) : Except RuntimeError ValueType :=
  match left, right with
  | .number, .number => .ok .number
  | .string, .string => .ok .string
  | _, _ => .error ⟨operator, .operandsNotAddable⟩

/-- The type that an operator gives between operands of some types. -/
def binaryType (operator : Token) (left right : ValueType) : Except RuntimeError ValueType :=
  match operator.kind with
  | .plus => operator.sumType left right
  | .minus | .star | .slash => operator.numericType left right .number
  | .greater | .greaterEqual | .less | .lessEqual => operator.numericType left right .boolean
  | .equalEqual | .bangEqual => .ok .boolean
  | _ => .error ⟨operator, .unsupported⟩

variable (operator : Token)

theorem type_applyUnary (operand : Value) :
    (operator.applyUnary operand).map Value.type = operator.unaryType operand.type := by
  unfold applyUnary unaryType
  cases operator.kind <;> cases operand <;> rfl

theorem type_sum (left right : Value) :
    (operator.sum left right).map Value.type = operator.sumType left.type right.type := by
  cases left <;> cases right <;> rfl

theorem type_onNumbers {result : Float → Float → Value} {type : ValueType}
    (hresult : ∀ a b, (result a b).type = type) (left right : Value) :
    (operator.onNumbers left right result).map Value.type =
      operator.numericType left.type right.type type := by
  cases left <;> cases right
  case number.number a b => exact congrArg Except.ok (hresult a b)
  all_goals rfl

theorem type_applyBinary (left right : Value) :
    (operator.applyBinary left right).map Value.type =
      operator.binaryType left.type right.type := by
  unfold applyBinary binaryType
  cases operator.kind
  case plus => exact operator.type_sum left right
  case minus | star | slash =>
    apply type_onNumbers
    exact fun _ _ => rfl
  case greater | greaterEqual | less | lessEqual =>
    apply type_onNumbers
    exact fun _ _ => rfl
  all_goals rfl

end Token

/-! ## Types of expressions -/

/-- The type of an expression, or why it has none. -/
def Sketch.type : Sketch → Except RuntimeError ValueType
  | .constant type => .ok type
  | .grouping inner => inner.type
  | .unary operator operand => operand.type.bind operator.unaryType
  | .binary left operator right =>
    left.type.bind fun a => right.type.bind fun b => operator.binaryType a b

namespace Expr

theorem type_evaluate (e : Expr) : e.evaluate.map Value.type = e.sketch.type := by
  induction e with
  | constant value => rfl
  | grouping inner ih => exact ih
  | unary operator operand ih =>
    rw [evaluate, sketch, Sketch.type, ← ih]
    cases operand.evaluate with
    | error error => rfl
    | ok value => exact operator.type_applyUnary value
  | binary left operator right ihLeft ihRight =>
    rw [evaluate, sketch, Sketch.type, ← ihLeft, ← ihRight]
    cases left.evaluate with
    | error error => rfl
    | ok a =>
      cases right.evaluate with
      | error error => rfl
      | ok b => exact operator.type_applyBinary a b

theorem alike_iff {e e' : Expr} : e.Alike e' ↔ e.sketch = e'.sketch := by
  constructor
  · intro h
    induction h with
    | constant htype => exact congrArg Sketch.constant htype
    | grouping _ ih => exact congrArg Sketch.grouping ih
    | unary operator _ ih => exact congrArg (Sketch.unary operator) ih
    | binary operator _ _ ihLeft ihRight => rw [sketch, sketch, ihLeft, ihRight]
  · intro h
    induction e generalizing e' with
    | constant value =>
      cases e' <;> simp [sketch] at h
      exact .constant h
    | grouping inner ih =>
      cases e' <;> simp [sketch] at h
      exact .grouping (ih h)
    | unary operator operand ih =>
      cases e' <;> simp [sketch] at h
      obtain ⟨rfl, hoperand⟩ := h
      exact .unary operator (ih hoperand)
    | binary left operator right ihLeft ihRight =>
      cases e' <;> simp [sketch] at h
      obtain ⟨hleft, rfl, hright⟩ := h
      exact .binary operator (ihLeft hleft) (ihRight hright)

/-- The types of the constants decide whether an expression has a value, of which type it is, and
how it fails; so expressions that differ in the values of their constants only have values of types
of the same name, or fail with the same error. -/
theorem evaluate_decided_by_types :
    (∀ e : Expr, e.evaluate.map Value.type = e.sketch.type) ∧
    ∀ e e' : Expr, e.Alike e' →
      (∃ value value', e.evaluate = .ok value ∧ e'.evaluate = .ok value' ∧
        value.typeName = value'.typeName) ∨
      ∃ error, e.evaluate = .error error ∧ e'.evaluate = .error error := by
  refine ⟨type_evaluate, fun e e' halike => ?_⟩
  have htypes : e.evaluate.map Value.type = e'.evaluate.map Value.type := by
    rw [type_evaluate, type_evaluate, alike_iff.mp halike]
  cases hvalue : e.evaluate with
  | ok value =>
    cases hvalue' : e'.evaluate with
    | ok value' =>
      rw [hvalue, hvalue'] at htypes
      have htype : value.type = value'.type := Except.ok.inj htypes
      exact Or.inl ⟨value, value', rfl, rfl, by rw [Value.typeName_eq, Value.typeName_eq, htype]⟩
    | error error => rw [hvalue, hvalue'] at htypes; cases htypes
  | error error =>
    cases hvalue' : e'.evaluate with
    | ok value' => rw [hvalue, hvalue'] at htypes; cases htypes
    | error error' =>
      rw [hvalue, hvalue'] at htypes
      cases htypes
      exact Or.inr ⟨error, rfl, rfl⟩

/-- The negative of a truth value: whether a quotient of two numbers equals a text. -/
def negatedTruth (a b : Float) (text : String) : Expr :=
  .unary ⟨.minus, "-", none, 1, 1⟩
    (.grouping (.binary (.binary (.constant (.number a)) ⟨.slash, "/", none, 1, 3⟩
      (.constant (.number b))) ⟨.equalEqual, "==", none, 2, 1⟩ (.constant (.string text))))

theorem negatedTruth_fails_alike :
    (negatedTruth 0 0 "x").Alike (negatedTruth 6 2 "") ∧
      ∃ error, (negatedTruth 0 0 "x").evaluate = .error error ∧
        (negatedTruth 6 2 "").evaluate = .error error ∧
        error.message = "Operand must be a number." ∧ error.line = 1 := by
  have halike : (negatedTruth 0 0 "x").Alike (negatedTruth 6 2 "") := alike_iff.mpr rfl
  obtain ⟨htype, hpairs⟩ := evaluate_decided_by_types
  have hfault := htype (negatedTruth 0 0 "x")
  refine ⟨halike, ?_⟩
  rcases hpairs _ _ halike with ⟨value, _, hvalue, _, _⟩ | ⟨error, herror, herror'⟩
  · rw [hvalue] at hfault
    cases hfault
  · rw [herror] at hfault
    cases hfault
    exact ⟨_, herror, herror', rfl, rfl⟩

end Expr

end ExprLang
