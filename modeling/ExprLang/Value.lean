import ExprLang.Token.Basic

/-!
The values of the language, which are also the constants of its programs: numbers, strings, the two
truth values and nil. A value is written in two ways. As a constant it looks as it does in a printed
program, where a number keeps its point; as a result a number has no point if it needs none.
-/
set_option autoImplicit false

namespace ExprLang

/-- A value. -/
inductive Value
  | number (value : Float)
  | string (text : String)
  | boolean (value : Bool)
  | nil
deriving DecidableEq, Repr

/-- The value that a literal spells. -/
def Literal.toValue : Literal → Value
  | .number value => .number value
  | .string text => .string text

namespace Value

/-- Everything counts as true but the truth value false and nil. -/
def isTruthy : Value → Bool
  | .boolean value => value
  | .nil => false
  | .number _ => true
  | .string _ => true

/-- The number that a value is, if it is one. -/
def number? : Value → Option Float
  | .number value => some value
  | _ => none

theorem number?_eq_some_iff {value : Value} {a : Float} :
    value.number? = some a ↔ value = .number a := by
  cases value <;> simp [number?]

/-- The name of the type of a value. -/
def typeName : Value → String
  | .number _ => "number"
  | .string _ => "string"
  | .boolean _ => "boolean"
  | .nil => "nil"

/-- Equality in the language: values of different types differ, and numbers are compared as numbers,
so that NaN differs from itself and the two zeros are equal. -/
def equals : Value → Value → Bool
  | .number a, .number b => a == b
  | .string a, .string b => a == b
  | .boolean a, .boolean b => a == b
  | .nil, .nil => true
  | _, _ => false

/-- The text of a value, given how its number is written. -/
def written (number : Float → String) : Value → String
  | .number value => number value
  | .string text => text
  | .boolean value => if value then "true" else "false"
  | .nil => "nil"

/-- The text of a constant of a program. -/
def constantText : Value → String := written Number.constant

/-- The text of a result. -/
def resultText : Value → String := written Number.result

end Value

end ExprLang
