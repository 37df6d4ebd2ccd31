import ExprLang.Number.Shortest

/-!
How numbers are written. All three forms agree on the sign, on `inf` and on `NaN`, which has no
sign; they differ in the digits of finite numbers. A result is written with the fewest digits and no
exponent. A constant of a program keeps a point, so that `1` is written `1.0`, and all the digits of
an integer. A listing of tokens keeps a point too, but turns to an exponent for very large and very
small numbers.
-/
set_option autoImplicit false

namespace ExprLang.Number

/-- The text of a double, given the text of its magnitude when that is finite. -/
def signed (finite : Nat → List Char) (x : Float) : String :=
  let bits := Binary64.magnitude x
  if Binary64.infinity < bits then "NaN"
  else
    let digits := if bits = Binary64.infinity then "inf".toList else finite bits
    String.ofList (if Binary64.isNegative x then '-' :: digits else digits)

/-- The fewest digits that read back, without an exponent: `1`, `0.5`, `1000000000000000000000`. -/
def result : Float → String :=
  signed fun bits => (Binary64.shortest bits).positional

/-- An integer in full with one zero after the point, any other number as a result is written. -/
def constant : Float → String :=
  signed fun bits =>
    let whole := (Binary64.exact bits).trimmed
    if 0 ≤ whole.exponent then whole.positional ++ ".0".toList
    else (Binary64.shortest bits).positional

/-- The fewest digits, with a point at least, from 0.0001 up to and without 10 ^ 16; outside these
bounds the fewest digits and an exponent. -/
def listed : Float → String :=
  signed fun bits =>
    let digits := Binary64.shortest bits
    if bits ≠ 0 ∧ (bits < Binary64.nearest ⟨1, -4⟩ ∨ Binary64.nearest ⟨1, 16⟩ ≤ bits) then
      digits.scientific
    else if 0 ≤ digits.exponent then digits.positional ++ ".0".toList
    else digits.positional

end ExprLang.Number
