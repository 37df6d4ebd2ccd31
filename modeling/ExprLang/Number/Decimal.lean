/-!
Decimal numbers: a natural significand and a power of ten. They stand between the digits of a text
and the doubles of the language: a lexeme is read as the decimal it spells, and a double is written
by choosing a decimal and one of two layouts for it, positional or with an exponent.
-/
set_option autoImplicit false

namespace ExprLang

/-- The number `significand * 10 ^ exponent`. -/
structure Decimal where
  significand : Nat
  exponent : Int
deriving DecidableEq, Repr

namespace Decimal

/-! ## Reading -/

/-- The decimal that a lexeme of digits with at most one point spells: each digit after the point
lowers the exponent by one. -/
def ofLexeme (lexeme : List Char) : Decimal where
  significand := Nat.ofDigitChars 10 (lexeme.filter Char.isDigit) 0
  exponent := -((lexeme.dropWhile (· ≠ '.')).drop 1).length

/-- Numerator and denominator of the number. -/
def ratio (d : Decimal) : Nat × Nat :=
  match d.exponent with
  | .ofNat k => (d.significand * Nat.pow 10 k, 1)
  | .negSucc k => (d.significand, Nat.pow 10 (k + 1))

/-! ## Writing -/

/-- The same number with the zeros at the end of its significand moved into the exponent. -/
def trimmed (d : Decimal) : Decimal :=
  if d.significand = 0 then ⟨0, 0⟩
  else if d.significand % 10 = 0 then trimmed ⟨d.significand / 10, d.exponent + 1⟩
  else d
termination_by d.significand
decreasing_by omega

/-- The digits of `n`, filled up to `width` with zeros in front. -/
def padded (width n : Nat) : List Char :=
  let digits := Nat.toDigits 10 n
  List.replicate (width - digits.length) '0' ++ digits

/-- The digits around the point, without an exponent: `1200`, `0.05`, `3.25`. -/
def positional (d : Decimal) : List Char :=
  match d.exponent with
  | .ofNat k => Nat.toDigits 10 (d.significand * Nat.pow 10 k)
  | .negSucc k =>
    let unit := Nat.pow 10 (k + 1)
    Nat.toDigits 10 (d.significand / unit) ++ '.' :: padded (k + 1) (d.significand % unit)

/-- One digit before the point, the power of ten after the letter `e`: `5e-7`, `1.25e16`. -/
def scientific (d : Decimal) : List Char :=
  match Nat.toDigits 10 d.significand with
  | [] => []
  | first :: fraction =>
    let power := d.exponent + fraction.length
    first :: (if fraction = [] then [] else '.' :: fraction) ++ 'e' :: (toString power).toList

end Decimal

end ExprLang
