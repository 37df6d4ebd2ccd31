import ExprLang.Number.Binary64

/-!
The fewest digits that read back. A double is written with as many digits as are needed to tell it
from its neighbours and no more; among the decimals of that length that read back the one nearest to
the double is taken, and of two at the same distance the greater. The search goes over the grids of
decimals from the coarsest to the finest. On each grid only the two points around the double can be
the answer, and the finest grid holds the double itself, so the search does not come back empty.
-/
set_option autoImplicit false

namespace ExprLang.Binary64

/-- The better of the two points around a magnitude on the grid that leaves out the last `cut`
digits of its exact decimal, among those that read back. -/
def onGrid? (bits : Nat) (cut : Nat) : Option Decimal :=
  let whole := exact bits
  let unit := Nat.pow 10 cut
  let below : Decimal := ⟨whole.significand / unit, whole.exponent + cut⟩
  let above : Decimal := ⟨whole.significand / unit + 1, whole.exponent + cut⟩
  let belowReads := nearest below = bits
  let aboveReads := nearest above = bits
  let belowCloser := 2 * (whole.significand % unit) < unit
  if belowReads ∧ (belowCloser ∨ ¬ aboveReads) then some below
  else if aboveReads then some above
  else none

/-- The decimal with the fewest digits that reads back as this magnitude. -/
def shortest (bits : Nat) : Decimal :=
  let whole := exact bits
  let length := (Nat.toDigits 10 whole.significand).length
  (((List.range length).reverse.findSome? (onGrid? bits)).getD whole).trimmed

end ExprLang.Binary64
