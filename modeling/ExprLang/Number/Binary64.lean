import ExprLang.Number.Decimal

/-!
Doubles as numbers. The bits of a finite double without its sign, read as a natural number, count
the doubles below it, so a magnitude is handled here by that count: `decode` gives the multiple of
the smallest positive double that a count stands for, and `nearest` finds the count whose double is
closest to a decimal, a tie going to the even one and anything too large to infinity.
-/
set_option autoImplicit false

namespace ExprLang.Binary64

/-- The sign bit, above the 63 bits of the magnitude. -/
def signBit : Nat := 0x8000000000000000

/-- The number of magnitudes with one exponent: a significand has 52 bits behind its first one. -/
def binade : Nat := 0x10000000000000

/-- The magnitude of infinity; the finite magnitudes lie below it and NaN above. -/
def infinity : Nat := 0x7ff * binade

/-- The bits of a double without its sign. -/
def magnitude (x : Float) : Nat :=
  x.toBits.toNat % signBit

/-- The sign bit is set. -/
def isNegative (x : Float) : Bool :=
  signBit ≤ x.toBits.toNat

/-- The double of a magnitude, with a plus sign. -/
def ofMagnitude (bits : Nat) : Float :=
  Float.ofBits bits.toUInt64

/-- A finite magnitude is `m * 2 ^ k` smallest positive doubles, each of them `2 ^ -1074`, where
`(m, k)` is the answer. -/
def decode (bits : Nat) : Nat × Nat :=
  let k := bits / binade - 1
  (bits - k * binade, k)

/-- The exact decimal of a finite magnitude. -/
def exact (bits : Nat) : Decimal :=
  let (m, k) := decode bits
  if 1074 ≤ k then ⟨m <<< (k - 1074), 0⟩ else ⟨m * Nat.pow 5 (1074 - k), (k : Int) - 1074⟩

/-- The quotient rounded to the nearest natural number, a tie going to the even one. -/
def roundDiv (n d : Nat) : Nat :=
  let quotient := n / d
  let twice := 2 * (n % d)
  if twice < d then quotient
  else if d < twice then quotient + 1
  else quotient + quotient % 2

/-- The magnitude nearest to a decimal. Above `2 ^ 53` smallest doubles the significand keeps 53
bits, so the number is divided by the power of two that leaves as many. -/
def nearest (d : Decimal) : Nat :=
  let (num, den) := d.ratio
  let scaled := num <<< 1074
  let k := (scaled / den).log2 - 52
  min (k * binade + roundDiv scaled (den <<< k)) infinity

/-- The double nearest to a decimal. -/
def ofDecimal (d : Decimal) : Float :=
  ofMagnitude (nearest d)

end ExprLang.Binary64
