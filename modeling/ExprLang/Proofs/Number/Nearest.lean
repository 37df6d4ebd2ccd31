import ExprLang.Number.Shortest
import ExprLang.Proofs.Number.Decimal

/-!
Doubles and the decimals that are read as them. Which double is nearest to a decimal depends on the
number alone, not on the decimal that stands for it, and the nearest double of an exact decimal is
the one it was taken from. So every decimal that the search for the fewest digits can give, from a
coarse grid or as the exact decimal itself, is read as the double for which it was searched.
-/
set_option autoImplicit false

namespace ExprLang.Binary64

open Decimal

/-- The magnitude nearest to a fraction of the smallest positive double. -/
def nearestUnits (num den : Nat) : Nat :=
  let k := (num / den).log2 - 52
  min (k * binade + roundDiv num (den <<< k)) infinity

theorem nearest_eq (d : Decimal) : nearest d = nearestUnits (d.ratio.1 * 2 ^ 1074) d.ratio.2 := by
  rw [← Nat.shiftLeft_eq]
  rfl

/-! ## The number alone -/

theorem roundDiv_mul_right (n d : Nat) {c : Nat} (hc : 0 < c) :
    roundDiv (n * c) (d * c) = roundDiv n d := by
  have htwice : 2 * (n % d * c) = 2 * (n % d) * c := (Nat.mul_assoc _ _ _).symm
  simp only [roundDiv, Nat.mul_div_mul_right n d hc, Nat.mul_mod_mul_right, htwice,
    Nat.mul_lt_mul_right hc]

theorem nearestUnits_mul_right (num den : Nat) {c : Nat} (hc : 0 < c) :
    nearestUnits (num * c) (den * c) = nearestUnits num den := by
  simp only [nearestUnits, Nat.mul_div_mul_right num den hc, Nat.shiftLeft_eq,
    Nat.mul_right_comm den c, roundDiv_mul_right _ _ hc]

theorem nearestUnits_congr {num den num' den' : Nat} (hden : 0 < den) (hden' : 0 < den')
    (h : num * den' = num' * den) : nearestUnits num den = nearestUnits num' den' := by
  rw [← nearestUnits_mul_right num den hden', h, Nat.mul_comm den den',
    nearestUnits_mul_right num' den' hden]

/-- Decimals of the same number have the same nearest double. -/
theorem nearest_congr {d d' : Decimal} (h : SameNumber d d') : nearest d = nearest d' := by
  rw [nearest_eq, nearest_eq]
  refine nearestUnits_congr d.ratio_pos d'.ratio_pos ?_
  rw [Nat.mul_right_comm, h, Nat.mul_right_comm]

/-! ## Exact decimals -/

/-- A significand with its exponent, as they belong to a magnitude: a significand that fills its 53
bits, or a smaller one with the least exponent. -/
structure Significand (m k : Nat) : Prop where
  lt : m < 2 * binade
  full : k = 0 ∨ binade ≤ m

theorem decode_spec (bits : Nat) : Significand (decode bits).1 (decode bits).2 ∧
    (decode bits).2 * binade + (decode bits).1 = bits := by
  simp only [decode]
  refine ⟨⟨?_, ?_⟩, ?_⟩ <;> simp only [binade] <;> omega

theorem Significand.log2_eq {m k : Nat} (h : Significand m k) : (m * 2 ^ k).log2 - 52 = k := by
  obtain ⟨hlt, hfull⟩ := h
  have hbinade : binade = 2 ^ 52 := rfl
  by_cases hbinary : binade ≤ m
  · have hlog : (m * 2 ^ k).log2 = 52 + k := by
      have hpow : 0 < 2 ^ k := Nat.two_pow_pos k
      have hpositive : m * 2 ^ k ≠ 0 := by
        refine Nat.mul_ne_zero ?_ hpow.ne'
        simp only [binade] at hbinary
        omega
      rw [Nat.log2_eq_iff hpositive]
      constructor
      · rw [Nat.pow_add, ← hbinade]
        exact Nat.mul_le_mul_right _ hbinary
      · rw [show 52 + k + 1 = 1 + 52 + k by omega, Nat.pow_add, Nat.pow_add, ← hbinade]
        exact (Nat.mul_lt_mul_right hpow).mpr hlt
    rw [hlog, Nat.add_sub_cancel_left]
  · have hzero : k = 0 := hfull.resolve_right hbinary
    rw [hzero, Nat.pow_zero, Nat.mul_one, Nat.sub_eq_zero_iff_le]
    by_cases hm : m = 0
    · rw [hm]
      decide
    · exact Nat.le_of_lt ((Nat.log2_lt hm).mpr (Nat.lt_of_not_le hbinary))

theorem roundDiv_mul_left (m : Nat) {d : Nat} (hd : 0 < d) : roundDiv (m * d) d = m := by
  rw [roundDiv, Nat.mul_div_cancel m hd, Nat.mul_mod_left]
  exact if_pos hd

/-- A whole number of smallest doubles that is a double is its own nearest one. -/
theorem Significand.nearestUnits_eq {m k : Nat} (h : Significand m k) :
    nearestUnits (m * 2 ^ k) 1 = min (k * binade + m) infinity := by
  simp only [nearestUnits, Nat.div_one, h.log2_eq, Nat.one_shiftLeft,
    roundDiv_mul_left m (Nat.two_pow_pos k)]

theorem exact_eq (bits : Nat) : exact bits =
    if 1074 ≤ (decode bits).2 then ⟨(decode bits).1 <<< ((decode bits).2 - 1074), 0⟩
    else ⟨(decode bits).1 * 5 ^ (1074 - (decode bits).2), ((decode bits).2 : Int) - 1074⟩ := rfl

/-- An exact decimal is a whole number of smallest doubles. -/
theorem ratio_exact (bits : Nat) : (exact bits).ratio.1 * 2 ^ 1074 =
    (decode bits).1 * 2 ^ (decode bits).2 * (exact bits).ratio.2 := by
  rw [exact_eq]
  generalize (decode bits).1 = m
  generalize (decode bits).2 = k
  by_cases hk : 1074 ≤ k
  · have hratio : ratio ⟨m <<< (k - 1074), 0⟩ = _ := ratio_ofNat _ 0
    rw [if_pos hk, hratio, Nat.shiftLeft_eq, Nat.pow_zero, Nat.mul_one, Nat.mul_one, Nat.mul_assoc,
      ← Nat.pow_add, Nat.sub_add_cancel hk]
  · obtain ⟨j, hj⟩ : ∃ j, 1074 = k + (j + 1) := ⟨1073 - k, by omega⟩
    have hexponent : (k : Int) - 1074 = Int.negSucc j := by omega
    have hsub : 1074 - k = j + 1 := by omega
    have hten : 10 ^ (j + 1) = 5 ^ (j + 1) * 2 ^ (j + 1) := by rw [← Nat.mul_pow]
    rw [if_neg hk, hexponent, hsub, ratio_negSucc, hten, hj, Nat.pow_add]
    ring

/-- The double nearest to the exact decimal of a double is that double. -/
theorem nearest_exact {bits : Nat} (h : bits ≤ infinity) : nearest (exact bits) = bits := by
  obtain ⟨hsignificand, hbits⟩ := decode_spec bits
  rw [nearest_eq, nearestUnits_congr (exact bits).ratio_pos Nat.one_pos
    ((Nat.mul_one _).trans (ratio_exact bits)), hsignificand.nearestUnits_eq, hbits,
    Nat.min_eq_left h]

/-! ## The fewest digits -/

theorem nearest_of_onGrid? {bits cut : Nat} {d : Decimal} (h : onGrid? bits cut = some d) :
    nearest d = bits := by
  simp only [onGrid?] at h
  split at h
  · rename_i hbelow
    cases h
    exact hbelow.1
  · split at h
    · rename_i habove
      cases h
      exact habove
    · cases h

/-- The decimal with the fewest digits is read as the double for which it was searched. -/
theorem nearest_shortest {bits : Nat} (h : bits ≤ infinity) : nearest (shortest bits) = bits := by
  rw [shortest, nearest_congr (sameNumber_trimmed _)]
  cases hfound : (List.range (Nat.toDigits 10 (exact bits).significand).length).reverse.findSome?
      (onGrid? bits) with
  | none => exact nearest_exact h
  | some d =>
    obtain ⟨cut, -, hcut⟩ := List.exists_of_findSome?_eq_some hfound
    exact nearest_of_onGrid? hcut

/-- A double is written so that the same magnitude is read. -/
theorem ofDecimal_ofLexeme_positional {bits : Nat} (h : bits ≤ infinity) :
    ofDecimal (ofLexeme (shortest bits).positional) = ofMagnitude bits := by
  rw [ofDecimal, nearest_congr (sameNumber_ofLexeme_positional _), nearest_shortest h]

end ExprLang.Binary64
