import ExprLang.Proofs.Number.Bits
import ExprLang.Proofs.Number.Nearest
import ExprLang.Proofs.Scan.Numerals

/-!
Numbers as constants of a printed program. Behind its sign such a constant is the word for infinity,
or a number of the language that is read as the magnitude it was written for, whether it was written
in full with a zero behind the point or with the fewest digits. So the text of a number that is not
NaN tells the number, down to the sign of zero.
-/
set_option autoImplicit false

namespace ExprLang

open Decimal Binary64

/-! ## A zero behind the point -/

/-- With one zero behind the point an integer is still the same number. -/
theorem Decimal.sameNumber_ofLexeme_pointZero {d : Decimal} (h : 0 ≤ d.exponent) :
    IsNumber (d.positional ++ ".0".toList) ∧
      SameNumber (ofLexeme (d.positional ++ ".0".toList)) d := by
  obtain ⟨significand, k | k⟩ := d
  · have hzero : Digits ['0'] := ⟨List.cons_ne_nil _ _, by simp [Char.isDigit]⟩
    have hwritten : positional ⟨significand, Int.ofNat k⟩ ++ ".0".toList =
        Nat.toDigits 10 (significand * 10 ^ k) ++ '.' :: ['0'] := rfl
    rw [hwritten]
    refine ⟨.inr ⟨_, _, digits_toDigits _, hzero, rfl⟩, ?_⟩
    have hvalue : Nat.ofDigitChars 10 (Nat.toDigits 10 (significand * 10 ^ k) ++ ['0']) 0 =
        significand * 10 ^ k * 10 := by
      rw [Nat.ofDigitChars_append, Nat.ofDigitChars_ten_toDigits]
      simp [Nat.ofDigitChars_cons, Nat.mul_comm]
    have hexponent : -((['0'] : List Char).length : Int) = Int.negSucc 0 := rfl
    rw [ofLexeme_point (digits_toDigits _) hzero, hvalue, hexponent, SameNumber, ratio_ofNat,
      ratio_negSucc, Nat.mul_one, Nat.zero_add, Nat.pow_one]
  · exact absurd h (by simp)

/-! ## The characters of a magnitude -/

namespace Number

variable {x y : Float} {digits : List Char} {bits other : Nat}

/-- The characters stand for the magnitude: they are a number that is read as it, or the word for
infinity. -/
def StandsFor (digits : List Char) (bits : Nat) : Prop :=
  IsNumber digits ∧ nearest (ofLexeme digits) = bits ∨ digits = "inf".toList ∧ bits = infinity

theorem standsFor_positional_shortest (h : bits ≤ infinity) :
    StandsFor (shortest bits).positional bits := by
  refine .inl ⟨isNumber_positional _, ?_⟩
  rw [nearest_congr (sameNumber_ofLexeme_positional _), nearest_shortest h]

theorem standsFor_pointZero (h : bits ≤ infinity) (hwhole : 0 ≤ (exact bits).trimmed.exponent) :
    StandsFor ((exact bits).trimmed.positional ++ ".0".toList) bits := by
  obtain ⟨hnumber, hsame⟩ := sameNumber_ofLexeme_pointZero hwhole
  refine .inl ⟨hnumber, ?_⟩
  rw [nearest_congr (hsame.trans (sameNumber_trimmed _)), nearest_exact h]

theorem not_isNumber_inf : ¬ IsNumber "inf".toList := by
  intro h
  rcases h.mem_cases 'i' (by decide) with hdigit | hpoint
  · exact absurd hdigit (by decide)
  · exact absurd hpoint (by decide)

/-- The same characters stand for one magnitude only. -/
theorem StandsFor.unique (h : StandsFor digits bits) (h' : StandsFor digits other) :
    bits = other := by
  rcases h with ⟨hnumber, rfl⟩ | ⟨rfl, rfl⟩
  · rcases h' with ⟨-, hsame⟩ | ⟨rfl, -⟩
    · exact hsame
    · exact absurd hnumber not_isNumber_inf
  · rcases h' with ⟨hnumber, -⟩ | ⟨-, hsame⟩
    · exact absurd hnumber not_isNumber_inf
    · exact hsame.symm

theorem StandsFor.mem_cases (h : StandsFor digits bits) :
    ∀ c ∈ digits, c.isDigit = true ∨ c ∈ ['.', 'i', 'n', 'f'] := by
  intro c hc
  rcases h with ⟨hnumber, -⟩ | ⟨rfl, -⟩
  · rcases hnumber.mem_cases c hc with hdigit | rfl
    · exact .inl hdigit
    · exact .inr (by simp)
  · exact .inr (List.mem_cons_of_mem _ hc)

theorem StandsFor.minus_notMem (h : StandsFor digits bits) : '-' ∉ digits := by
  intro hmem
  rcases h.mem_cases '-' hmem with hdigit | hletter
  · exact absurd hdigit (by decide)
  · exact absurd hletter (by decide)

/-! ## The text of a constant -/

/-- The text of a constant that is not NaN is its sign and characters that stand for its magnitude. -/
theorem constant_eq (h : x.isNaN = false) : ∃ digits, StandsFor digits (magnitude x) ∧
    (constant x).toList = if isNegative x then '-' :: digits else digits := by
  have hle : magnitude x ≤ infinity :=
    Nat.not_lt.mp fun hlt => by rw [isNaN_iff.mpr hlt] at h; cases h
  rw [constant, signed, if_neg (Nat.not_lt.mpr hle), String.toList_ofList]
  refine ⟨_, ?_, rfl⟩
  split
  · rename_i hinfinite
    exact .inr ⟨rfl, hinfinite⟩
  · dsimp only
    split
    · rename_i hwhole
      exact standsFor_pointZero hle hwhole
    · exact standsFor_positional_shortest hle

/-- Constants that are not NaN and have the same text are the same. -/
theorem constant_injective (hx : x.isNaN = false) (hy : y.isNaN = false)
    (h : constant x = constant y) : x = y := by
  obtain ⟨digits, hdigits, htext⟩ := constant_eq hx
  obtain ⟨digits', hdigits', htext'⟩ := constant_eq hy
  rw [h, htext'] at htext
  -- No magnitude begins with a minus sign, so the sign can be told from the first character.
  cases hsign : isNegative x <;> cases hsign' : isNegative y <;>
    simp only [hsign, hsign', if_true, Bool.false_eq_true, if_false] at htext
  · exact eq_of_magnitude (hsign.trans hsign'.symm) (hdigits.unique (htext ▸ hdigits'))
  · exact absurd (htext ▸ List.mem_cons_self) hdigits.minus_notMem
  · exact absurd (htext ▸ List.mem_cons_self) hdigits'.minus_notMem
  · rw [List.cons.injEq] at htext
    exact eq_of_magnitude (hsign.trans hsign'.symm) (hdigits.unique (htext.2 ▸ hdigits'))

theorem mem_constant (h : x.isNaN = false) :
    ∀ c ∈ (constant x).toList, c.isDigit = true ∨ c ∈ ['-', '.', 'i', 'n', 'f'] := by
  obtain ⟨digits, hdigits, htext⟩ := constant_eq h
  have hbehind : ∀ c ∈ digits, c.isDigit = true ∨ c ∈ ['-', '.', 'i', 'n', 'f'] :=
    fun c hc => (hdigits.mem_cases c hc).imp_right (List.mem_cons_of_mem _)
  rw [htext]
  split
  · rintro c (_ | ⟨_, hc⟩)
    · exact .inr List.mem_cons_self
    · exact hbehind c hc
  · exact hbehind

theorem constant_ne_empty (h : x.isNaN = false) : (constant x).toList ≠ [] := by
  obtain ⟨digits, hdigits, htext⟩ := constant_eq h
  have hne : digits ≠ [] := by
    rcases hdigits with ⟨hnumber, -⟩ | ⟨rfl, -⟩
    · obtain ⟨first, tail, rfl, -⟩ := hnumber.exists_cons
      exact List.cons_ne_nil _ _
    · exact List.cons_ne_nil _ _
  rw [htext]
  split
  · exact List.cons_ne_nil _ _
  · exact hne

end Number

end ExprLang
