import ExprLang.Number.Decimal
import ExprLang.Proofs.Scan.Literals
import Mathlib.Algebra.Order.Ring.Nat
import Mathlib.Tactic.Ring

/-!
Decimals as numbers. One number has many decimals, since zeros at the end of a significand can be
moved into the exponent; two decimals are the same number if their fractions are equal. Taking the
zeros away keeps the number, and so does writing it around a point and reading the lexeme again: what
is written is always a number of the language.
-/
set_option autoImplicit false

namespace ExprLang.Decimal

/-- The two decimals are the same number. -/
def SameNumber (d d' : Decimal) : Prop := d.ratio.1 * d'.ratio.2 = d'.ratio.1 * d.ratio.2

variable {d d' e : Decimal} {whole fraction : List Char}

/-! ## Fractions -/

theorem ratio_ofNat (significand k : Nat) :
    ratio ⟨significand, Int.ofNat k⟩ = (significand * 10 ^ k, 1) := rfl

theorem ratio_negSucc (significand k : Nat) :
    ratio ⟨significand, Int.negSucc k⟩ = (significand, 10 ^ (k + 1)) := rfl

theorem ratio_pos (d : Decimal) : 0 < d.ratio.2 := by
  obtain ⟨significand, k | k⟩ := d
  · exact Nat.one_pos
  · exact Nat.pow_pos (by decide)

namespace SameNumber

theorem refl (d : Decimal) : SameNumber d d := rfl

theorem trans (h : SameNumber d d') (h' : SameNumber d' e) : SameNumber d e := by
  unfold SameNumber at *
  refine Nat.eq_of_mul_eq_mul_right d'.ratio_pos ?_
  calc d.ratio.1 * e.ratio.2 * d'.ratio.2
      = d.ratio.1 * d'.ratio.2 * e.ratio.2 := Nat.mul_right_comm _ _ _
    _ = d'.ratio.1 * e.ratio.2 * d.ratio.2 := by rw [h, Nat.mul_right_comm]
    _ = e.ratio.1 * d.ratio.2 * d'.ratio.2 := by rw [h', Nat.mul_right_comm]

end SameNumber

/-! ## Zeros at the end -/

theorem sameNumber_zero (exponent : Int) : SameNumber ⟨0, 0⟩ ⟨0, exponent⟩ := by
  obtain k | k := exponent <;> simp [SameNumber, ratio]

/-- A zero at the end of the significand goes into the exponent. -/
theorem sameNumber_div_ten {significand : Nat} (h : significand % 10 = 0) (exponent : Int) :
    SameNumber ⟨significand / 10, exponent + 1⟩ ⟨significand, exponent⟩ := by
  obtain ⟨tenth, rfl⟩ := Nat.dvd_of_mod_eq_zero h
  rw [Nat.mul_div_cancel_left tenth (by decide)]
  match exponent with
  | .ofNat k =>
    have hnext : (Int.ofNat k + 1 : Int) = Int.ofNat (k + 1) := rfl
    rw [hnext, SameNumber, ratio_ofNat, ratio_ofNat]
    ring
  | .negSucc 0 =>
    have hnext : (Int.negSucc 0 + 1 : Int) = Int.ofNat 0 := rfl
    rw [hnext, SameNumber, ratio_ofNat, ratio_negSucc]
    ring
  | .negSucc (k + 1) =>
    have hnext : (Int.negSucc (k + 1) + 1 : Int) = Int.negSucc k := rfl
    rw [hnext, SameNumber, ratio_negSucc, ratio_negSucc]
    ring

theorem sameNumber_trimmed (d : Decimal) : SameNumber d.trimmed d := by
  induction d using trimmed.induct with
  | case1 d hzero =>
    obtain ⟨_, exponent⟩ := d
    obtain rfl : _ = 0 := hzero
    rw [trimmed, if_pos rfl]
    exact sameNumber_zero exponent
  | case2 d hzero hten ih =>
    rw [trimmed, if_neg hzero, if_pos hten]
    exact ih.trans (sameNumber_div_ten hten d.exponent)
  | case3 d hzero hten =>
    rw [trimmed, if_neg hzero, if_neg hten]
    exact .refl d

/-! ## Digits -/

theorem digits_toDigits (n : Nat) : Digits (Nat.toDigits 10 n) :=
  ⟨Nat.toDigits_ne_nil, fun _ => Nat.isDigit_of_mem_toDigits (by decide) (by decide)⟩

theorem digits_padded (width n : Nat) : Digits (padded width n) := by
  refine ⟨List.append_ne_nil_of_right_ne_nil _ Nat.toDigits_ne_nil, fun c hc => ?_⟩
  rcases List.mem_append.mp hc with hzero | hdigit
  · rw [List.eq_of_mem_replicate hzero]
    rfl
  · exact (digits_toDigits n).2 c hdigit

theorem length_padded {width n : Nat} (h : n < 10 ^ (width + 1)) :
    (padded (width + 1) n).length = width + 1 := by
  have hdigits := (Nat.length_toDigits_le_iff (by decide) (Nat.succ_pos width)).mpr h
  rw [padded, List.length_append, List.length_replicate]
  omega

theorem ofDigitChars_padded (width n init : Nat) :
    Nat.ofDigitChars 10 (padded width n) init = init * 10 ^ (padded width n).length + n := by
  rw [Nat.ofDigitChars_eq_ofDigitChars_zero, padded, Nat.ofDigitChars_append,
    Nat.ofDigitChars_replicate_zero, Nat.mul_zero, Nat.ofDigitChars_ten_toDigits, Nat.mul_comm]

/-! ## Reading what is written -/

theorem filter_digits (h : Digits whole) : whole.filter Char.isDigit = whole :=
  List.filter_eq_self.mpr h.2

theorem dropWhile_digits (h : Digits whole) (rest : List Char) :
    (whole ++ rest).dropWhile (· ≠ '.') = rest.dropWhile (· ≠ '.') := by
  refine List.dropWhile_append_of_pos fun c hc => ?_
  rw [decide_eq_true_iff]
  rintro rfl
  exact absurd (h.2 '.' hc) (by decide)

theorem ofLexeme_digits (h : Digits whole) :
    ofLexeme whole = ⟨Nat.ofDigitChars 10 whole 0, Int.ofNat 0⟩ := by
  have hdrop := dropWhile_digits h []
  rw [List.append_nil, List.dropWhile_nil] at hdrop
  rw [ofLexeme, filter_digits h, hdrop]
  rfl

theorem ofLexeme_point (hwhole : Digits whole) (hfraction : Digits fraction) :
    ofLexeme (whole ++ '.' :: fraction) =
      ⟨Nat.ofDigitChars 10 (whole ++ fraction) 0, -(fraction.length : Int)⟩ := by
  have hfilter : (whole ++ '.' :: fraction).filter Char.isDigit = whole ++ fraction := by
    rw [List.filter_append, List.filter_cons_of_neg (by decide), filter_digits hwhole,
      filter_digits hfraction]
  rw [ofLexeme, hfilter, dropWhile_digits hwhole, List.dropWhile_cons_of_neg (by decide)]
  rfl

theorem isNumber_positional (d : Decimal) : IsNumber d.positional := by
  obtain ⟨significand, k | k⟩ := d
  · exact .inl (digits_toDigits _)
  · exact .inr ⟨_, _, digits_toDigits _, digits_padded _ _, rfl⟩

/-- What is written around a point is read as the same number. -/
theorem sameNumber_ofLexeme_positional (d : Decimal) : SameNumber (ofLexeme d.positional) d := by
  obtain ⟨significand, k | k⟩ := d
  · have hwritten : positional ⟨significand, Int.ofNat k⟩ =
        Nat.toDigits 10 (significand * 10 ^ k) := rfl
    rw [hwritten, ofLexeme_digits (digits_toDigits _), Nat.ofDigitChars_ten_toDigits, SameNumber,
      ratio_ofNat, ratio_ofNat, Nat.pow_zero, Nat.mul_one]
  · have hwritten : positional ⟨significand, Int.negSucc k⟩ =
        Nat.toDigits 10 (significand / 10 ^ (k + 1)) ++
          '.' :: padded (k + 1) (significand % 10 ^ (k + 1)) := rfl
    have hlength : (padded (k + 1) (significand % 10 ^ (k + 1))).length = k + 1 :=
      length_padded (Nat.mod_lt _ (Nat.pow_pos (by decide)))
    rw [hwritten, ofLexeme_point (digits_toDigits _) (digits_padded _ _), Nat.ofDigitChars_append,
      Nat.ofDigitChars_ten_toDigits, ofDigitChars_padded, hlength, Nat.div_add_mod']
    exact .refl _

example : positional ⟨25, -3⟩ = "0.025".toList ∧ ofLexeme "0.025".toList = ⟨25, -3⟩ := by
  decide +kernel

end ExprLang.Decimal
