import ExprLang.Number.Binary64
import Mathlib

/-!
The bits of a double. Taken apart into sign, exponent and significand and put together again, the
bits of a finite double are the same, and the negative of a double has the same bits but for its
sign. So a finite magnitude is the magnitude of its double, and of the negative of that double. A
double is determined by its sign and its magnitude, and it is NaN if this lies above infinity.
-/
set_option autoImplicit false

namespace ExprLang.Binary64

open Float.Model (Format)
open Float.Model.UnpackedFloat

/-- The bits of a double from its three fields. -/
def packed (sign : Sign) (exponent : BitVec 11) (mantissa : BitVec 52) : BitVec 64 :=
  packComponents Format.binary64 sign exponent mantissa

variable {sign : Sign} {exponent : BitVec 11} {mantissa : BitVec 52}

/-! ## Three fields -/

theorem toNat_append {m n : Nat} (high : BitVec m) (low : BitVec n) :
    (high ++ low).toNat = high.toNat * 2 ^ n + low.toNat := by
  rw [BitVec.toNat_append, ← Nat.shiftLeft_add_eq_or_of_lt low.isLt, Nat.shiftLeft_eq]

theorem toNat_packed (sign : Sign) (exponent : BitVec 11) (mantissa : BitVec 52) :
    (packed sign exponent mantissa).toNat =
      sign.toBitVec.toNat * signBit + exponent.toNat * binade + mantissa.toNat := by
  show (sign.toBitVec ++ exponent ++ mantissa).toNat = _
  have hsign : signBit = 2 ^ 11 * 2 ^ 52 := rfl
  have hbinade : binade = 2 ^ 52 := rfl
  rw [toNat_append, toNat_append, hsign, hbinade, Nat.add_mul, Nat.mul_assoc]

/-! ## Taken apart and put together -/

/-- No finite double is a NaN, the one kind of value that has more than one pattern of bits. -/
theorem valid_packed (hfinite : exponent ≠ -1#11) :
    Format.binary64.Valid (packed sign exponent mantissa) :=
  ⟨fun hexponent => absurd (unpackExponent_packComponents.symm.trans hexponent) hfinite⟩

theorem neg_unpack_packed (sign : Sign) (exponent : BitVec 11) (mantissa : BitVec 52) :
    (unpack Format.binary64 (packed sign exponent mantissa)).neg =
      unpack Format.binary64 (packed (-sign) exponent mantissa) := by
  simp only [packed, unpack, unpackExponent_packComponents, unpackMantissa_packComponents,
    unpackSign_packComponents, Sign.ofBitVec_toBitVec]
  split_ifs <;> rfl

theorem pack_neg_unpack_packed (hfinite : exponent ≠ -1#11) :
    pack Format.binary64 (unpack Format.binary64 (packed sign exponent mantissa)).neg =
      packed (-sign) exponent mantissa := by
  rw [neg_unpack_packed]
  exact pack_unpack_of_valid (valid_packed hfinite)

/-! ## Magnitudes -/

theorem toBits_ofBits (hfinite : exponent ≠ -1#11) {bits : UInt64}
    (hbits : bits.toBitVec = packed sign exponent mantissa) :
    (Float.ofBits bits).toBits = bits ∧
      (-Float.ofBits bits).toBits.toBitVec = packed (-sign) exponent mantissa := by
  have hsame : pack Format.binary64 (unpack Format.binary64 bits.toBitVec) = bits.toBitVec := by
    rw [hbits]
    exact pack_unpack_of_valid (valid_packed hfinite)
  refine ⟨UInt64.toBitVec_inj.mp hsame, ?_⟩
  show pack Format.binary64 (unpack Format.binary64
    (pack Format.binary64 (unpack Format.binary64 bits.toBitVec))).neg = _
  rw [hsame, hbits]
  exact pack_neg_unpack_packed hfinite

theorem exists_fields {bits : Nat} (h : bits < infinity) :
    ∃ (exponent : BitVec 11) (mantissa : BitVec 52),
      exponent ≠ -1#11 ∧ bits = exponent.toNat * binade + mantissa.toNat := by
  have hlarge : bits / binade < 2047 := by
    rw [Nat.div_lt_iff_lt_mul (by decide)]
    exact h
  have hsmall : bits % binade < 2 ^ 52 := Nat.mod_lt _ (by decide)
  have hexponent : (BitVec.ofNat 11 (bits / binade)).toNat = bits / binade :=
    Nat.mod_eq_of_lt (by omega)
  have hmantissa : (BitVec.ofNat 52 (bits % binade)).toNat = bits % binade :=
    Nat.mod_eq_of_lt hsmall
  refine ⟨BitVec.ofNat 11 (bits / binade), BitVec.ofNat 52 (bits % binade), ?_, ?_⟩
  · intro hother
    have hall := congrArg BitVec.toNat hother
    rw [hexponent] at hall
    exact absurd hall (Nat.ne_of_lt hlarge)
  · rw [hexponent, hmantissa, Nat.div_add_mod']

/-- A finite magnitude is the magnitude of its double and of the negative of it, and the sign tells
the two apart. -/
theorem magnitude_ofMagnitude {bits : Nat} (h : bits < infinity) :
    (magnitude (ofMagnitude bits) = bits ∧ isNegative (ofMagnitude bits) = false) ∧
      magnitude (-ofMagnitude bits) = bits ∧ isNegative (-ofMagnitude bits) = true := by
  have hbelow : bits < signBit := Nat.lt_trans h (by decide)
  have hword : bits.toUInt64.toNat = bits := Nat.mod_eq_of_lt (Nat.lt_trans hbelow (by decide))
  obtain ⟨exponent, mantissa, hfinite, hfields⟩ := exists_fields h
  have hpacked : bits.toUInt64.toBitVec = packed .positive exponent mantissa := by
    refine BitVec.eq_of_toNat_eq ?_
    rw [toNat_packed, Nat.add_assoc, ← hfields]
    exact hword.trans (Nat.zero_add _).symm
  obtain ⟨hsame, hneg⟩ := toBits_ofBits hfinite hpacked
  have hnegative : (-Float.ofBits bits.toUInt64).toBits.toNat = signBit + bits := by
    have hnat := congrArg BitVec.toNat hneg
    rw [toNat_packed, Nat.add_assoc, ← hfields] at hnat
    exact hnat
  simp only [magnitude, isNegative, ofMagnitude, hsame, hword, hnegative, Nat.add_mod_left,
    Nat.mod_eq_of_lt hbelow, Nat.le_add_right, Nat.not_le.mpr hbelow, decide_true, decide_false,
    and_self]

/-! ## Every double -/

theorem exists_packed (bits : BitVec 64) :
    ∃ sign exponent mantissa, bits = packed sign exponent mantissa := by
  have hlt := bits.isLt
  refine ⟨Sign.ofBitVec (BitVec.ofNat 1 (bits.toNat / 2 ^ 63)),
    BitVec.ofNat 11 (bits.toNat / 2 ^ 52), BitVec.ofNat 52 bits.toNat, BitVec.eq_of_toNat_eq ?_⟩
  rw [toNat_packed, Sign.toBitVec_ofBitVec]
  simp only [BitVec.toNat_ofNat, signBit, binade]
  omega

theorem isNaN_unpack_packed : (unpack Format.binary64 (packed sign exponent mantissa)).isNaN = true ↔
    exponent = -1#11 ∧ mantissa ≠ 0 := by
  simp only [packed, unpack, unpackExponent_packComponents, unpackMantissa_packComponents,
    unpackSign_packComponents, Sign.ofBitVec_toBitVec]
  split_ifs <;> simp_all [isNaN]

variable {x y : Float}

theorem magnitude_packed (h : x.toBits.toBitVec = packed sign exponent mantissa) :
    magnitude x = exponent.toNat * binade + mantissa.toNat := by
  have hnat : x.toBits.toNat = _ := (congrArg BitVec.toNat h).trans (toNat_packed _ _ _)
  have hexponent := exponent.isLt
  have hmantissa := mantissa.isLt
  rw [magnitude, hnat]
  simp only [signBit, binade]
  omega

/-- The magnitudes above infinity are those of NaN. -/
theorem isNaN_iff : x.isNaN = true ↔ infinity < magnitude x := by
  obtain ⟨sign, exponent, mantissa, hbits⟩ := exists_packed x.toBits.toBitVec
  have hmodel : x.isNaN = (unpack Format.binary64 x.toBits.toBitVec).isNaN := rfl
  have hexponent := exponent.isLt
  have hmantissa := mantissa.isLt
  have hlast : exponent = -1#11 ↔ exponent.toNat = 2047 := BitVec.toNat_inj.symm
  have hzero : mantissa = 0 ↔ mantissa.toNat = 0 := BitVec.toNat_inj.symm
  rw [hmodel, hbits, isNaN_unpack_packed, magnitude_packed hbits, ne_eq, hlast, hzero]
  simp only [infinity, binade]
  omega

/-- A double is its sign and its magnitude. -/
theorem eq_of_magnitude (hsign : isNegative x = isNegative y) (h : magnitude x = magnitude y) :
    x = y := by
  have hlt := x.toBits.toNat_lt
  have hlt' := y.toBits.toNat_lt
  have hiff := decide_eq_decide.mp hsign
  simp only [magnitude, signBit] at h hiff
  have hbits : x.toBits = y.toBits := UInt64.toNat_inj.mp (by omega)
  rw [← Float.ofBits_toBits x, hbits, Float.ofBits_toBits]

theorem isNaN_ofMagnitude {bits : Nat} (h : bits ≤ infinity) :
    (ofMagnitude bits).isNaN = false := by
  have hmagnitude : magnitude (ofMagnitude bits) = bits := by
    rcases Nat.lt_or_eq_of_le h with hlt | rfl
    · exact (magnitude_ofMagnitude hlt).1.1
    · decide +kernel
  rw [Bool.eq_false_iff, ne_eq, isNaN_iff, hmagnitude]
  exact Nat.not_lt.mpr h

end ExprLang.Binary64
