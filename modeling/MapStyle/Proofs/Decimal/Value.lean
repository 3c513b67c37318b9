import Mathlib
import MapStyle.Proofs.Decimal.Rounding

/-!
# What a finite double stands for

A finite double stands for a rational number, its mantissa times a power of two under its sign.
Doubles are compared as these numbers are, and the absolute value of a double stands for the
absolute value. A double that stands for an integer is whole, and nothing is lost when the places
after its point are dropped.
-/

namespace MapStyle

/-! ## The order of mantissas and exponents -/

namespace Decimal.Canonical

variable {m m' : ℕ} {e e' : ℤ} {narrow narrow' : Bool}

/-- Of two doubles the one with the greater exponent is greater. -/
theorem lt_of_exponent_lt (h : Canonical m e narrow) (h' : Canonical m' e' narrow')
    (he : e < e') : (m : ℚ) * 2 ^ e < m' * 2 ^ e' := by
  have hm : (m : ℚ) < 2 ^ 53 := by exact_mod_cast h.mantissa_lt
  have hm' : (2 : ℚ) ^ 52 ≤ m' := by
    exact_mod_cast h'.le_mantissa (h.least_le.trans_lt he)
  calc
    (m : ℚ) * 2 ^ e < 2 ^ 53 * 2 ^ e := by gcongr
    _ = 2 ^ 52 * 2 ^ (e + 1) := by
      rw [zpow_add_one₀ (by norm_num)]
      ring
    _ ≤ 2 ^ 52 * 2 ^ e' := by
      gcongr
      · norm_num
      · omega
    _ ≤ m' * 2 ^ e' := by gcongr

/-- The order by exponents, and by mantissas where these are equal, is the order of the numbers. -/
theorem compare_eq (h : Canonical m e narrow) (h' : Canonical m' e' narrow') :
    (compare e e').then (compare m m') = compare ((m : ℚ) * 2 ^ e) (m' * 2 ^ e') := by
  rcases lt_trichotomy e e' with he | rfl | he
  · rw [compare_lt_iff_lt.mpr he, compare_lt_iff_lt.mpr (h.lt_of_exponent_lt h' he)]
    rfl
  · have hscale : (0 : ℚ) < 2 ^ e := by positivity
    rw [compare_eq_iff_eq.mpr rfl, Ordering.eq_then]
    rcases lt_trichotomy m m' with hm | rfl | hm
    · rw [compare_lt_iff_lt.mpr hm, compare_lt_iff_lt.mpr]
      gcongr
    · rw [compare_eq_iff_eq.mpr rfl, compare_eq_iff_eq.mpr rfl]
    · rw [compare_gt_iff_gt.mpr hm, compare_gt_iff_gt.mpr]
      gcongr
  · rw [compare_gt_iff_gt.mpr he, compare_gt_iff_gt.mpr (h'.lt_of_exponent_lt h he)]
    rfl

end Decimal.Canonical

namespace Binary64

open Float.Model Float.Model.UnpackedFloat

/-! ## The fields of a double -/

/-- Bits put in front of others count for as much more. -/
theorem toNat_append {n k : ℕ} (b : BitVec n) (c : BitVec k) :
    (b ++ c).toNat = b.toNat * 2 ^ k + c.toNat := by
  rw [BitVec.toNat_append, ← Nat.shiftLeft_add_eq_or_of_lt c.isLt, Nat.shiftLeft_eq]

variable (x y : Float)

theorem toNat_unpackExponent :
    (@unpackExponent .binary64 x.toBits.toBitVec).toNat = biasedExponent x := by
  simp [unpackExponent, biasedExponent, Nat.shiftRight_eq_div_pow]

theorem toNat_unpackMantissa :
    (@unpackMantissa .binary64 x.toBits.toBitVec).toNat = fraction x := by
  simp [unpackMantissa, fraction]

theorem toNat_unpackSign :
    (@unpackSign .binary64 x.toBits.toBitVec).toNat = x.toBits.toNat / 2 ^ 63 := by
  have hlt := x.toBits.toNat_lt
  simp [unpackSign, Nat.shiftRight_eq_div_pow]
  omega

def sign : Sign := if isNegative x then .negative else .positive

theorem ofBitVec_unpackSign :
    Sign.ofBitVec (@unpackSign .binary64 x.toBits.toBitVec) = sign x := by
  have hlt := x.toBits.toNat_lt
  have hzero : @unpackSign .binary64 x.toBits.toBitVec = 0#1 ↔ isNegative x = false := by
    rw [← BitVec.toNat_inj, toNat_unpackSign]
    simp only [isNegative, Nat.pow_eq, decide_eq_false_iff_not, BitVec.toNat_zero]
    omega
  rw [Sign.ofBitVec, sign]
  cases h : isNegative x
  · rw [if_pos (hzero.mpr h)]
    rfl
  · rw [if_neg (by simp [hzero, h])]
    rfl

/-- A double, part by part. -/
theorem unpack_eq : x.toModel.unpack =
    if biasedExponent x = 2047 then
      if fraction x = 0 then .infinity (sign x) else .notANumber
    else if hm : mantissa x = 0 then .zero (sign x)
    else .finite (sign x) (mantissa x) (exponent x) (Nat.pos_of_ne_zero hm) := by
  have hgreatest : @unpackExponent .binary64 x.toBits.toBitVec = -1#11 ↔
      biasedExponent x = 2047 := by
    rw [← BitVec.toNat_inj, toNat_unpackExponent]
    rfl
  have hleast : @unpackExponent .binary64 x.toBits.toBitVec = 0#11 ↔ biasedExponent x = 0 := by
    rw [← BitVec.toNat_inj, toNat_unpackExponent]
    rfl
  have hfraction : @unpackMantissa .binary64 x.toBits.toBitVec = 0#52 ↔ fraction x = 0 := by
    rw [← BitVec.toNat_inj, toNat_unpackMantissa]
    rfl
  change UnpackedFloat.unpack .binary64 x.toBits.toBitVec = _
  simp only [UnpackedFloat.unpack, hgreatest, hleast, hfraction, ofBitVec_unpackSign]
  by_cases hinf : biasedExponent x = 2047
  · rw [if_pos hinf, if_pos hinf]
  rw [if_neg hinf, if_neg hinf]
  by_cases hzero : biasedExponent x = 0
  · have hm : mantissa x = fraction x := if_pos hzero
    have he : exponent x = -1074 := if_pos hzero
    rw [if_pos hzero]
    by_cases hf : fraction x = 0
    · rw [dif_pos hf, dif_pos (hm.trans hf)]
    · rw [dif_neg hf, dif_neg (hm ▸ hf)]
      simp only [finite.injEq, toNat_unpackMantissa, toNat_unpackExponent, hm, he, hzero]
      exact ⟨trivial, trivial, rfl⟩
  · have hm : mantissa x = 2 ^ 52 + fraction x := if_neg hzero
    have he : exponent x = biasedExponent x - 1075 := if_neg hzero
    rw [if_neg hzero, dif_neg (by omega)]
    simp only [finite.injEq, toNat_unpackExponent, hm, he]
    refine ⟨trivial, ?_, rfl⟩
    rw [toNat_append, toNat_unpackMantissa]
    rfl

theorem isFinite_iff : x.isFinite ↔ biasedExponent x ≠ 2047 := by
  change x.toModel.unpack.isFinite = true ↔ _
  rw [unpack_eq]
  split
  · split <;> simp_all [UnpackedFloat.isFinite]
  · split <;> simp_all [UnpackedFloat.isFinite]

variable {x y}

theorem isNaN_eq_false (hx : x.isFinite) : x.isNaN = false := by
  change x.toModel.unpack.isFinite = true at hx
  change x.toModel.unpack.isNaN = false
  cases hu : x.toModel.unpack <;> simp_all [UnpackedFloat.isFinite, UnpackedFloat.isNaN]

theorem isInf_eq_false (hx : x.isFinite) : x.isInf = false := by
  change x.toModel.unpack.isFinite = true at hx
  change x.toModel.unpack.isInf = false
  cases hu : x.toModel.unpack <;> simp_all [UnpackedFloat.isFinite, UnpackedFloat.isInf]

/-- The rational number that a finite double stands for. -/
def value (x : Float) : ℚ :=
  if isNegative x then -(mantissa x * 2 ^ exponent x) else mantissa x * 2 ^ exponent x

theorem value_eq_zero (hm : mantissa x = 0) : value x = 0 := by simp [value, hm]

theorem value_pos (hm : mantissa x ≠ 0) (hs : isNegative x = false) : 0 < value x := by
  rw [value, if_neg (by simp [hs])]
  positivity

theorem value_neg (hm : mantissa x ≠ 0) (hs : isNegative x = true) : value x < 0 := by
  rw [value, if_pos hs, neg_lt_zero]
  positivity

/-- Numbers under a minus are compared the other way round. -/
theorem compare_neg (a b : ℚ) : compare (-a) (-b) = (compare a b).swap := by
  rcases lt_trichotomy a b with h | rfl | h
  · rw [compare_lt_iff_lt.mpr h, compare_gt_iff_gt.mpr (neg_lt_neg h)]
    rfl
  · rw [compare_eq_iff_eq.mpr rfl, compare_eq_iff_eq.mpr rfl]
    rfl
  · rw [compare_gt_iff_gt.mpr h, compare_lt_iff_lt.mpr (neg_lt_neg h)]
    rfl

/-- Finite doubles are compared as the numbers that they stand for. -/
theorem compare_unpack (hx : x.isFinite) (hy : y.isFinite) :
    x.toModel.unpack.compare y.toModel.unpack = some (compare (value x) (value y)) := by
  rw [unpack_eq, unpack_eq, if_neg ((isFinite_iff x).mp hx), if_neg ((isFinite_iff y).mp hy)]
  by_cases hmx : mantissa x = 0 <;> by_cases hmy : mantissa y = 0
  · rw [dif_pos hmx, dif_pos hmy, value_eq_zero hmx, value_eq_zero hmy]
    rfl
  · rw [dif_pos hmx, dif_neg hmy, value_eq_zero hmx, sign, sign]
    cases hsy : isNegative y
    · rw [compare_lt_iff_lt.mpr (value_pos hmy hsy)]
      rfl
    · rw [compare_gt_iff_gt.mpr (value_neg hmy hsy)]
      rfl
  · rw [dif_neg hmx, dif_pos hmy, value_eq_zero hmy, sign, sign]
    cases hsx : isNegative x
    · rw [compare_gt_iff_gt.mpr (value_pos hmx hsx)]
      rfl
    · rw [compare_lt_iff_lt.mpr (value_neg hmx hsx)]
      rfl
  · -- only under one sign do the mantissas and exponents decide
    have hparts := (canonical x).compare_eq (canonical y)
    rw [dif_neg hmx, dif_neg hmy, sign, sign]
    cases hsx : isNegative x <;> cases hsy : isNegative y
    · rw [value, value, hsx, hsy]
      exact congrArg some hparts
    · rw [compare_gt_iff_gt.mpr ((value_neg hmy hsy).trans (value_pos hmx hsx))]
      rfl
    · rw [compare_lt_iff_lt.mpr ((value_neg hmx hsx).trans (value_pos hmy hsy))]
      rfl
    · rw [value, value, hsx, hsy]
      exact congrArg some ((congrArg Ordering.swap hparts).trans (compare_neg _ _).symm)

theorem lt_iff (hx : x.isFinite) (hy : y.isFinite) : x < y ↔ value x < value y := by
  change decide (x.toModel.lt y.toModel = true) = true ↔ _
  rw [decide_eq_true_iff, Float.Model.lt, UnpackedFloat.lt, compare_unpack hx hy,
    ← compare_lt_iff_lt]
  simp

theorem le_iff (hx : x.isFinite) (hy : y.isFinite) : x ≤ y ↔ value x ≤ value y := by
  change decide (x.toModel.le y.toModel = true) = true ↔ _
  rw [decide_eq_true_iff, Float.Model.le, UnpackedFloat.le, compare_unpack hx hy,
    ← compare_le_iff_le, Option.any_some, Ordering.isLE_iff_ne_gt]

/-! ## Absolute values -/

theorem toNat_packComponents (e : BitVec 11) (m : BitVec 52) :
    (packComponents .binary64 .positive e m).toNat = e.toNat * 2 ^ 52 + m.toNat := by
  rw [packComponents, toNat_append, toNat_append]
  simp [Sign.toBitVec]

theorem toNat_pack_subnormal {m : ℕ} (hpos : 0 < m) (hm : m < 2 ^ 52) :
    (UnpackedFloat.pack .binary64 (.finite .positive m (-1074) hpos)).toNat = m := by
  have hbits : m.log2 + 1 ≠ 53 := by
    have := (Nat.log2_lt hpos.ne').mpr hm
    omega
  refine (congrArg BitVec.toNat (if_neg hbits)).trans ?_
  refine (toNat_packComponents 0#11 (BitVec.ofNat 52 m)).trans ?_
  simpa using hm

/-- The leading one of the mantissa is not among the bits of a normal double. -/
theorem toNat_pack_normal {f b : ℕ} (hf : f < 2 ^ 52) (hpos : 0 < b) (hb : b < 2047) :
    (UnpackedFloat.pack .binary64
      (.finite .positive (2 ^ 52 + f) (b - 1075) (by omega))).toNat = b * 2 ^ 52 + f := by
  have hbiased : (((b : ℤ) - 1075) + Format.binary64.exponentBias + (52 : ℕ)).toNat = b := by
    change ((b : ℤ) - 1075 + 1023 + 52).toNat = b
    omega
  have hbits : (2 ^ 52 + f).log2 + 1 = Format.binary64.mantissaBits := by
    have hlow : 52 ≤ (2 ^ 52 + f).log2 := (Nat.le_log2 (by omega)).mpr (by omega)
    have hhigh : (2 ^ 52 + f).log2 < 53 := (Nat.log2_lt (by omega)).mpr (by omega)
    change _ = 53
    omega
  have hlarge : ¬ 2 ^ 11 ≤ b + 1 := by omega
  simp only [UnpackedFloat.pack, hbiased, if_neg hlarge, if_pos hbits]
  rw [toNat_packComponents, BitVec.toNat_ofNat, BitVec.toNat_ofNat]
  omega

/-- The absolute value of a finite double has the same bits but for the sign. -/
theorem toNat_toBits_abs (hx : x.isFinite) :
    x.abs.toBits.toNat = biasedExponent x * 2 ^ 52 + fraction x := by
  have hfinite := (isFinite_iff x).mp hx
  have hfraction := fraction_lt x
  have hexponent : biasedExponent x < 2 ^ 11 := Nat.mod_lt _ (by norm_num)
  change (UnpackedFloat.pack .binary64 x.toModel.unpack.abs).toNat = _
  rw [unpack_eq, if_neg hfinite]
  by_cases hzero : biasedExponent x = 0
  · have hm : mantissa x = fraction x := if_pos hzero
    have he : exponent x = -1074 := if_pos hzero
    by_cases hf : fraction x = 0
    · rw [dif_pos (hm.trans hf), hzero, hf]
      exact toNat_packComponents 0 0
    · rw [dif_neg (hm ▸ hf)]
      simp only [UnpackedFloat.abs, hm, he, hzero]
      rw [toNat_pack_subnormal (Nat.pos_of_ne_zero hf) hfraction, Nat.zero_mul, Nat.zero_add]
  · have hm : mantissa x = 2 ^ 52 + fraction x := if_neg hzero
    have he : exponent x = biasedExponent x - 1075 := if_neg hzero
    rw [dif_neg (by omega)]
    simp only [UnpackedFloat.abs, hm, he]
    exact toNat_pack_normal hfraction (Nat.pos_of_ne_zero hzero) (by omega)

/-- The absolute value of a finite double, part by part. -/
theorem parts_abs (hx : x.isFinite) :
    isNegative x.abs = false ∧ biasedExponent x.abs = biasedExponent x ∧
      fraction x.abs = fraction x := by
  have hbits := toNat_toBits_abs hx
  have hfraction := fraction_lt x
  have hexponent : biasedExponent x < 2 ^ 11 := Nat.mod_lt _ (by norm_num)
  refine ⟨?_, ?_, ?_⟩
  · simp only [isNegative, hbits, Nat.pow_eq, decide_eq_false_iff_not]
    omega
  · simp only [biasedExponent.eq_def x.abs, hbits, Nat.pow_eq]
    omega
  · simp only [fraction.eq_def x.abs, hbits, Nat.pow_eq]
    omega

theorem isFinite_abs (hx : x.isFinite) : x.abs.isFinite := by
  rw [isFinite_iff, (parts_abs hx).2.1, ← isFinite_iff]
  exact hx

/-- The absolute value of a double stands for the absolute value. -/
theorem value_abs (hx : x.isFinite) : value x.abs = |value x| := by
  obtain ⟨hsign, hexponent, hfraction⟩ := parts_abs hx
  have hpos : (0 : ℚ) ≤ mantissa x * 2 ^ exponent x := by positivity
  have hm : mantissa x.abs = mantissa x := by simp only [mantissa, hexponent, hfraction]
  have he : exponent x.abs = exponent x := by simp only [exponent, hexponent]
  rw [value, if_neg (by simp [hsign]), hm, he, value]
  split
  · rw [abs_neg, abs_of_nonneg hpos]
  · rw [abs_of_nonneg hpos]

/-! ## Integers -/

/-- A double is exactly an integer. -/
structure Represents (x : Float) (n : ℤ) : Prop where
  isFinite : x.isFinite
  value_eq : value x = n

namespace Represents

variable {n : ℤ}

theorem natAbs_eq (h : Represents x n) : (n.natAbs : ℚ) = mantissa x * 2 ^ exponent x := by
  have hpos : (0 : ℚ) ≤ mantissa x * 2 ^ exponent x := by positivity
  rw [Nat.cast_natAbs, Int.cast_abs, ← h.value_eq, value]
  split
  · rw [abs_neg, abs_of_nonneg hpos]
  · rw [abs_of_nonneg hpos]

/-- The mantissa and the absolute value of the integer agree once the power of two has gone to the
side where it is whole. -/
theorem mantissa_mul (h : Represents x n) :
    mantissa x * 2 ^ (exponent x).toNat = n.natAbs * 2 ^ (-exponent x).toNat := by
  have hscale := Decimal.zpow_mul_pow_neg_toNat (b := 2) (by norm_num) (exponent x)
  have hcast : (mantissa x : ℚ) * 2 ^ (exponent x).toNat
      = n.natAbs * 2 ^ (-exponent x).toNat := by
    rw [h.natAbs_eq, ← hscale, mul_assoc]
  exact_mod_cast hcast

theorem isWhole (h : Represents x n) : isWhole x := by
  have hm := h.mantissa_mul
  rw [Binary64.isWhole, h.isFinite, Bool.true_and, Bool.or_eq_true, decide_eq_true_iff,
    decide_eq_true_iff]
  by_cases he : 0 ≤ exponent x
  · exact .inl he
  · rw [Int.toNat_of_nonpos (by omega), pow_zero, mul_one] at hm
    exact .inr (hm ▸ Nat.mul_mod_left _ _)

/-- The whole part of an integer is its absolute value. -/
theorem wholePart_eq (h : Represents x n) : wholePart x = n.natAbs := by
  have hm := h.mantissa_mul
  rw [wholePart]
  split
  · rename_i he
    rw [Int.toNat_of_nonpos (by omega : -exponent x ≤ 0), pow_zero, mul_one] at hm
    exact hm
  · rw [Int.toNat_of_nonpos (by omega), pow_zero, mul_one] at hm
    rw [hm]
    exact Nat.mul_div_cancel _ (Nat.pow_pos (by norm_num))

/-- Nothing is lost when the places after the point of an integer are dropped. -/
theorem truncate_eq (h : Represents x n) : truncate x = n := by
  have hvalue := h.value_eq
  have hpos : (0 : ℚ) ≤ mantissa x * 2 ^ exponent x := by positivity
  rw [truncate, h.wholePart_eq]
  rw [value] at hvalue
  split at hvalue
  · have hn : n ≤ 0 := by exact_mod_cast hvalue ▸ neg_nonpos.mpr hpos
    rw [if_pos ‹_›]
    omega
  · have hn : 0 ≤ n := by exact_mod_cast hvalue ▸ hpos
    rw [if_neg ‹_›]
    omega

/-- A double that is an integer is below a bound exactly if the integer is. -/
theorem abs_lt_iff {y : Float} {k : ℤ} (h : Represents x n) (hk : Represents y k) :
    x.abs < y ↔ |n| < k := by
  rw [lt_iff (isFinite_abs h.isFinite) hk.isFinite, value_abs h.isFinite, h.value_eq, hk.value_eq]
  norm_cast

theorem abs_le_iff {y : Float} {k : ℤ} (h : Represents x n) (hk : Represents y k) :
    x.abs ≤ y ↔ |n| ≤ k := by
  rw [le_iff (isFinite_abs h.isFinite) hk.isFinite, value_abs h.isFinite, h.value_eq, hk.value_eq]
  norm_cast

end Represents

/-- The whole part of a whole double is its absolute value. -/
theorem natCast_wholePart (h : isWhole x) :
    (wholePart x : ℚ) = mantissa x * 2 ^ exponent x := by
  rw [isWhole, Bool.and_eq_true, Bool.or_eq_true, decide_eq_true_iff, decide_eq_true_iff] at h
  rw [wholePart]
  split
  · rename_i he
    obtain ⟨k, hk⟩ := Int.eq_ofNat_of_zero_le he
    simp [hk]
  · rename_i he
    obtain ⟨k, hk⟩ : ∃ k : ℕ, exponent x = -k := ⟨(-exponent x).toNat, by omega⟩
    have hdvd : 2 ^ k ∣ mantissa x := by
      simpa [hk] using Nat.dvd_of_mod_eq_zero (h.2.resolve_left he)
    simp only [hk, neg_neg, Int.toNat_natCast, Nat.pow_eq, zpow_neg, zpow_natCast]
    rw [Nat.cast_div hdvd (by positivity)]
    push_cast
    rfl

/-- The doubles that are an integer are the whole ones, and the integer is what is left of them
without the places after the point. -/
theorem represents_iff {n : ℤ} : Represents x n ↔ isWhole x ∧ truncate x = n := by
  refine ⟨fun h ↦ ⟨h.isWhole, h.truncate_eq⟩, ?_⟩
  rintro ⟨hwhole, rfl⟩
  refine ⟨(Bool.and_eq_true_iff.mp hwhole).1, ?_⟩
  rw [value, truncate, ← natCast_wholePart hwhole]
  split <;> push_cast <;> rfl

end Binary64

end MapStyle
