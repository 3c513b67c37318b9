import Mathlib.Algebra.Order.Field.Power
import Mathlib.Data.Rat.Cast.Order
import Mathlib.Tactic
import MapStyle.Decimal.Shortest

/-!
# A double is known by its shortest decimal

The reals that round to a double form an interval, and the intervals of two doubles have no point
in common: of two neighbours that share an end, only the one with the even mantissa includes it.
The shortest decimal of a double lies in its interval, so two doubles with shortest decimals of one
value have one absolute value.
-/

namespace MapStyle.Decimal

/-- The rational number that a decimal stands for. -/
def value (d : Decimal) : ℚ := d.digits * (10 : ℚ) ^ d.exponent

/-- Zeros at the end of the digits go to the exponent. -/
theorem value_strip (fuel : ℕ) (d : Decimal) : (strip fuel d).value = d.value := by
  induction fuel generalizing d with
  | zero => rfl
  | succ fuel ih =>
    unfold strip
    split
    · rename_i h
      simp only [Bool.and_eq_true, decide_eq_true_eq] at h
      have hdigits : d.digits = d.digits / 10 * 10 := by omega
      rw [ih]
      unfold value
      calc
        ((d.digits / 10 : ℕ) : ℚ) * (10 : ℚ) ^ (d.exponent + 1) =
            ((d.digits / 10 * 10 : ℕ) : ℚ) * (10 : ℚ) ^ d.exponent := by
          rw [zpow_add_one₀ (by norm_num)]
          push_cast
          ring
        _ = _ := by rw [← hdigits]
    · rfl

/-! ## Exact comparisons -/

theorem zpow_mul_pow_neg_toNat {b : ℚ} (hb : b ≠ 0) (i : ℤ) :
    b ^ i * b ^ (-i).toNat = b ^ i.toNat := by
  rw [← zpow_natCast, ← zpow_natCast, ← zpow_add₀ hb]
  congr 1
  omega

/-- Both sides of `compareScaled` are the two numbers times one positive factor. -/
theorem compareScaled_eq (a : ℕ) (i : ℤ) (n : ℕ) (j : ℤ) :
    compareScaled a i n j = compare ((a : ℚ) * 10 ^ i) ((n : ℚ) * 2 ^ j) := by
  let factor : ℚ := 2 ^ (-j).toNat * 10 ^ (-i).toNat
  have hfactor : 0 < factor := by positivity
  have hleft : (a : ℚ) * 10 ^ i * factor =
      ((a * Nat.pow 10 i.toNat * Nat.pow 2 (-j).toNat : ℕ) : ℚ) := by
    have h10 := zpow_mul_pow_neg_toNat (b := 10) (by norm_num) i
    calc
      (a : ℚ) * 10 ^ i * factor = a * (10 ^ i * 10 ^ (-i).toNat) * 2 ^ (-j).toNat := by
        unfold factor
        ring
      _ = _ := by
        rw [h10]
        push_cast [Nat.pow_eq]
        rfl
  have hright : (n : ℚ) * 2 ^ j * factor =
      ((n * Nat.pow 2 j.toNat * Nat.pow 10 (-i).toNat : ℕ) : ℚ) := by
    have h2 := zpow_mul_pow_neg_toNat (b := 2) (by norm_num) j
    calc
      (n : ℚ) * 2 ^ j * factor = n * (2 ^ j * 2 ^ (-j).toNat) * 10 ^ (-i).toNat := by
        unfold factor
        ring
      _ = _ := by
        rw [h2]
        push_cast [Nat.pow_eq]
        rfl
  unfold compareScaled
  generalize a * Nat.pow 10 i.toNat * Nat.pow 2 (-j).toNat = left at hleft ⊢
  generalize n * Nat.pow 2 j.toNat * Nat.pow 10 (-i).toNat = right at hright ⊢
  have hlt : (a : ℚ) * 10 ^ i < n * 2 ^ j ↔ left < right := by
    rw [← mul_lt_mul_iff_left₀ hfactor, hleft, hright, Nat.cast_lt]
  have hgt : (n : ℚ) * 2 ^ j < a * 10 ^ i ↔ right < left := by
    rw [← mul_lt_mul_iff_left₀ hfactor, hleft, hright, Nat.cast_lt]
  rcases lt_trichotomy left right with h | h | h
  · rw [compare_lt_iff_lt.mpr h, compare_lt_iff_lt.mpr (hlt.mpr h)]
  · have heq : (a : ℚ) * 10 ^ i = n * 2 ^ j :=
      le_antisymm (not_lt.mp fun hlt' ↦ absurd (hgt.mp hlt') (by omega))
        (not_lt.mp fun hlt' ↦ absurd (hlt.mp hlt') (by omega))
    rw [h, heq]
    simp
  · rw [compare_gt_iff_gt.mpr h, compare_gt_iff_gt.mpr (hgt.mpr h)]

/-! ## The interval of a double -/

/-- The lower end of the interval of `m * 2 ^ e`, in quarters of the unit. -/
def lowQuarters (m : ℕ) (narrow : Bool) : ℕ := if narrow then 4 * m - 1 else 4 * m - 2

/-- A number rounds to the double with the given mantissa and exponent. -/
def RoundsTo (m : ℕ) (e : ℤ) (narrow : Bool) (v : ℚ) : Prop :=
  (lowQuarters m narrow * (2 : ℚ) ^ (e - 2) < v ∨
    m % 2 = 0 ∧ lowQuarters m narrow * (2 : ℚ) ^ (e - 2) = v) ∧
  (v < ((4 * m + 2 : ℕ) : ℚ) * (2 : ℚ) ^ (e - 2) ∨
    m % 2 = 0 ∧ v = ((4 * m + 2 : ℕ) : ℚ) * (2 : ℚ) ^ (e - 2))

/-- What the comparisons of scaled integers accept lies in the interval of the double. -/
theorem roundsTo_of_readsBack {m : ℕ} {e : ℤ} {narrow : Bool} {d : Decimal}
    (h : readsBack m e narrow d = true) : RoundsTo m e narrow d.value := by
  simp only [readsBack, compareScaled_eq, Bool.and_eq_true, Bool.or_eq_true,
    decide_eq_true_eq] at h
  obtain ⟨hlow, hhigh⟩ := h
  constructor
  · rcases hlow with hlow | ⟨heven, hlow⟩
    · exact Or.inl (compare_gt_iff_gt.mp hlow)
    · exact Or.inr ⟨heven, (compare_eq_iff_eq.mp hlow).symm⟩
  · rcases hhigh with hhigh | ⟨heven, hhigh⟩
    · exact Or.inl (compare_lt_iff_lt.mp hhigh)
    · exact Or.inr ⟨heven, compare_eq_iff_eq.mp hhigh⟩

/-- A number with a mantissa lies strictly inside its own interval. -/
theorem roundsTo_exact {m : ℕ} (hm : m ≠ 0) (e : ℤ) (narrow : Bool) :
    RoundsTo m e narrow ((m : ℚ) * 2 ^ e) := by
  have hscale : (0 : ℚ) < 2 ^ (e - 2) := by positivity
  have hquarters : (m : ℚ) * 2 ^ e = ((4 * m : ℕ) : ℚ) * 2 ^ (e - 2) := by
    calc
      (m : ℚ) * 2 ^ e = m * (2 ^ (e - 2) * 2 ^ (2 : ℤ)) := by
        rw [← zpow_add₀ (by norm_num), sub_add_cancel]
      _ = ((4 * m : ℕ) : ℚ) * 2 ^ (e - 2) := by
        push_cast
        ring
  have hlow : lowQuarters m narrow < 4 * m := by
    unfold lowQuarters
    split <;> omega
  rw [hquarters]
  constructor
  · exact Or.inl (mul_lt_mul_of_pos_right (by exact_mod_cast hlow) hscale)
  · exact Or.inl (mul_lt_mul_of_pos_right (by exact_mod_cast (by omega : 4 * m < 4 * m + 2)) hscale)

/-- Only positive numbers round to a double with a mantissa. -/
theorem RoundsTo.pos {m : ℕ} (hm : m ≠ 0) {e : ℤ} {narrow : Bool} {v : ℚ}
    (h : RoundsTo m e narrow v) : 0 < v := by
  have hlow : 0 < lowQuarters m narrow := by
    unfold lowQuarters
    split <;> omega
  have hend : (0 : ℚ) < lowQuarters m narrow * 2 ^ (e - 2) := by positivity
  rcases h.1 with hlt | ⟨-, heq⟩
  · exact hend.trans hlt
  · exact heq ▸ hend

/-- The exact decimal of a double has its value, as every power of two has finitely many digits. -/
theorem value_exact (m : ℕ) (e : ℤ) : (exact m e).value = (m : ℚ) * 2 ^ e := by
  unfold exact value
  split
  · rename_i he
    obtain ⟨k, rfl⟩ := Int.eq_ofNat_of_zero_le he
    simp
  · rename_i he
    obtain ⟨k, hk⟩ : ∃ k : ℕ, e = -k := ⟨(-e).toNat, by omega⟩
    subst hk
    simp only [neg_neg, Int.toNat_natCast, Nat.pow_eq, zpow_neg, zpow_natCast]
    push_cast
    rw [show (10 : ℚ) = 2 * 5 by norm_num, mul_pow]
    field_simp

/-- A candidate is taken only if it reads back. -/
theorem readsBack_of_onGrid {tie : Tie} {m : ℕ} {e : ℤ} {narrow : Bool} {scale : ℤ} {d : Decimal}
    (h : onGrid tie m e narrow scale = some d) : readsBack m e narrow d = true := by
  simp only [onGrid] at h
  split at h
  · rename_i hboth
    simp only [Bool.and_eq_true] at hboth
    obtain ⟨⟨-, hlow⟩, hhigh⟩ := hboth
    repeat' split at h
    all_goals cases h; assumption
  · split at h
    · rename_i hlow
      simp only [Bool.and_eq_true] at hlow
      cases h
      exact hlow.2
    · split at h
      · cases h
        assumption
      · cases h

/-- The shortest decimal of a double other than zero rounds to it. -/
theorem roundsTo_shortest (tie : Tie) (x : Float) (hm : Binary64.mantissa x ≠ 0) :
    RoundsTo (Binary64.mantissa x) (Binary64.exponent x)
      (Binary64.fraction x = 0 && 1 < Binary64.biasedExponent x) (shortest tie x).value := by
  simp only [shortest, if_neg hm, value_strip]
  generalize hfound : List.findSome? _ _ = found
  cases found with
  | none =>
    rw [Option.getD_none, value_exact]
    exact roundsTo_exact hm _ _
  | some d =>
    obtain ⟨n, -, hn⟩ := List.exists_of_findSome?_eq_some hfound
    exact roundsTo_of_readsBack (readsBack_of_onGrid hn)

theorem value_shortest_eq_zero (tie : Tie) (x : Float) :
    (shortest tie x).value = 0 ↔ Binary64.mantissa x = 0 := by
  constructor
  · intro h
    by_contra hm
    exact (RoundsTo.pos hm (roundsTo_shortest tie x hm)).ne' h
  · intro hm
    simp [shortest, hm, value]

/-! ## Doubles keep apart -/

/-- What holds of the mantissa and the exponent of every double: the mantissa has at most 53 bits,
and only at the least exponent fewer. Only a least mantissa above the least exponent is narrow. -/
structure Canonical (m : ℕ) (e : ℤ) (narrow : Bool) : Prop where
  mantissa_lt : m < 2 ^ 53
  least_le : -1074 ≤ e
  le_mantissa : -1074 < e → 2 ^ 52 ≤ m
  narrow_iff : narrow = true ↔ m = 2 ^ 52 ∧ -1074 < e

/-- The intervals of two doubles have no point in common. -/
theorem Canonical.not_roundsTo {m m' : ℕ} {e e' : ℤ} {narrow narrow' : Bool} {v : ℚ}
    (h : Canonical m e narrow) (h' : Canonical m' e' narrow')
    (hlt : e < e' ∨ e = e' ∧ m < m') (hv : RoundsTo m e narrow v) :
    ¬ RoundsTo m' e' narrow' v := by
  intro hv'
  obtain ⟨k, hk⟩ : ∃ k : ℕ, e' = e + k := ⟨(e' - e).toNat, by omega⟩
  have hscale : (0 : ℚ) < 2 ^ (e - 2) := by positivity
  have hscale' : (2 : ℚ) ^ (e' - 2) = 2 ^ k * 2 ^ (e - 2) := by
    rw [← zpow_natCast, ← zpow_add₀ (by norm_num)]
    congr 1
    omega
  have hhigh := hv.2
  have hlow := hv'.1
  rw [hscale', ← mul_assoc] at hlow
  have hends : lowQuarters m' narrow' * 2 ^ k ≤ 4 * m + 2 := by
    have hle : (lowQuarters m' narrow' : ℚ) * 2 ^ k * 2 ^ (e - 2)
        ≤ ((4 * m + 2 : ℕ) : ℚ) * 2 ^ (e - 2) := by
      calc
        _ ≤ v := hlow.elim le_of_lt fun h ↦ le_of_eq h.2
        _ ≤ _ := hhigh.elim le_of_lt fun h ↦ le_of_eq h.2
    exact_mod_cast le_of_mul_le_mul_right hle hscale
  -- a common end would have to belong to both doubles, so both mantissas would be even
  have hshared : lowQuarters m' narrow' * 2 ^ k = 4 * m + 2 → m % 2 = 0 ∧ m' % 2 = 0 := by
    intro heq
    have heq' : (lowQuarters m' narrow' : ℚ) * 2 ^ k = ((4 * m + 2 : ℕ) : ℚ) := by
      exact_mod_cast heq
    rw [heq'] at hlow
    rcases hhigh with hhigh | hhigh
    · rcases hlow with hlow | hlow
      · exact absurd (hlow.trans hhigh) (lt_irrefl _)
      · exact absurd (hlow.2 ▸ hhigh) (lt_irrefl _)
    · rcases hlow with hlow | hlow
      · exact absurd (hhigh.2 ▸ hlow) (lt_irrefl _)
      · exact ⟨hhigh.1, hlow.1⟩
  have hm := h.mantissa_lt
  have hnarrow := h'.narrow_iff
  cases k with
  | zero =>
    simp only [pow_zero, mul_one] at hends hshared
    unfold lowQuarters at hends hshared
    split at hends <;> simp_all <;> omega
  | succ k =>
    have hm' := h'.le_mantissa (by have := h.least_le; omega)
    have hdouble : lowQuarters m' narrow' * 2 ≤ lowQuarters m' narrow' * 2 ^ (k + 1) :=
      Nat.mul_le_mul_left _ (by rw [pow_succ]; have := Nat.one_le_two_pow (n := k); omega)
    have he : -1074 < e' := by have := h.least_le; omega
    unfold lowQuarters at hdouble hends hshared
    split at hdouble <;> simp_all <;> omega

/-- The intervals of different doubles share no number. -/
theorem Canonical.eq_of_roundsTo {m m' : ℕ} {e e' : ℤ} {narrow narrow' : Bool} {v : ℚ}
    (h : Canonical m e narrow) (h' : Canonical m' e' narrow') (hv : RoundsTo m e narrow v)
    (hv' : RoundsTo m' e' narrow' v) : m = m' ∧ e = e' := by
  rcases lt_trichotomy e e' with he | he | he
  · exact absurd hv' (h.not_roundsTo h' (Or.inl he) hv)
  · rcases lt_trichotomy m m' with hm | hm | hm
    · exact absurd hv' (h.not_roundsTo h' (Or.inr ⟨he, hm⟩) hv)
    · exact ⟨hm, he⟩
    · exact absurd hv (h'.not_roundsTo h (Or.inr ⟨he.symm, hm⟩) hv')
  · exact absurd hv (h'.not_roundsTo h (Or.inl he) hv')

end MapStyle.Decimal

namespace MapStyle.Binary64

theorem fraction_lt (x : Float) : fraction x < 2 ^ 52 := Nat.mod_lt _ (by norm_num)

/-- Mantissa and exponent of a double are canonical, with a narrow interval below at a power of two.
-/
theorem canonical (x : Float) : Decimal.Canonical (mantissa x) (exponent x)
    (fraction x = 0 && 1 < biasedExponent x) := by
  have hfraction := fraction_lt x
  have hmantissa : mantissa x =
      if biasedExponent x = 0 then fraction x else 2 ^ 52 + fraction x := rfl
  have hexponent : exponent x =
      if biasedExponent x = 0 then -1074 else (biasedExponent x : ℤ) - 1075 := rfl
  rw [hmantissa, hexponent]
  constructor
  · split <;> omega
  · split <;> omega
  · split <;> omega
  · simp only [Bool.and_eq_true, decide_eq_true_eq]
    split <;> omega

/-- The bits of a double, field by field. -/
theorem toNat_toBits (x : Float) : x.toBits.toNat =
    (if isNegative x then 2 ^ 63 else 0) + biasedExponent x * 2 ^ 52 + fraction x := by
  have hlt := x.toBits.toNat_lt
  simp only [isNegative, biasedExponent, fraction, Nat.pow_eq, decide_eq_true_eq]
  split <;> omega

theorem toBits_injective {x y : Float} (h : x.toBits = y.toBits) : x = y := by
  obtain ⟨⟨xbits, _⟩⟩ := x
  obtain ⟨⟨ybits, _⟩⟩ := y
  have hbits : xbits = ybits := h
  subst hbits
  rfl

/-- A double is its sign, its mantissa and its exponent. -/
theorem eq_of_parts {x y : Float} (hsign : isNegative x = isNegative y)
    (hm : mantissa x = mantissa y) (he : exponent x = exponent y) : x = y := by
  have hx := fraction_lt x
  have hy := fraction_lt y
  have hfields : biasedExponent x = biasedExponent y ∧ fraction x = fraction y := by
    unfold mantissa at hm
    unfold exponent at he
    simp only [Nat.pow_eq] at hm
    split at hm <;> split at hm <;> simp_all
    all_goals omega
  apply toBits_injective
  apply UInt64.toNat_inj.mp
  rw [toNat_toBits, toNat_toBits, hsign, hfields.1, hfields.2]

/-- Doubles of one sign with shortest decimals of one value are equal. -/
theorem eq_of_value_shortest {tie : Decimal.Tie} {x y : Float}
    (hsign : isNegative x = isNegative y)
    (h : (Decimal.shortest tie x).value = (Decimal.shortest tie y).value) : x = y := by
  have hzero : mantissa x = 0 ↔ mantissa y = 0 := by
    rw [← Decimal.value_shortest_eq_zero tie x, ← Decimal.value_shortest_eq_zero tie y, h]
  by_cases hm : mantissa x = 0
  · have hm' := hzero.mp hm
    have hexponent (z : Float) (hz : mantissa z = 0) : exponent z = -1074 := by
      have hcanonical := canonical z
      by_contra hne
      have hlt : -1074 < exponent z := lt_of_le_of_ne hcanonical.least_le (Ne.symm hne)
      have := hcanonical.le_mantissa hlt
      omega
    exact eq_of_parts hsign (hm.trans hm'.symm) ((hexponent x hm).trans (hexponent y hm').symm)
  · have hx := Decimal.roundsTo_shortest tie x hm
    have hy := Decimal.roundsTo_shortest tie y (mt hzero.mpr hm)
    rw [← h] at hy
    obtain ⟨hmantissa, hexponent⟩ := (canonical x).eq_of_roundsTo (canonical y) hx hy
    exact eq_of_parts hsign hmantissa hexponent

end MapStyle.Binary64
