import Mathlib
import MapStyle.Binary64

/-!
# Equality of doubles

A double is compared by the point of the line at which it lies. The two zeros lie at one point and
NaN lies at none, and two doubles are equal if they lie at the same point. So equality is symmetric
and transitive, and NaN is the one double that differs from itself.
-/

namespace MapStyle.Binary64

open Float.Model

/-- The point at which a number lies: none for NaN, and one for the two zeros. -/
def pointOf : UnpackedFloat → Option UnpackedFloat
  | .notANumber => none
  | .zero _ => some (.zero .positive)
  | u => some u

/-- The point at which a double lies. -/
def point? (x : Float) : Option UnpackedFloat := pointOf x.toModel.unpack

theorem pointOf_eq_none_iff {u : UnpackedFloat} : pointOf u = none ↔ u.isNaN := by
  cases u <;> simp [pointOf]

/-- Two floats are equal if both have a point on the line and it is the same. The two zeros share
one, and NaN has none. -/
theorem beq_iff_pointOf {u v : UnpackedFloat} :
    u.beq v ↔ ∃ p, pointOf u = some p ∧ pointOf v = some p := by
  rw [UnpackedFloat.beq_iff_ne_notANumber_and_eq]
  cases u with
  | notANumber => simp [pointOf]
  | zero s =>
    cases v with
    | zero t => cases s <;> cases t <;> simp [pointOf]
    | notANumber | infinity _ | finite _ _ _ _ => simp [pointOf]
  | infinity _ | finite _ _ _ _ => cases v <;> simp [pointOf, eq_comm]

variable {x y z : Float}

theorem point?_eq_none_iff : point? x = none ↔ x.isNaN := pointOf_eq_none_iff

/-- Doubles are equal if they lie at the same point. -/
theorem beq_iff : x == y ↔ ∃ p, point? x = some p ∧ point? y = some p := beq_iff_pointOf

theorem beq_symm (h : x == y) : y == x := by
  obtain ⟨p, hx, hy⟩ := beq_iff.mp h
  exact beq_iff.mpr ⟨p, hy, hx⟩

theorem beq_trans (h : x == y) (h' : y == z) : x == z := by
  obtain ⟨p, hx, hy⟩ := beq_iff.mp h
  obtain ⟨q, hy', hz⟩ := beq_iff.mp h'
  obtain rfl : p = q := Option.some.inj (hy.symm.trans hy')
  exact beq_iff.mpr ⟨p, hx, hz⟩

/-- Only NaN differs from itself. -/
theorem beq_self_iff : x == x ↔ ¬ x.isNaN := by
  rw [beq_iff, ← point?_eq_none_iff, ← ne_eq, Option.ne_none_iff_exists']
  simp

/-- With NaN taken as one number, doubles are equal if they lie at the same point or both at
none. -/
theorem beq_or_isNaN_iff : (x == y || (x.isNaN && y.isNaN)) ↔ point? x = point? y := by
  rw [Bool.or_eq_true, Bool.and_eq_true, beq_iff, ← point?_eq_none_iff, ← point?_eq_none_iff]
  cases point? x <;> simp [eq_comm]

end MapStyle.Binary64
