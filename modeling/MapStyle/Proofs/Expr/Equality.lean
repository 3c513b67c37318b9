import MapStyle.Expr.Value
import MapStyle.Proofs.Json.Equality

/-!
# Equality of values

Structural equality is symmetric and transitive, and extends strict equality. It takes two values
as equal that strict equality tells apart only at the top: two NaN, and two patterns that say the
same. The items of an array are compared strictly. So an array that holds NaN, at any depth, differs
from itself, and arrays of equal items can differ.
-/

namespace MapStyle.Value

/-! ## NaN within a value -/

/-- NaN occurs in the value, at some depth. -/
inductive HoldsNaN : Value → Prop where
  | number {x : Float} (h : x.isNaN) : HoldsNaN (number x)
  | array {items : List Value} {v : Value} (hv : v ∈ items) (h : HoldsNaN v) :
      HoldsNaN (array items)
  | object {members : Table Json} {m : String × Json} (hm : m ∈ members) (h : m.2.HoldsNaN) :
      HoldsNaN (object members)

theorem holdsNaN_number_iff {x : Float} : (number x).HoldsNaN ↔ x.isNaN :=
  ⟨fun | .number h => h, .number⟩

theorem holdsNaN_array_iff {items : List Value} :
    (array items).HoldsNaN ↔ ∃ v ∈ items, v.HoldsNaN :=
  ⟨fun | .array hv h => ⟨_, hv, h⟩, fun ⟨_, hv, h⟩ ↦ .array hv h⟩

theorem holdsNaN_object_iff {members : Table Json} :
    (object members).HoldsNaN ↔ ∃ m ∈ members, m.2.HoldsNaN :=
  ⟨fun | .object hm h => ⟨_, hm, h⟩, fun ⟨_, hm, h⟩ ↦ .object hm h⟩

/-! ## Strict equality, form by form -/

def Strict (v w : Value) : Prop := v.strictEquals w

attribute [local simp] Strict strictEquals strictEqualItems

theorem strictEqualItems_iff {vs ws : List Value} :
    strictEqualItems vs ws ↔ List.Forall₂ Strict vs ws := by
  induction vs generalizing ws with
  | nil => cases ws <;> simp
  | cons v vs ih => cases ws <;> simp [ih]

variable {w : Value}

theorem strict_undefined_iff : Strict undefined w ↔ w = undefined := by
  cases w <;> simp

theorem strict_null_iff : Strict null w ↔ w = null := by cases w <;> simp

theorem strict_bool_iff {b : Bool} : Strict (bool b) w ↔ w = bool b := by
  cases w <;> simp [@eq_comm _ b]

theorem strict_string_iff {s : String} : Strict (string s) w ↔ w = string s := by
  cases w <;> simp [@eq_comm _ s]

theorem strict_number_iff {x : Float} : Strict (number x) w ↔ ∃ y, w = number y ∧ x == y := by
  cases w <;> simp

theorem strict_array_iff {vs : List Value} :
    Strict (array vs) w ↔ ∃ ws, w = array ws ∧ List.Forall₂ Strict vs ws := by
  cases w <;> simp [strictEqualItems_iff]

theorem strict_object_iff {ms : Table Json} :
    Strict (object ms) w ↔ ∃ ls, w = object ls ∧ List.Forall₂ Json.SameMember ms ls := by
  cases w <;> simp [Json.sameMembers_iff]

theorem strict_pattern_iff {p : Pattern} :
    Strict (pattern p) w ↔ ∃ q, w = pattern q ∧ p.identical q := by
  cases w <;> simp

/-! ## The laws of strict equality -/

theorem holdsNaN_pattern_iff {p : Pattern} : (pattern p).HoldsNaN ↔ False :=
  iff_false_intro nofun

theorem equivAt_identical (p : Pattern) :
    EquivAt (fun p q : Pattern ↦ p.identical q) (fun _ ↦ False) p :=
  .of_key (fun p ↦ ((p.source, p.flags), p.site))
    (by simp [Pattern.identical, Pattern.same, Prod.ext_iff])

mutual

/-- Strict equality is symmetric and transitive, and a value is strictly equal to itself unless it
holds NaN. -/
theorem equivAt_strict : ∀ v : Value, EquivAt Strict HoldsNaN v
  | undefined => .of_eq strict_undefined_iff nofun
  | null => .of_eq strict_null_iff nofun
  | bool _ => .of_eq strict_bool_iff nofun
  | string _ => .of_eq strict_string_iff nofun
  | number x => (Binary64.equivAt x).map @number.inj strict_number_iff holdsNaN_number_iff
  | array items => (EquivAt.forall₂ (equivAt_strict_items items)).map @array.inj strict_array_iff
      holdsNaN_array_iff
  | object members => (EquivAt.forall₂ (Json.equivAt_members members)).map @object.inj
      strict_object_iff holdsNaN_object_iff
  | pattern p => (equivAt_identical p).map @pattern.inj strict_pattern_iff holdsNaN_pattern_iff

theorem equivAt_strict_items : ∀ (items : List Value), ∀ v ∈ items, EquivAt Strict HoldsNaN v
  | [] => List.forall_mem_nil _
  | v :: rest => List.forall_mem_cons.mpr ⟨equivAt_strict v, equivAt_strict_items rest⟩

end

/-! ## Structural equality, form by form -/

def Same (v w : Value) : Prop := v.same w

/-- Values that structural equality alone takes as equal: two NaN, and two patterns that say the
same and were made at different places. -/
inductive Loose : Value → Value → Prop where
  | nan {x y : Float} (hx : x.isNaN) (hy : y.isNaN) : Loose (number x) (number y)
  | pattern {p q : Pattern} (h : p.same q) (hsite : p.site ≠ q.site) :
      Loose (pattern p) (pattern q)

theorem same_number_iff {x : Float} :
    Same (number x) w ↔ ∃ y, w = number y ∧ Binary64.point? x = Binary64.point? y := by
  cases w <;> simp [Same, same, ← Binary64.beq_or_isNaN_iff]

theorem same_pattern_iff {p : Pattern} : Same (pattern p) w ↔ ∃ q, w = pattern q ∧ p.same q := by
  cases w <;> simp [Same, same]

/-- Structural equality takes strictly equal values as equal, and the loose ones. -/
theorem same_iff {v : Value} : Same v w ↔ Strict v w ∨ Loose v w := by
  unfold Same
  fun_cases same v w with
  | case1 x y =>
    have hloose : Loose (number x) (number y) ↔ x.isNaN ∧ y.isNaN :=
      ⟨fun | .nan hx hy => ⟨hx, hy⟩, fun ⟨hx, hy⟩ ↦ .nan hx hy⟩
    rw [Bool.or_eq_true, Bool.and_eq_true, hloose]
    rfl
  | case2 p q =>
    have hloose : Loose (pattern p) (pattern q) ↔ p.same q ∧ p.site ≠ q.site :=
      ⟨fun | .pattern h hsite => ⟨h, hsite⟩, fun ⟨h, hsite⟩ ↦ .pattern h hsite⟩
    rw [hloose]
    simp only [Strict, strictEquals, Pattern.identical, Bool.and_eq_true, beq_iff_eq]
    tauto
  | case3 v w hnumber hpattern =>
    refine (or_iff_left ?_).symm
    rintro (⟨-, -⟩ | ⟨-, -⟩)
    · exact hnumber _ _ rfl rfl
    · exact hpattern _ _ rfl rfl

/-- What is added for loose equality is never strict equality. -/
theorem Loose.not_strict {v : Value} (h : Loose v w) : ¬ Strict v w := by
  intro hstrict
  cases h with
  | nan hx _ =>
    -- A number that equals any number equals itself.
    have hbeq := Binary64.beq_trans hstrict (Binary64.beq_symm hstrict)
    exact Binary64.beq_self_iff.mp hbeq hx
  | pattern _ hsite =>
    obtain ⟨_, hq, hidentical⟩ := strict_pattern_iff.mp hstrict
    obtain rfl := pattern.inj hq
    exact hsite (eq_of_beq (Bool.and_eq_true_iff.mp hidentical).2)

/-- Of two equal values, strict equality tells just the loose ones apart. -/
theorem Same.strict_iff {v : Value} (h : Same v w) : Strict v w ↔ ¬ Loose v w :=
  ⟨fun hstrict hloose ↦ hloose.not_strict hstrict, (same_iff.mp h).resolve_right⟩

/-! ## The laws of structural equality -/

theorem equivAt_same_pattern (p : Pattern) :
    EquivAt (fun p q : Pattern ↦ p.same q) (fun _ ↦ False) p :=
  .of_key (fun p ↦ (p.source, p.flags)) (by simp [Pattern.same])

/-- A value that differs from itself: it holds NaN, but not at the top. -/
def Divided (v : Value) : Prop := v.HoldsNaN ∧ ∀ x, v ≠ number x

/-- Structural equality is symmetric and transitive, and a value equals itself unless it holds NaN
below the top. -/
theorem equivAt_same : ∀ v : Value, EquivAt Same Divided v
  | undefined => .of_eq strict_undefined_iff nofun
  | null => .of_eq strict_null_iff nofun
  | bool _ => .of_eq strict_bool_iff nofun
  | string _ => .of_eq strict_string_iff nofun
  | number _ => (EquivAt.of_key Binary64.point? Iff.rfl).map @number.inj same_number_iff
      (by simp [Divided])
  -- The items are compared strictly, so that the laws they have are those of strict equality.
  | array items => (EquivAt.forall₂ (equivAt_strict_items items)).map @array.inj strict_array_iff
      (by simp [Divided, holdsNaN_array_iff])
  | object members => (EquivAt.forall₂ (Json.equivAt_members members)).map @object.inj
      strict_object_iff (by simp [Divided, holdsNaN_object_iff])
  | pattern p => (equivAt_same_pattern p).map @pattern.inj same_pattern_iff
      (by simp [Divided, holdsNaN_pattern_iff])

/-- Arrays of equal items are equal if strict equality tells no two of them apart. -/
theorem same_array_iff_of_forall₂ {vs ws : List Value} (h : List.Forall₂ Same vs ws) :
    Same (array vs) (array ws) ↔ List.Forall₂ (fun v w ↦ ¬ Loose v w) vs ws := by
  calc Same (array vs) (array ws)
    _ ↔ List.Forall₂ Strict vs ws := strictEqualItems_iff
    _ ↔ List.Forall₂ (fun v w ↦ ¬ Loose v w) vs ws := by
      induction h with
      | nil => simp
      | cons hvw _ ih =>
        rw [List.forall₂_cons, List.forall₂_cons]
        exact and_congr hvw.strict_iff ih

/-- Structural equality is symmetric and transitive and extends strict equality. It is reflexive on
numbers and on values that hold no NaN, and on no others, and it passes from the items of arrays to
the arrays if it holds of no two items loosely. -/
theorem same_laws (u v w : Value) (us vs : List Value) :
    (u.same u ↔ (∃ x, u = number x) ∨ ¬ u.HoldsNaN) ∧
    (u.same v → v.same u) ∧
    (u.same v → v.same w → u.same w) ∧
    (u.strictEquals v → u.same v) ∧
    (List.Forall₂ (fun a b ↦ a.same b) us vs →
      ((array us).same (array vs) ↔ List.Forall₂ (fun a b ↦ ¬ Loose a b) us vs)) := by
  have hself : u.same u ↔ (∃ x, u = number x) ∨ ¬ u.HoldsNaN :=
    calc Same u u
      _ ↔ ¬ Divided u := (equivAt_same u).self
      _ ↔ (∃ x, u = number x) ∨ ¬ u.HoldsNaN := by
        rw [Divided, not_and_or, not_forall_not, or_comm]
  exact ⟨hself, (equivAt_same u).symm, (equivAt_same u).trans, fun h ↦ same_iff.mpr (.inl h),
    same_array_iff_of_forall₂⟩

/-- Arrays of zeros of either sign, next to an item that is an array. -/
theorem same_laws_zeros :
    let us := [number 0.0, array [string "a"]]
    let vs := [number (-0.0), array [string "a"]]
    List.Forall₂ (fun a b ↦ a.same b) us vs ∧ (array us).same (array vs) ∧
      (array vs).same (array us) := by
  intro us vs
  have hitems : List.Forall₂ (fun a b ↦ a.same b) us vs := .cons rfl (.cons rfl .nil)
  have htight : List.Forall₂ (fun a b ↦ ¬ Loose a b) us vs :=
    .cons (fun | .nan hx _ => absurd hx (by decide)) (.cons nofun .nil)
  obtain ⟨-, hsymm, -, -, hitemwise⟩ := same_laws (array us) (array vs) (array us) us vs
  have hsame := (hitemwise hitems).mpr htight
  exact ⟨hitems, hsame, hsymm hsame⟩

/-- NaN equals itself and an array of NaN does not; nor do arrays of patterns that are equal and
were made at different places. -/
theorem not_same_of_loose_items :
    let nan := number Binary64.nan
    let p := pattern ⟨"a", "", .empty, [0]⟩
    let q := pattern ⟨"a", "", .empty, [1]⟩
    nan.same nan ∧ ¬ (array [nan]).same (array [nan]) ∧
      p.same q ∧ ¬ (array [p]).same (array [q]) := by decide

end MapStyle.Value
