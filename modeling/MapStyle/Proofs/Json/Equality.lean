import MapStyle.Json.Basic
import MapStyle.Proofs.Binary64
import Mathlib.Data.List.Forall2

/-!
# Equality of JSON values

Equality is symmetric and transitive, and a value equals itself unless it holds NaN at some depth.
All three are said of a relation at one element: so they pass from the items of a list to the list,
and from what a value is made of to the value.
-/

namespace MapStyle

universe u v

/-- At `a` the relation is symmetric and transitive, and `a` is related to itself unless it is
odd. -/
structure EquivAt {α : Type u} (r : α → α → Prop) (odd : α → Prop) (a : α) : Prop where
  symm {b : α} : r a b → r b a
  trans {b c : α} : r a b → r b c → r a c
  self : r a a ↔ ¬ odd a

namespace EquivAt

variable {α : Type u} {β : Type v} {r : α → α → Prop} {s : β → β → Prop} {odd : α → Prop}
  {strange : β → Prop} {a : α} {b : β}

/-- An element that is related to itself alone. -/
theorem of_eq (hr : ∀ {c}, r a c ↔ c = a) (hodd : ¬ odd a) : EquivAt r odd a where
  symm h := by
    obtain rfl := hr.mp h
    exact h
  trans h h' := by
    obtain rfl := hr.mp h
    exact h'
  self := iff_of_true (hr.mpr rfl) hodd

/-- An element that is related to all that agree with it in one thing. -/
theorem of_key {κ : Type v} (key : α → κ) (hr : ∀ {c d}, r c d ↔ key c = key d) :
    EquivAt r (fun _ ↦ False) a where
  symm h := hr.mpr (hr.mp h).symm
  trans h h' := hr.mpr ((hr.mp h).trans (hr.mp h'))
  self := iff_of_true (hr.mpr rfl) not_false

/-- An element that is made of another, where the relation is that of the others. -/
theorem map {f : β → α} (hf : Function.Injective f)
    (hr : ∀ {c a}, r (f c) a ↔ ∃ d, a = f d ∧ s c d) (hodd : odd (f b) ↔ strange b)
    (h : EquivAt s strange b) : EquivAt r odd (f b) where
  symm hab := by
    obtain ⟨d, rfl, hd⟩ := hr.mp hab
    exact hr.mpr ⟨b, rfl, h.symm hd⟩
  trans hab hbc := by
    obtain ⟨d, rfl, hd⟩ := hr.mp hab
    obtain ⟨e, rfl, he⟩ := hr.mp hbc
    exact hr.mpr ⟨e, rfl, h.trans hd he⟩
  self :=
    calc r (f b) (f b)
      _ ↔ s b b := hr.trans ⟨fun ⟨_, hd, hs⟩ ↦ hf hd ▸ hs, fun hs ↦ ⟨b, rfl, hs⟩⟩
      _ ↔ ¬ strange b := h.self
      _ ↔ ¬ odd (f b) := not_congr hodd.symm

/-- Lists are related item by item, and a list is odd if an item is. -/
theorem forall₂ {as : List α} (h : ∀ a ∈ as, EquivAt r odd a) :
    EquivAt (List.Forall₂ r) (fun l ↦ ∃ a ∈ l, odd a) as where
  symm hbs := by
    induction hbs with
    | nil => exact .nil
    | cons hab _ ih =>
      obtain ⟨ha, has⟩ := List.forall_mem_cons.mp h
      exact .cons (ha.symm hab) (ih has)
  trans {bs cs} hbs hcs := by
    induction hbs generalizing cs with
    | nil => exact hcs
    | cons hab _ ih =>
      obtain ⟨ha, has⟩ := List.forall_mem_cons.mp h
      cases hcs with
      | cons hbc hcs => exact .cons (ha.trans hab hbc) (ih has hcs)
  self := by
    rw [List.forall₂_same]
    push Not
    exact forall₂_congr fun a ha ↦ (h a ha).self

end EquivAt

theorem Binary64.equivAt (x : Float) : EquivAt (fun y z : Float ↦ y == z) (Float.isNaN ·) x where
  symm := beq_symm
  trans := beq_trans
  self := beq_self_iff

namespace Json

/-! ## NaN within a value -/

def Number.isNaN : Number → Bool
  | .int _ => false
  | .float x => x.isNaN

/-- NaN occurs in the value, at some depth. -/
inductive HoldsNaN : Json → Prop where
  | number {n : Number} (h : n.isNaN) : HoldsNaN (number n)
  | array {items : List Json} {v : Json} (hv : v ∈ items) (h : HoldsNaN v) : HoldsNaN (array items)
  | object {members : List (String × Json)} {m : String × Json} (hm : m ∈ members)
      (h : HoldsNaN m.2) : HoldsNaN (object members)

theorem holdsNaN_number_iff {n : Number} : (number n).HoldsNaN ↔ n.isNaN :=
  ⟨fun | .number h => h, .number⟩

theorem holdsNaN_array_iff {items : List Json} :
    (array items).HoldsNaN ↔ ∃ v ∈ items, v.HoldsNaN :=
  ⟨fun | .array hv h => ⟨_, hv, h⟩, fun ⟨_, hv, h⟩ ↦ .array hv h⟩

theorem holdsNaN_object_iff {members : List (String × Json)} :
    (object members).HoldsNaN ↔ ∃ m ∈ members, m.2.HoldsNaN :=
  ⟨fun | .object hm h => ⟨_, hm, h⟩, fun ⟨_, hm, h⟩ ↦ .object hm h⟩

/-! ## Equality, form by form -/

def Same (v w : Json) : Prop := v.same w

/-- Members with one key and equal values. -/
def SameMember (m l : String × Json) : Prop := m.1 = l.1 ∧ Same m.2 l.2

attribute [local simp] Same same sameItems sameMembers

theorem sameItems_iff {vs ws : List Json} : sameItems vs ws ↔ List.Forall₂ Same vs ws := by
  induction vs generalizing ws with
  | nil => cases ws <;> simp
  | cons v vs ih => cases ws <;> simp [ih]

theorem sameMembers_iff {ms ls : List (String × Json)} :
    sameMembers ms ls ↔ List.Forall₂ SameMember ms ls := by
  induction ms generalizing ls with
  | nil => cases ls <;> simp
  | cons m ms ih => cases ls <;> simp [SameMember, ih]

variable {w : Json}

theorem same_null_iff : Same null w ↔ w = null := by cases w <;> simp

theorem same_bool_iff {b : Bool} : Same (bool b) w ↔ w = bool b := by
  cases w <;> simp [@eq_comm _ b]

theorem same_string_iff {s : String} : Same (string s) w ↔ w = string s := by
  cases w <;> simp [@eq_comm _ s]

theorem same_number_iff {m : Number} : Same (number m) w ↔ ∃ n, w = number n ∧ m.same n := by
  cases w <;> simp

theorem same_array_iff {vs : List Json} :
    Same (array vs) w ↔ ∃ ws, w = array ws ∧ List.Forall₂ Same vs ws := by
  cases w <;> simp [sameItems_iff]

theorem same_object_iff {ms : List (String × Json)} :
    Same (object ms) w ↔ ∃ ls, w = object ls ∧ List.Forall₂ SameMember ms ls := by
  cases w <;> simp [sameMembers_iff]

/-! ## The laws -/

/-- Numbers are the same as themselves unless they are NaN, and then they are the same as nothing.
-/
theorem Number.equivAt (n : Number) : EquivAt (Number.same · ·) (Number.isNaN ·) n := by
  cases n with
  | int m =>
    have hsame {c : Number} : (int m).same c ↔ c = int m := by
      cases c <;> simp [Number.same, @eq_comm _ m]
    exact .of_eq hsame nofun
  | float x =>
    have hsame {y : Float} {c : Number} : (float y).same c ↔ ∃ z, c = float z ∧ y == z := by
      cases c <;> simp [Number.same]
    exact (Binary64.equivAt x).map @float.inj hsame Iff.rfl

theorem SameMember.equivAt {m : String × Json} (h : EquivAt Same HoldsNaN m.2) :
    EquivAt SameMember (HoldsNaN ·.2) m where
  symm hl := ⟨hl.1.symm, h.symm hl.2⟩
  trans hl hk := ⟨hl.1.trans hk.1, h.trans hl.2 hk.2⟩
  self := (and_iff_right rfl).trans h.self

mutual

/-- Equality is symmetric and transitive, and a value equals itself unless it holds NaN. -/
theorem equivAt : ∀ v : Json, EquivAt Same HoldsNaN v
  | null => .of_eq same_null_iff nofun
  | bool _ => .of_eq same_bool_iff nofun
  | string _ => .of_eq same_string_iff nofun
  | number n => n.equivAt.map @number.inj same_number_iff holdsNaN_number_iff
  | array items => (EquivAt.forall₂ (equivAt_items items)).map @array.inj same_array_iff
      holdsNaN_array_iff
  | object members => (EquivAt.forall₂ (equivAt_members members)).map @object.inj
      same_object_iff holdsNaN_object_iff

theorem equivAt_items : ∀ (items : List Json), ∀ v ∈ items, EquivAt Same HoldsNaN v
  | [] => List.forall_mem_nil _
  | v :: rest => List.forall_mem_cons.mpr ⟨equivAt v, equivAt_items rest⟩

theorem equivAt_members : ∀ (members : List (String × Json)), ∀ m ∈ members,
    EquivAt SameMember (HoldsNaN ·.2) m
  | [] => List.forall_mem_nil _
  | (_, v) :: rest =>
    List.forall_mem_cons.mpr ⟨SameMember.equivAt (equivAt v), equivAt_members rest⟩

end

end Json

end MapStyle
