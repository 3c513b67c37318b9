import MapStyle.Proofs.Style
import MapStyle.Styling.Memo

/-!
# Values that are written out

A value that is no text, and no object with one of the members that style a field, is meant to be
written out. Every such value comes back as it is, whatever is remembered, except an array of one
item: it is read as the record of a single field, so that its item counts in its place.
-/

namespace MapStyle

/-- A value that is no text, and as an object has none of the members that style a field. -/
def Json.Bare : Json → Prop
  | .string _ => False
  | .object members =>
    Table.get? members "expression" = none ∧ Table.get? members "conditions" = none
  | _ => True

namespace FieldStyle

/-- A bare value is written out unless it is an array of one item. -/
theorem ofJson_eq_literal {v : Json} (hv : v.Bare) (h : ∀ item, v ≠ .array [item]) :
    ofJson v = .literal v := by
  cases v with
  | string s => exact hv.elim
  | object members => exact ofJson_object_of_none (StyleExpression.ofJson?_object_of_get? hv.2) hv.1
  | array items =>
    have hitems : ∀ item, items ≠ [item] := fun item hitem ↦ h item (congrArg Json.array hitem)
    exact ofJson_of_literal (StyleExpression.ofJson?_array hitems) nofun h
  | _ => exact ofJson_of_literal rfl nofun nofun

/-- What is written out is part of what was read. -/
theorem sizeOf_le_of_literal?_ofJson {v w : Json} (h : (ofJson v).literal? = some w) :
    sizeOf w ≤ sizeOf v := by
  induction v using ofJson.induct generalizing w with
  | case1 v e he =>
    rw [ofJson_of_expression he] at h
    cases h
  | case2 members inner hinner hsize he ih =>
    rw [ofJson_object_of_some he hinner] at h
    have hle := ih h
    simp only [Json.object.sizeOf_spec]
    omega
  | case3 members hinner he =>
    rw [ofJson_object_of_none he hinner] at h
    cases h
    exact Nat.le_refl _
  | case4 item he ih =>
    rw [ofJson_array_singleton he] at h
    have hle := ih h
    simp only [Json.array.sizeOf_spec, List.cons.sizeOf_spec]
    omega
  | case5 v hobject harray he =>
    rw [ofJson_of_literal he (fun _ ↦ hobject _) (fun _ ↦ harray _)] at h
    cases h
    exact Nat.le_refl _

/-- An array of one item is never written out. -/
theorem literal?_ofJson_array_singleton_ne (item : Json) :
    (ofJson (.array [item])).literal? ≠ some (.array [item]) := by
  intro h
  cases he : StyleExpression.ofJson? (.array [item]) with
  | some e =>
    rw [ofJson_of_expression he] at h
    cases h
  | none =>
    rw [ofJson_array_singleton he] at h
    -- What is written out is part of the item, and so smaller than the array.
    have hle : sizeOf (Json.array [item]) ≤ sizeOf item := sizeOf_le_of_literal?_ofJson h
    simp only [Json.array.sizeOf_spec, List.cons.sizeOf_spec] at hle
    omega

end FieldStyle

namespace Memo

open FieldStyle

/-- A bare value comes back as it is, and nothing is remembered, unless it is an array of one
item. -/
theorem evalField_eq_of_bare {v : Json} (hv : v.Bare) (h : ∀ item, v ≠ .array [item])
    (scope : Scope) (defines : Option (Table String)) (memo : Memo) :
    (evalField scope defines (ofJson v)).run memo = (some v, memo) := by
  rw [ofJson_eq_literal hv h]
  rfl

/-- A bare value comes back exactly if it is no array of one item, or else is read as an expression
that happens to have it as its value. -/
theorem evalField_eq_bare_iff {v : Json} (hv : v.Bare) (scope : Scope)
    (defines : Option (Table String)) (memo : Memo) :
    ((evalField scope defines (ofJson v)).run memo).1 = some v ↔
      (∀ item, v ≠ .array [item]) ∨
        ∃ e, (ofJson v).expression? = some e ∧
          ((evalRemembered scope defines e).run memo).1 = some v := by
  by_cases hitem : ∃ item, v = .array [item]
  · obtain ⟨item, rfl⟩ := hitem
    cases he : (ofJson (.array [item])).expression? with
    | some e =>
      have hfield : evalField scope defines (ofJson (.array [item]))
          = evalRemembered scope defines e := by
        rw [evalField, he]
      simp [hfield]
    | none =>
      have hvalue : ((evalField scope defines (ofJson (.array [item]))).run memo).1
          = (ofJson (.array [item])).literal? := by
        rw [evalField, he]
        rfl
      simp [hvalue, literal?_ofJson_array_singleton_ne]
  · have hother : ∀ item, v ≠ .array [item] := fun item h ↦ hitem ⟨item, h⟩
    simp [evalField_eq_of_bare hv hother, hother]

/-- An array of two items comes back, also if one of them is an array of one item. -/
theorem evalField_pair_eq : (Json.array [.array [.bool true], .null]).Bare ∧
    ((evalField { id := none, properties := [] } none
      (ofJson (.array [.array [.bool true], .null]))).run (Memo.empty {})).1
      = some (.array [.array [.bool true], .null]) :=
  have hbare : (Json.array [.array [.bool true], .null]).Bare := trivial
  ⟨hbare, (evalField_eq_bare_iff hbare _ _ _).mpr (.inl nofun)⟩

/-- Of an array of one item the item comes back. -/
theorem evalField_singleton_ne : (Json.array [.bool true]).Bare ∧
    ((evalField { id := none, properties := [] } none (ofJson (.array [.bool true]))).run
      (Memo.empty {})).1 = some (.bool true) ∧
    (some (.bool true) : Option Json) ≠ some (.array [.bool true]) := by
  refine ⟨trivial, ?_, nofun⟩
  have hitem : ofJson (.bool true) = .literal (.bool true) := ofJson_of_literal rfl nofun nofun
  rw [ofJson_array_singleton rfl, hitem]
  rfl

end Memo

end MapStyle
