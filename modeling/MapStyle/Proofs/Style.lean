import MapStyle.Proofs.Json.Record
import MapStyle.Style

/-!
# The forms of styles

How a field is styled is told from the form of a value: an expression is tried first, a container
next, and what is neither is written out. Each form is stated here by itself, so that nothing else
needs to follow the order in which they are tried. A style that was read is written in a form that
no earlier one claims, and is read back from it.
-/

namespace MapStyle

/-! ## One form after the other -/

namespace StyleExpression

/-- An object without conditions is no expression. -/
theorem ofJson?_object_of_get? {members : List (String × Json)}
    (h : Table.get? members "conditions" = none) : ofJson? (.object members) = none := by
  simp [ofJson?, Json.fields?, Json.required, h]

/-- An array of any number of items but one is no expression. -/
theorem ofJson?_array {items : List Json} (h : ∀ item, items ≠ [item]) :
    ofJson? (.array items) = none := by
  match items with
  | [] => rfl
  | [item] => exact absurd rfl (h item)
  | _ :: _ :: _ => simp [ofJson?, Json.fields?]

end StyleExpression

namespace FieldStyle

theorem ofJson_of_expression {v : Json} {e : StyleExpression}
    (h : StyleExpression.ofJson? v = some e) : ofJson v = .expression e := by
  unfold ofJson
  simp [h]

/-- A container takes the style that stands under its one field. -/
theorem ofJson_object_of_some {members : List (String × Json)} {inner : Json}
    (h : StyleExpression.ofJson? (.object members) = none)
    (hinner : Table.get? members "expression" = some inner) :
    ofJson (.object members) = .container (ofJson inner) := by
  rw [ofJson.eq_def]
  dsimp only
  rw [h]
  dsimp only
  split
  · simp_all
  · simp_all

/-- An object without the fields of an expression is a literal. -/
theorem ofJson_object_of_none {members : List (String × Json)}
    (h : StyleExpression.ofJson? (.object members) = none)
    (hinner : Table.get? members "expression" = none) :
    ofJson (.object members) = .literal (.object members) := by
  rw [ofJson.eq_def]
  dsimp only
  rw [h]
  dsimp only
  split
  · simp_all
  · rfl

theorem ofJson_array_singleton {item : Json}
    (h : StyleExpression.ofJson? (.array [item]) = none) :
    ofJson (.array [item]) = .container (ofJson item) := by
  rw [ofJson.eq_def]
  dsimp only
  rw [h]

/-- What is neither an object nor an array of one item is a literal, unless it is an expression. -/
theorem ofJson_of_literal {v : Json} (h : StyleExpression.ofJson? v = none)
    (hobject : ∀ members, v ≠ .object members) (harray : ∀ item, v ≠ .array [item]) :
    ofJson v = .literal v := by
  rw [ofJson.eq_def]
  dsimp only
  rw [h]
  dsimp only
  split
  · exact absurd rfl (hobject _)
  · exact absurd rfl (harray _)
  · rfl

end FieldStyle

/-! ## Styles that were read -/

open Json (Holding)

variable {hold : Json → Json} (hhold : Holding hold)

include hhold

/-- Every expression is read back. -/
theorem StyleExpression.ofJson?_hold (e : StyleExpression) : ofJson? (hold e.toJson) = some e := by
  cases e with
  | source s =>
    rw [toJson, hhold.string]
    rfl
  | conditions cases =>
    have hpair (p : String × String) :
        pair? (hold (.array [.string p.1, .string p.2])) = some p := by
      simp [hhold.array, hhold.string, pair?]
    have hlist : Json.listOf pair?
        (hold (.array (cases.map fun p ↦ .array [.string p.1, .string p.2]))) = some cases := by
      rw [hhold.array, List.map_map]
      exact Json.listOf_array_map fun p _ ↦ hpair p
    obtain ⟨held, hheld, hget⟩ := hhold.record
      [("conditions", .array (cases.map fun p ↦ .array [.string p.1, .string p.2]))] (by simp)
    have hconditions := Json.required_of_get? (hget "conditions") hlist
    rw [toJson, hheld]
    simp [ofJson?, Json.fields?, hconditions]

omit hhold in
/-- What was read of a value whose objects are tables: a value in it that is written out is such a
value, and has no other form. -/
def FieldStyle.Readable : FieldStyle → Prop
  | expression _ => True
  | container inner => inner.Readable
  | literal v => v.Tabled ∧ ofJson v = literal v

omit hhold in
/-- Every value is read as a style that is read back, by the recursion of the reader. -/
theorem FieldStyle.readable_ofJson {v : Json} (h : v.Tabled) : (ofJson v).Readable := by
  induction v using ofJson.induct with
  | case1 v e he =>
    rw [ofJson_of_expression he]
    trivial
  | case2 members inner hinner hsize he ih =>
    rw [ofJson_object_of_some he hinner]
    exact ih (h.of_get? hinner)
  | case3 members hinner he =>
    have hliteral := ofJson_object_of_none he hinner
    rw [hliteral]
    exact ⟨h, hliteral⟩
  | case4 inner he ih =>
    rw [ofJson_array_singleton he]
    exact ih (Json.tabled_array_iff.mp h _ List.mem_cons_self)
  | case5 v hobject harray he =>
    have hliteral := ofJson_of_literal he (fun _ ↦ hobject _) (fun _ ↦ harray _)
    rw [hliteral]
    exact ⟨h, hliteral⟩

/-- A style that was read is read back. -/
theorem FieldStyle.ofJson_hold {s : FieldStyle} (h : s.Readable) : ofJson (hold s.toJson) = s := by
  induction s with
  | expression e => exact ofJson_of_expression (StyleExpression.ofJson?_hold hhold e)
  | container inner ih =>
    obtain ⟨held, hheld, hget⟩ := hhold.record [("expression", inner.toJson)] (by simp)
    rw [toJson, hheld, ofJson_object_of_some (StyleExpression.ofJson?_object_of_get?
      (hget "conditions")) (hget "expression"), ih h]
  | literal v => rw [toJson, hhold.eq_of_tabled h.1, h.2]

omit hhold in
/-- What was read of a category. -/
structure FieldStyle.TableReadable (t : CategoryStyle) : Prop where
  ordered : Table.Ordered t
  readable : ∀ e ∈ t, e.2.Readable

omit hhold in
theorem FieldStyle.tableReadable_of_tableOfJson? {v : Json} {t : CategoryStyle} (h : v.Tabled)
    (ht : tableOfJson? v = some t) : TableReadable t := by
  obtain ⟨hordered, hread⟩ := h.of_tableOf ht
  refine ⟨hordered, fun e he ↦ ?_⟩
  obtain ⟨w, hw, heq⟩ := hread e he
  exact Option.some.inj heq ▸ readable_ofJson hw

theorem FieldStyle.tableOfJson?_hold {t : CategoryStyle} (h : TableReadable t) :
    tableOfJson? (hold (tableToJson t)) = some t :=
  hhold.tableOf_hold h.ordered fun e he ↦ congrArg some (ofJson_hold hhold (h.readable e he))

end MapStyle
