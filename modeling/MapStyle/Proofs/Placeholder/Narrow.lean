import Mathlib.Data.List.TakeWhile
import MapStyle.Expr.Scope
import MapStyle.Placeholder.Narrow

/-!
# Narrowed properties

The properties that are kept for a list of references resolve each of the references as all
properties do. A reference is looked up under its own name, and where there is no such property
under the name before its first point; both lookups find in the kept properties what they find in
all of them.
-/

namespace MapStyle

/-! ## Names with points -/

/-- A name holds no point, or a point comes behind what stands before the first one. -/
theorem no_point_or_dropWhile_eq_cons (name : List Char) :
    (∀ c ∈ name, (c == '.') = false) ∨ ∃ rest, name.dropWhile (· != '.') = '.' :: rest := by
  induction name with
  | nil => exact .inl (by simp)
  | cons c name ih =>
    by_cases hc : c = '.'
    · exact .inr ⟨name, by simp [hc]⟩
    · rcases ih with hname | ⟨rest, hrest⟩
      · exact .inl (by simpa [hc] using hname)
      · exact .inr ⟨rest, by simpa [hc] using hrest⟩

/-- The first of several parts of a name is the name before its first point. -/
theorem head?_of_parts {name head next : String} {rest : List String}
    (h : Scope.parts name = head :: next :: rest) : Placeholder.head? name = some head := by
  unfold Scope.parts at h
  rcases no_point_or_dropWhile_eq_cons name.toList with hname | ⟨after, hafter⟩
  · rw [List.splitOnP_eq_singleton hname] at h
    simp at h
  · have hfront : ∀ c ∈ name.toList.takeWhile (· != '.'), (c == '.') = false := by
      intro c hc
      simpa using List.mem_takeWhile_imp hc
    rw [← List.takeWhile_append_dropWhile (p := (· != '.')) (l := name.toList), hafter,
      List.splitOnP_append_cons_of_forall_mem hfront '.' rfl, List.map_cons, List.cons.injEq] at h
    rw [Placeholder.head?, hafter, ← h.1]

namespace Placeholder

/-! ## Keeping references -/

/-- Every entry of a table is an entry of the properties. -/
def Part (kept properties : Table Json) : Prop :=
  ∀ ⦃key v⦄, Table.get? kept key = some v → Table.get? properties key = some v

variable {id reference key : String} {properties kept : Table Json}

/-- An entry of the properties may be added, in whatever place. -/
theorem Part.insert {v : Json} (h : Part kept properties)
    (hv : Table.get? properties reference = some v) :
    Part (kept.insert reference v) properties := by
  intro key w hw
  by_cases hkey : key = reference
  · rw [hkey, Table.get?_insert_self] at hw
    rw [hkey, hv, hw]
  · rw [Table.get?_insert_of_ne _ _ hkey] at hw
    exact h hw

/-- A reference keeps one property or none. -/
theorem keep_cases (hmark : reference ≠ identifierMark) (id : String)
    (properties kept : Table Json) :
    keep id properties kept reference = kept ∨
      ∃ key v, Table.get? properties key = some v ∧
        keep id properties kept reference = kept.insert key v := by
  rw [keep, if_neg hmark]
  split
  · rename_i v hv
    exact .inr ⟨reference, v, hv, rfl⟩
  · split
    · exact .inl rfl
    · rename_i head hhead
      split
      · rename_i v hv
        exact .inr ⟨head, v, hv, rfl⟩
      · exact .inl rfl

theorem Part.keep (h : Part kept properties) (hmark : reference ≠ identifierMark) :
    Part (keep id properties kept reference) properties := by
  rcases keep_cases hmark id properties kept with heq | ⟨key, v, hv, heq⟩
  · rwa [heq]
  · rw [heq]
    exact h.insert hv

/-- What is kept under a key stays. -/
theorem get?_keep (hmark : reference ≠ identifierMark)
    (h : Table.get? kept key = Table.get? properties key) :
    Table.get? (keep id properties kept reference) key = Table.get? properties key := by
  rcases keep_cases hmark id properties kept with heq | ⟨other, v, hv, heq⟩
  · rw [heq, h]
  · rw [heq]
    by_cases hkey : key = other
    · rw [hkey, Table.get?_insert_self, hv]
    · rw [Table.get?_insert_of_ne _ _ hkey, h]

/-- What is kept for a reference is what the properties have under its name. -/
theorem get?_keep_self (h : Part kept properties) (hmark : reference ≠ identifierMark) :
    Table.get? (keep id properties kept reference) reference
      = Table.get? properties reference := by
  cases hv : Table.get? properties reference with
  | some v => simp [keep, hmark, hv]
  | none =>
    cases hkept : Table.get? (keep id properties kept reference) reference with
    | none => rfl
    | some v => rw [h.keep hmark hkept] at hv; contradiction

/-- A reference that is no property itself keeps the property before its first point. -/
theorem get?_keep_head {head : String} (h : Part kept properties)
    (hmark : reference ≠ identifierMark)
    (hnone : Table.get? properties reference = none) (hhead : head? reference = some head) :
    Table.get? (keep id properties kept reference) head = Table.get? properties head := by
  cases hv : Table.get? properties head with
  | some v => simp [keep, hmark, hnone, hhead, hv]
  | none =>
    cases hkept : Table.get? (keep id properties kept reference) head with
    | none => rfl
    | some v => rw [h.keep hmark hkept] at hv; contradiction

/-! ## Narrowing to references -/

theorem part_foldl_keep {references : List String} (hmark : identifierMark ∉ references)
    (h : Part kept properties) :
    Part (references.foldl (Placeholder.keep id properties) kept) properties := by
  induction references generalizing kept with
  | nil => exact h
  | cons reference references ih =>
    rw [List.mem_cons, not_or] at hmark
    exact ih hmark.2 (h.keep (Ne.symm hmark.1))

/-- By induction over the references: an entry that is kept once stays. -/
theorem get?_foldl_keep {references : List String} (hmark : identifierMark ∉ references)
    (h : Table.get? kept key = Table.get? properties key) :
    Table.get? (references.foldl (Placeholder.keep id properties) kept) key
      = Table.get? properties key := by
  induction references generalizing kept with
  | nil => exact h
  | cons reference references ih =>
    rw [List.mem_cons, not_or] at hmark
    exact ih hmark.2 (get?_keep (Ne.symm hmark.1) h)

/-- A key that each table that keeps the reference has is a key of the narrowed properties. -/
theorem get?_narrow {references : List String} (hmark : identifierMark ∉ references)
    (hmem : reference ∈ references)
    (hkey : ∀ kept, Part kept properties →
      Table.get? (keep id properties kept reference) key = Table.get? properties key) :
    Table.get? (narrow references id properties) key = Table.get? properties key := by
  unfold narrow
  split
  · rfl
  · obtain ⟨before, after, rfl⟩ := List.append_of_mem hmem
    rw [List.foldl_append, List.foldl_cons]
    simp only [List.mem_append, List.mem_cons, not_or] at hmark
    refine get?_foldl_keep hmark.2.2 (hkey _ (part_foldl_keep hmark.1 ?_))
    intro key v hv
    contradiction

/-- A scope with the properties that references can read. -/
def narrowed (references : List String) (id : String) (scope : Scope) : Scope :=
  { scope with properties := narrow references id scope.properties }

/-- The narrowed properties resolve every reference as all properties do. -/
theorem resolve_narrowed {references : List String} (hmark : identifierMark ∉ references)
    (hmem : reference ∈ references) (id : String) (scope : Scope) :
    (narrowed references id scope).resolve reference = scope.resolve reference := by
  have hne : reference ≠ identifierMark := fun h ↦ hmark (h ▸ hmem)
  have hself : Table.get? (narrow references id scope.properties) reference
      = Table.get? scope.properties reference :=
    get?_narrow hmark hmem fun kept hkept ↦ get?_keep_self hkept hne
  rw [Scope.resolve, Scope.resolve, narrowed, hself]
  cases hv : Table.get? scope.properties reference with
  | some v => rfl
  | none =>
    have hdotted : (narrowed references id scope).dotted? reference = scope.dotted? reference := by
      unfold Scope.dotted? narrowed
      split
      · rename_i head next rest hparts
        rw [get?_narrow hmark hmem fun kept hkept ↦
          get?_keep_head hkept hne hv (head?_of_parts hparts)]
      · rfl
    rw [← hdotted]
    rfl

end Placeholder

end MapStyle
