import MapStyle.Source

/-!
# Parts of the store

Each change of the store concerns the part of one layer and its data. All other parts stay as they
are, and what becomes of the part itself depends on that part alone.
-/

namespace MapStyle

/-! ## Buckets -/

namespace Buckets

/-- The features of a fetch are all in the buckets that the fetch leaves. -/
theorem mem_all_replace {b : Buckets} {key : String} {features : List Feature} {f : Feature}
    (h : f ∈ features) : f ∈ (b.replace key features).all := by
  induction b with
  | nil => simpa [replace, update, all] using h
  | cons bucket rest ih =>
    rw [replace, update]
    split
    · exact List.mem_flatMap.mpr ⟨_, List.mem_cons_self, h⟩
    · obtain ⟨bucket', hbucket', hf⟩ := List.mem_flatMap.mp ih
      exact List.mem_flatMap.mpr ⟨bucket', List.mem_cons_of_mem _ hbucket', hf⟩

/-- What a fetch leaves was there before or is fetched. -/
theorem mem_of_mem_all_replace {b : Buckets} {key : String} {features : List Feature} {f : Feature}
    (h : f ∈ (b.replace key features).all) : f ∈ b.all ∨ f ∈ features := by
  induction b with
  | nil => exact .inr (by simpa [replace, update, all] using h)
  | cons bucket rest ih =>
    rw [replace, update] at h
    split at h
    · rcases List.mem_append.mp h with hnew | hrest
      · exact .inr hnew
      · exact .inl (List.mem_append_right _ hrest)
    · rcases List.mem_append.mp h with hbucket | hrest
      · exact .inl (List.mem_append_left _ hbucket)
      · exact (ih hrest).imp_left (List.mem_append_right _)

/-- A feature that is appended is in the buckets. -/
theorem mem_all_append (b : Buckets) (f : Feature) : f ∈ (b.append f).all := by
  induction b with
  | nil => simp [append, update, all]
  | cons bucket rest ih =>
    rw [append, update]
    split
    · exact List.mem_flatMap.mpr ⟨_, List.mem_cons_self, List.mem_append_right _ List.mem_cons_self⟩
    · obtain ⟨bucket', hbucket', hf⟩ := List.mem_flatMap.mp ih
      exact List.mem_flatMap.mpr ⟨bucket', List.mem_cons_of_mem _ hbucket', hf⟩

@[simp] theorem delete_nil (b : Buckets) : b.delete [] = b := by
  have hkept (features : List Feature) : features.filter (fun _ ↦ true) = features :=
    List.filter_eq_self.mpr fun _ _ ↦ rfl
  simp [delete, hkept]

/-- Nothing is left of features that all have a deleted identifier. -/
theorem all_delete_eq_nil {b : Buckets} {ids : List String} (h : ∀ f ∈ b.all, f.id ∈ ids) :
    (b.delete ids).all = [] := by
  rw [List.eq_nil_iff_forall_not_mem]
  intro f hf
  obtain ⟨bucket', hbucket', hf⟩ := List.mem_flatMap.mp hf
  obtain ⟨bucket, hbucket, rfl⟩ := List.mem_map.mp hbucket'
  obtain ⟨hmem, hkept⟩ := List.mem_filter.mp hf
  have hid := h f (List.mem_flatMap.mpr ⟨bucket, hbucket, hmem⟩)
  simp [hid] at hkept

/-- The buckets that a first fetch leaves hold what it fetched. -/
@[simp] theorem all_singleton (key : String) (features : List Feature) :
    all [(key, features)] = features := by
  simp [all]

end Buckets

/-! ## Parts -/

namespace Store

/-- An update concerns one part, which is made if it is missing. -/
theorem lookup_updateParts (key other : StoreKey) (f : Buckets → Buckets)
    (parts : List (StoreKey × Buckets)) :
    (updateParts key f parts).lookup other
      = if other = key then some (f ((parts.lookup key).getD [])) else parts.lookup other := by
  induction parts with
  | nil =>
    by_cases h : other = key
    · simp [updateParts, h]
    · simp [updateParts, List.lookup_cons, h, beq_eq_false_iff_ne.mpr h]
  | cons part rest ih =>
    obtain ⟨k, buckets⟩ := part
    rw [updateParts]
    by_cases hk : k = key
    · subst hk
      by_cases h : other = k
      · simp [h]
      · simp [List.lookup_cons, h, beq_eq_false_iff_ne.mpr h]
    · rw [if_neg hk, List.lookup_cons, ih]
      by_cases h : other = key
      · subst h
        simp [List.lookup_cons, beq_eq_false_iff_ne.mpr (Ne.symm hk)]
      · simp [List.lookup_cons, h]

variable (s : Store) (layer : String) (data : DataSource) (key : StoreKey)

theorem part?_update (f : Buckets → Buckets) (other : StoreKey) :
    (s.update key f).part? other
      = if other = key then some (f ((s.part? key).getD [])) else s.part? other :=
  lookup_updateParts key other f s.parts

theorem part?_put (range : Option Range) (features : List Feature) :
    (s.put layer data range features).part? key
      = if key = keyOf layer data then
          some (((s.part? (keyOf layer data)).getD []).replace (Range.key range) features)
        else s.part? key :=
  part?_update s _ _ key

theorem part?_write (features : List Feature) :
    (s.write layer data features).part? key
      = if key = keyOf layer data then
          some (features.foldl Buckets.append ((s.part? (keyOf layer data)).getD []))
        else s.part? key :=
  part?_update s _ _ key

/-- A deletion makes no part. -/
theorem part?_delete (ids : List String) :
    (s.delete layer data ids).part? key
      = if key = keyOf layer data then (s.part? (keyOf layer data)).map (Buckets.delete · ids)
        else s.part? key := by
  rw [delete]
  cases hpart : s.part? (keyOf layer data) with
  | none =>
    by_cases hkey : key = keyOf layer data
    · rw [if_pos hkey, hkey, hpart]
      rfl
    · rw [if_neg hkey]
  | some b =>
    dsimp only
    rw [part?_update, hpart]
    rfl

/-- All features of data that is not embedded are held exactly if their part is there. -/
theorem heldAll?_eq {data : DataSource} (hdata : data.isEmbedded = false) :
    Source.heldAll? s layer data = (s.part? (keyOf layer data)).map Buckets.all := by
  rw [Source.heldAll?, hdata]
  rfl

end Store

end MapStyle
