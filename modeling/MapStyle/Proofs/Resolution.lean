import MapStyle.Proofs.Json.Tabled
import MapStyle.Proofs.Override

/-!
# What an overridden category shows

Of a category, the values in the stack count down to the last one that is no object. A field has
the value that the topmost object among them has for it. The fields that none of them has are those
of the feature itself: what lies below such a value is hidden, the feature is not. A value on top
that is no object takes the category away.
-/

namespace MapStyle

variable {c : Category} {payloads : List Json} {base top members : Table Json} {key name : String}

namespace Appearances

/-- Each category is a member once, as categories have different keys. -/
theorem nodup_keys_members (a : Appearances) : (a.members.map (·.1)).Nodup := by
  have hkeys : a.members.map (·.1)
      = (Category.all.filter fun c ↦ (a.get? c).isSome).map Category.key := by
    rw [members, ByCategory.entries, List.map_map]
    induction Category.all with
    | nil => rfl
    | cons c rest ih => cases hc : a.get? c <;> simp_all
  have hall : (Category.all.map Category.key).Nodup := by decide
  rw [hkeys]
  exact (List.filter_sublist.map _).nodup hall

/-- The members of an appearance are the categories that it has. -/
theorem mem_members {a : Appearances} {v : Json} : (c.key, v) ∈ a.members ↔
    (a.get? c).map .object = some v := by
  simp only [members, ByCategory.entries, List.mem_map, List.mem_filterMap,
    Option.map_eq_some_iff, Prod.mk.injEq]
  constructor
  · rintro ⟨_, ⟨d, -, fields, hfields, rfl⟩, hkey, rfl⟩
    exact ⟨fields, Category.key_injective hkey ▸ hfields, rfl⟩
  · rintro ⟨fields, hfields, rfl⟩
    exact ⟨_, ⟨c, Category.mem_all c, fields, hfields, rfl⟩, rfl, rfl⟩

/-- Appearances in JSON have an object for each category that they have. -/
theorem get?_table (a : Appearances) (c : Category) :
    Table.get? (Table.ofEntries a.members) c.key = (a.get? c).map .object := by
  rw [Table.get?_ofEntries a.nodup_keys_members]
  cases hc : (a.get? c).map Json.object with
  | some v => exact Table.get?_of_mem a.nodup_keys_members (mem_members.mpr hc)
  | none =>
    refine Table.get?_eq_none fun hmem ↦ ?_
    obtain ⟨⟨_, v⟩, hv, rfl⟩ := List.mem_map.mp hmem
    rw [mem_members, hc] at hv
    contradiction

end Appearances

theorem Json.object?_eq_some_iff {v : Json} : v.object? = some members ↔ v = .object members := by
  cases v <;> simp [object?]

theorem Json.member?_eq_bind_object? (v : Json) (name : String) :
    v.member? name = v.object?.bind (Table.get? · name) := by
  cases v <;> rfl

namespace Overrides

/-! ## Values that are merged into one key -/

/-- What a key holds after values are merged into it one after the other. -/
def mergeAll (below : Option Json) (payloads : List Json) : Option Json :=
  payloads.foldl (fun below v ↦ some (mergeMember below v)) below

theorem mergeAll_concat (below : Option Json) (payloads : List Json) (v : Json) :
    mergeAll below (payloads ++ [v]) = some (mergeMember (mergeAll below payloads) v) := by
  rw [mergeAll, List.foldl_append]
  rfl

/-- Only an object makes an object. -/
theorem object?_mergeMember_eq_none_iff {below : Option Json} {v : Json} :
    (mergeMember below v).object? = none ↔ v.object? = none := by
  fun_cases mergeMember below v <;> simp [Json.object?]

/-- An object that is merged in has its own fields before those that were there. -/
theorem member?_mergeMember (h : (Json.object top).Tabled) (below : Option Json) (name : String) :
    (mergeMember below (.object top)).member? name
      = (Table.get? top name).or (below.bind (Json.member? name)) := by
  have hnodup := (Json.tabled_object_iff.mp h).1.nodup
  match below with
  | some (.object base) => exact Table.get?_foldl_insert hnodup base name
  | none | some .null | some (.bool _) | some (.number _) | some (.string _) | some (.array _) =>
    exact (Option.or_none ..).symm

theorem tabled_mergeMember {below : Option Json} {v : Json} (hbelow : ∀ b ∈ below, b.Tabled)
    (hv : v.Tabled) : (mergeMember below v).Tabled := by
  fun_cases mergeMember below v with
  | case1 base top =>
    refine List.foldlRecOn (motive := fun t ↦ (Json.object t).Tabled) top _ (hbelow _ rfl) ?_
    intro t ht m hm
    exact ht.insert ((Json.tabled_object_iff.mp hv).2 m hm) m.1
  | case2 => exact hv

theorem tabled_mergeAll (h : ∀ v ∈ payloads, v.Tabled) :
    ∀ w ∈ mergeAll none payloads, w.Tabled := by
  refine List.foldlRecOn (motive := fun below : Option Json ↦ ∀ w ∈ below, w.Tabled) payloads _
    nofun ?_
  rintro below hbelow v hv _ ⟨⟩
  exact tabled_mergeMember hbelow (h v hv)

/-! ## Tables that are merged -/

/-- By induction over the members on top: each merges under its own key. -/
theorem get?_foldl_mergeMember (h : (top.map (·.1)).Nodup) (base : Table Json) (key : String) :
    Table.get? (top.foldl (fun t m ↦ t.insert m.1 (mergeMember (t.get? m.1) m.2)) base) key
      = mergeAll (base.get? key) (top.get? key).toList := by
  induction top generalizing base with
  | nil => rfl
  | cons m rest ih =>
    obtain ⟨k, v⟩ := m
    obtain ⟨hk, hrest⟩ := List.nodup_cons.mp h
    rw [List.foldl_cons, ih hrest, Table.get?]
    by_cases hkey : k = key
    · subst hkey
      rw [Table.get?_eq_none hk, Table.get?_insert_self, if_pos rfl]
      rfl
    · rw [Table.get?_insert_of_ne _ _ (Ne.symm hkey), if_neg hkey]

/-- Two tables merged are a table that holds under each key what both hold there, merged. -/
theorem merge_tables (hbase : (Json.object base).Tabled) (htop : (Json.object top).Tabled) :
    ∃ merged, merge (.object base) (.object top) = .object merged ∧ (Json.object merged).Tabled ∧
      ∀ key, Table.get? merged key
        = mergeAll (Table.get? base key) (Table.get? top key).toList := by
  refine ⟨_, rfl, ?_, get?_foldl_mergeMember (Json.tabled_object_iff.mp htop).1.nodup base⟩
  refine List.foldlRecOn (motive := fun t ↦ (Json.object t).Tabled) top _ hbase ?_
  intro t ht m hm
  exact ht.insert (tabled_mergeMember (fun _ ↦ ht.of_get?)
    ((Json.tabled_object_iff.mp htop).2 m hm)) m.1

/-- The stack merged from the bottom holds under each key what its entries hold there, merged. -/
theorem foldl_merge {entries : List (String × Table Json)}
    (h : ∀ e ∈ entries, (Json.object e.2).Tabled) (hbase : (Json.object base).Tabled) :
    ∃ merged, entries.foldl (fun below e ↦ merge below (.object e.2)) (.object base)
        = .object merged ∧ (Json.object merged).Tabled ∧
      ∀ key, Table.get? merged key
        = mergeAll (Table.get? base key) (entries.filterMap fun e ↦ Table.get? e.2 key) := by
  induction entries generalizing base with
  | nil => exact ⟨base, rfl, hbase, fun _ ↦ rfl⟩
  | cons e rest ih =>
    obtain ⟨first, hfirst, hfirstTabled, hfirstKeys⟩ := merge_tables hbase (h e List.mem_cons_self)
    obtain ⟨merged, hmerged, hmergedTabled, hkeys⟩ :=
      ih (fun e he ↦ h e (List.mem_cons_of_mem _ he)) hfirstTabled
    refine ⟨merged, by rw [List.foldl_cons, hfirst, hmerged], hmergedTabled, fun key ↦ ?_⟩
    rw [hkeys, hfirstKeys]
    cases hkey : Table.get? e.2 key <;> simp [mergeAll, hkey]

/-! ## One category -/

/-- What the entries of the stack have for a category, from the bottom to the top. -/
def valuesOf (o : Overrides) (c : Category) : List Json :=
  o.entries.filterMap fun e ↦ Table.get? e.2 c.key

/-- The objects on top of values, the topmost first: those above the last value that is no
object. -/
def objectsOnTop (payloads : List Json) : List Json :=
  payloads.reverse.takeWhile fun v ↦ v.object?.isSome

/-- What a category shows when values are laid over the fields that it has of its own. -/
structure Shows (own : Option (Table Json)) (payloads : List Json) (shown : Option (Table Json)) :
    Prop where
  own_of_nil : payloads = [] → shown = own
  none_of_top : ∀ v ∈ payloads.getLast?, v.object? = none → shown = none
  fields_of_top : ∀ v ∈ payloads.getLast?, v.object?.isSome → ∃ fields, shown = some fields ∧
    ∀ name, Table.get? fields name = ((objectsOnTop payloads).findSome? (Json.member? name)).or
      (own.bind (Table.get? · name))

theorem shows_nil (own : Option (Table Json)) : Shows own [] own :=
  ⟨fun _ ↦ rfl, by simp, by simp⟩

theorem objectsOnTop_concat (payloads : List Json) (v : Json) :
    objectsOnTop (payloads ++ [v])
      = if v.object?.isSome then v :: objectsOnTop payloads else [] := by
  rw [objectsOnTop, List.reverse_concat, List.takeWhile_cons]
  rfl

/-- Values that are merged have the field of the topmost object above all that is no object. -/
theorem member?_mergeAll (h : ∀ v ∈ payloads, v.Tabled) (name : String) :
    (mergeAll none payloads).bind (Json.member? name)
      = (objectsOnTop payloads).findSome? (Json.member? name) := by
  induction payloads using List.reverseRecOn with
  | nil => rfl
  | append_singleton payloads v ih =>
    rw [mergeAll_concat, objectsOnTop_concat, Option.bind_some]
    cases hv : v.object? with
    | none =>
      rw [Json.member?_eq_bind_object?, object?_mergeMember_eq_none_iff.mpr hv]
      rfl
    | some top =>
      obtain rfl := Json.object?_eq_some_iff.mp hv
      rw [member?_mergeMember (h _ (by simp)), ih fun v hv ↦ h v (List.mem_append_left _ hv)]
      cases hname : Table.get? top name <;> simp [Json.member?, hname]

/-- Values that are merged, and then laid over the fields of a category, resolve as they should. -/
theorem shows_mergeAll (h : ∀ v ∈ payloads, v.Tabled) (own : Option (Table Json)) :
    Shows own payloads
      ((mergeAll (own.map .object) (mergeAll none payloads).toList).bind Json.object?) := by
  rcases payloads.eq_nil_or_concat with rfl | ⟨below, v, rfl⟩
  · cases own <;> exact shows_nil _
  have hfield := member?_mergeAll h
  have htabled := tabled_mergeAll h
  have hlast : ∀ u ∈ (below ++ [v]).getLast?, u = v := by simp
  have hobject : (mergeMember (mergeAll none below) v).object? = none ↔ v.object? = none :=
    object?_mergeMember_eq_none_iff
  rw [List.concat_eq_append, mergeAll_concat] at *
  generalize mergeMember (mergeAll none below) v = w at *
  cases hw : w.object? with
  | none =>
    have hshown : (mergeMember (own.map .object) w).object? = none :=
      object?_mergeMember_eq_none_iff.mpr hw
    refine ⟨by simp, fun _ _ _ ↦ hshown, fun u hu hsome ↦ ?_⟩
    rw [hlast u hu, hobject.mp hw] at hsome
    contradiction
  | some top =>
    obtain rfl := Json.object?_eq_some_iff.mp hw
    have hne : (mergeMember (own.map .object) (.object top)).object? ≠ none :=
      object?_mergeMember_eq_none_iff.not.mpr nofun
    obtain ⟨fields, hfields⟩ := Option.ne_none_iff_exists'.mp hne
    refine ⟨by simp, fun u hu hnone ↦ ?_, fun _ _ _ ↦ ⟨fields, hfields, fun name ↦ ?_⟩⟩
    · rw [hlast u hu, ← hobject, hw] at hnone
      contradiction
    · calc Table.get? fields name
        _ = (mergeMember (own.map .object) (.object top)).member? name := by
          rw [Json.member?_eq_bind_object?, hfields, Option.bind_some]
        _ = (Table.get? top name).or ((own.map .object).bind (Json.member? name)) :=
          member?_mergeMember (htabled _ rfl) _ name
        _ = _ := by
          rw [← hfield]
          cases own <;> rfl

/-- Of an overridden feature a category has what the override makes of it, if that is an object. -/
theorem get?_override (h : (Json.object top).Tabled) (f : StyledFeature) (c : Category) :
    (override f (.object top)).appearances.get? c
      = (mergeAll ((f.appearances.get? c).map .object) (Table.get? top c.key).toList).bind
        Json.object? := by
  rw [override, Appearances.ofJson, ByCategory.get?_ofFunction, Appearances.toJson, merge,
    Json.member?, get?_foldl_mergeMember (Json.tabled_object_iff.mp h).1.nodup,
    Appearances.get?_table]

/-- Under the values of the stack, each category of a feature shows what it should. -/
theorem shows_apply {o : Overrides} (h : ∀ e ∈ o.entries, (Json.object e.2).Tabled)
    (f : StyledFeature) (c : Category) :
    Shows (f.appearances.get? c) (o.valuesOf c) ((o.apply f).appearances.get? c) := by
  have hvalues : ∀ v ∈ o.valuesOf c, v.Tabled := by
    intro v hv
    obtain ⟨e, he, hget⟩ := List.mem_filterMap.mp hv
    exact (h e he).of_get? hget
  rw [apply, merged?]
  cases hempty : o.isEmpty with
  | true =>
    have hnil : o.valuesOf c = [] := by
      rw [valuesOf, List.isEmpty_iff.mp hempty]
      rfl
    rw [hnil]
    exact shows_nil _
  | false =>
    have hnil : (Json.object []).Tabled := by decide
    obtain ⟨merged, hmerged, htabled, hkeys⟩ := foldl_merge h hnil
    have hshown : (override f (.object merged)).appearances.get? c
        = (mergeAll ((f.appearances.get? c).map .object) (mergeAll none (o.valuesOf c)).toList).bind
          Json.object? := by
      rw [get?_override htabled, hkeys, Table.get?_nil, valuesOf]
    simp only [Bool.false_eq_true, if_false, hmerged, hshown]
    exact shows_mergeAll hvalues _

/-! ## The stack after some calls -/

theorem tabled_permitted {v : Json} (h : v.Tabled) : (Json.object (permitted v)).Tabled := by
  cases v with
  | object members =>
    obtain ⟨hordered, hmembers⟩ := Json.tabled_object_iff.mp h
    exact Json.tabled_object_iff.mpr
      ⟨hordered.filter _, fun m hm ↦ hmembers m (List.mem_of_mem_filter hm)⟩
  | _ => exact Json.tabled_object_iff.mpr ⟨.nil, nofun⟩

variable {calls : List Call}

theorem tabled_of_mem_entries_run (h : ∀ call ∈ calls, ∀ v ∈ call.value, v.Tabled) :
    ∀ e ∈ (run calls).entries, (Json.object e.2).Tabled := by
  rintro ⟨owner, _⟩ he
  obtain ⟨v, hlast, rfl⟩ := mem_entries_run.mp he
  obtain ⟨call, hcall, hvalue⟩ := Option.bind_eq_some_iff.mp hlast
  exact tabled_permitted (h call (List.mem_of_mem_filter (List.mem_of_getLast? hcall)) v hvalue)

/-- Whatever calls have been made, a feature stays itself, and each of its categories shows the
values that the stack holds for it over the fields that it has of its own. -/
theorem shows_apply_run (h : ∀ call ∈ calls, ∀ v ∈ call.value, v.Tabled) (f : StyledFeature) :
    ((run calls).apply f).feature = f.feature ∧
      ∀ c, Shows (f.appearances.get? c) ((run calls).valuesOf c)
        (((run calls).apply f).appearances.get? c) :=
  ⟨apply_feature _ f, shows_apply (tabled_of_mem_entries_run h) f⟩

/-- A text in the stack hides the objects below it, also that of the nameless owner, but not the
fields of the feature. A truth value on top takes the polygon away, and the model stays. -/
theorem shows_apply_run_above_text :
    let marker (members : Table Json) : Json := .object [("marker", .object members)]
    let calls : List Call := [
      ⟨"a", some (marker [("height", .null), ("pointColor", .string "red")])⟩,
      ⟨"b", some (.object [("marker", .string "none"), ("polygon", .object [])])⟩,
      ⟨"c", some (marker [("pointSize", .bool true)])⟩,
      ⟨"", some (marker [("height", .bool false)])⟩,
      ⟨"d", some (.object [("marker", .object [("show", .null)]), ("polygon", .bool true)])⟩]
    let own : Appearances := {
      marker := some [("pointColor", .string "blue"), ("show", .bool true)]
      polygon := some [("fill", .bool true)]
      model := some [("url", .string "m")] }
    let shown := ((run calls).apply ⟨{ id := "f" }, own⟩).appearances
    shown.get? .polygon = none ∧ shown.get? .model = own.get? .model ∧
      shown.field? .marker "height" = none ∧
      shown.field? .marker "pointColor" = some (.string "blue") ∧
      shown.field? .marker "pointSize" = some (.bool true) ∧
      shown.field? .marker "show" = some .null := by
  intro marker calls own shown
  have htabled : ∀ call ∈ calls, ∀ v ∈ call.value, v.Tabled := by
    simp only [calls, marker, List.forall_mem_cons, Option.mem_some_iff, forall_eq']
    decide
  have hshows := (shows_apply_run htabled ⟨{ id := "f" }, own⟩).2
  obtain ⟨fields, hfields, hget⟩ :=
    (hshows .marker).fields_of_top (.object [("show", .null)]) rfl rfl
  have hfield (name : String) : shown.field? .marker name = Table.get? fields name := by
    rw [Appearances.field?, hfields, Option.bind_some]
  refine ⟨(hshows .polygon).none_of_top (.bool true) rfl rfl, (hshows .model).own_of_nil rfl, ?_⟩
  simp only [hfield, hget]
  exact ⟨rfl, rfl, rfl, rfl⟩

end Overrides

end MapStyle
