import Mathlib.Data.List.Forall2
import MapStyle.Proofs.Json.Tabled

/-!
# Reading records that were written

A record is read by the names of its fields, so that it does not matter in which order they are
written. A field that is left out is read as missing, and so is one that is null; hence what is
written for a field that is there must not be null.
-/

namespace MapStyle.Json

variable {α β : Type}

/-! ## Fields by their names -/

/-- A field of a record is found under its name unless it is left out. -/
theorem get?_record {fields : List (String × Option Json)} (h : (fields.map (·.1)).Nodup)
    (name : String) :
    Table.get? (fields.filterMap fun f ↦ f.2.map (f.1, ·)) name = (fields.lookup name).join := by
  induction fields with
  | nil => rfl
  | cons field rest ih =>
    obtain ⟨key, v⟩ := field
    obtain ⟨hkey, hrest⟩ := List.nodup_cons.mp h
    have hnone : List.lookup key rest = none :=
      List.lookup_eq_none_iff.mpr fun f hf ↦
        bne_iff_ne.mpr fun heq ↦ hkey (List.mem_map.mpr ⟨f, hf, heq.symm⟩)
    by_cases hname : name = key
    · subst hname
      cases v with
      | none => simpa [hnone] using ih hrest
      | some v => simp [Table.get?]
    · have hne : (name == key) = false := beq_eq_false_iff_ne.mpr hname
      cases v with
      | none => simpa [List.lookup_cons, hne] using ih hrest
      | some v => simpa [List.lookup_cons, hne, Table.get?, Ne.symm hname] using ih hrest

/-- However a record is held, its fields are found under their names. -/
theorem Holding.record_fields {hold : Json → Json} (hhold : Holding hold)
    {fields : List (String × Option Json)} (h : (fields.map (·.1)).Nodup) :
    ∃ held, hold (Json.record fields) = object held ∧
      ∀ name, Table.get? held name = (fields.lookup name).join.map hold := by
  have hkeys : ((fields.filterMap fun f ↦ f.2.map (f.1, ·)).map (·.1)).Nodup := by
    refine List.Nodup.sublist ?_ h
    induction fields with
    | nil => exact List.Sublist.slnil
    | cons field rest ih =>
      obtain ⟨key, v⟩ := field
      have hrest := ih (List.nodup_cons.mp h).2
      cases v with
      | none => simpa using hrest.cons key
      | some v => simpa using hrest
  obtain ⟨held, heq, hget⟩ := hhold.record _ hkeys
  exact ⟨held, heq, fun name ↦ by rw [hget, get?_record h]⟩

variable {fields : List (String × Json)} {name : String} {decode : Json → Option α}

theorem required_of_get? {v : Json} {a : α} (h : Table.get? fields name = some v)
    (hdecode : decode v = some a) : required fields name decode = some a := by
  rw [required, h, Option.bind_some, hdecode]

/-- A field that may be missing is read back if what is held for it is not null. -/
theorem optional_of_get? {encode : α → Json} {hold : Json → Json} {a? : Option α}
    (h : Table.get? fields name = (a?.map encode).map hold)
    (hdecode : ∀ a, a? = some a → hold (encode a) ≠ null ∧ decode (hold (encode a)) = some a) :
    optional fields name decode = some a? := by
  cases a? with
  | none => rw [optional, h, Option.map_none, Option.map_none]
  | some a =>
    obtain ⟨hnull, ha⟩ := hdecode a rfl
    rw [optional, h, Option.map_some, Option.map_some]
    split
    · contradiction
    · rename_i hnone
      exact absurd (Option.some.inj hnone) hnull
    · rename_i v _ hv
      cases hv
      rw [ha, Option.map_some]

/-- A field that may be missing is read back if null is nothing that its values are read of. -/
theorem optional_of_null {encode : α → Json} {hold : Json → Json} {a? : Option α}
    (h : Table.get? fields name = (a?.map encode).map hold) (hnull : decode null = none)
    (hdecode : ∀ a, a? = some a → decode (hold (encode a)) = some a) :
    optional fields name decode = some a? := by
  refine optional_of_get? h fun a ha ↦ ⟨fun heq ↦ ?_, hdecode a ha⟩
  have hread := hdecode a ha
  rw [heq, hnull] at hread
  contradiction

/-- A field that may be missing and holds any value is read back unless the value is null. -/
theorem optional_of_tabled {hold : Json → Json} (hhold : Holding hold) {v? : Option Json}
    (h : Table.get? fields name = v?.map hold) (hv : ∀ v, v? = some v → v ≠ null ∧ v.Tabled) :
    optional fields name some = some v? := by
  have hheld : Table.get? fields name = (v?.map fun v ↦ v).map hold := by rwa [Option.map_id']
  refine optional_of_get? hheld fun v heq ↦ ?_
  obtain ⟨hnull, htabled⟩ := hv v heq
  rw [hhold.eq_of_tabled htabled]
  exact ⟨hnull, rfl⟩

/-- What is read of a field that may be missing is given there, and not as null. -/
theorem get?_of_optional {a : α} (h : optional fields name decode = some (some a)) :
    ∃ v, Table.get? fields name = some v ∧ v ≠ null ∧ decode v = some a := by
  unfold optional at h
  split at h
  · cases h
  · cases h
  · rename_i v hnull hv
    obtain ⟨b, hb, heq⟩ := Option.map_eq_some_iff.mp h
    cases heq
    exact ⟨v, hv, hnull, hb⟩

/-- The fields of a value whose objects are tables hold such values. -/
theorem Tabled.of_fields? {v w : Json} {names : List String} (h : v.Tabled)
    (hfields : v.fields? names = some fields) (hget : Table.get? fields name = some w) :
    w.Tabled := by
  unfold fields? at hfields
  split at hfields
  · cases hfields
    exact h.of_get? hget
  · rename_i items
    split at hfields
    · cases hfields
      have hmem := Table.mem_of_get? hget
      exact tabled_array_iff.mp h w (List.of_mem_zip hmem).2
    · cases hfields
  · cases hfields

/-! ## Lists and tables -/

theorem mapM_map_eq_some {f : β → Option α} {g : α → β} {l : List α}
    (h : ∀ a ∈ l, f (g a) = some a) : (l.map g).mapM f = some l := by
  induction l with
  | nil => rfl
  | cons a rest ih =>
    rw [List.map_cons, List.mapM_cons, h a List.mem_cons_self,
      ih fun b hb ↦ h b (List.mem_cons_of_mem _ hb)]
    rfl

theorem forall₂_of_mapM_eq_some {f : β → Option α} {l : List β} {l' : List α}
    (h : l.mapM f = some l') : List.Forall₂ (fun b a ↦ f b = some a) l l' := by
  induction l generalizing l' with
  | nil =>
    cases h
    exact .nil
  | cons b rest ih =>
    rw [List.mapM_cons] at h
    obtain ⟨a, ha, h⟩ := Option.bind_eq_some_iff.mp h
    obtain ⟨as, has, h⟩ := Option.bind_eq_some_iff.mp h
    cases h
    exact .cons ha (ih has)

theorem listOf_array_map {encode : α → Json} {l : List α}
    (h : ∀ a ∈ l, decode (encode a) = some a) : listOf decode (array (l.map encode)) = some l :=
  mapM_map_eq_some h

/-- A table of values of one kind is read back, however it is held. -/
theorem Holding.tableOf_hold {hold : Json → Json} (hhold : Holding hold) {encode : α → Json}
    {t : Table α} (ht : Table.Ordered t)
    (h : ∀ e ∈ t, decode (hold (encode e.2)) = some e.2) :
    tableOf decode (hold (object (Table.mapValues encode t))) = some t := by
  have hvalues : Table.mapValues hold (Table.mapValues encode t)
      = t.map fun e ↦ (e.1, hold (encode e.2)) := List.map_map ..
  rw [hhold.table _ (ht.mapValues encode), hvalues]
  exact mapM_map_eq_some fun e he ↦ congrArg (Option.map (e.1, ·)) (h e he)

theorem forall₂_of_tableOf {members : List (String × Json)} {t : Table α}
    (h : tableOf decode (object members) = some t) :
    List.Forall₂ (fun m e ↦ m.1 = e.1 ∧ decode m.2 = some e.2) members t :=
  (forall₂_of_mapM_eq_some h).imp fun m e hm ↦ by
    obtain ⟨a, ha, rfl⟩ := Option.map_eq_some_iff.mp hm
    exact ⟨rfl, ha⟩

/-- What is read of a table is a table, and its values are read of values whose objects are
tables. -/
theorem Tabled.of_tableOf {v : Json} {t : Table α} (h : v.Tabled) (ht : tableOf decode v = some t) :
    Table.Ordered t ∧ ∀ e ∈ t, ∃ w : Json, w.Tabled ∧ decode w = some e.2 := by
  cases v with
  | object members =>
    obtain ⟨hordered, hmembers⟩ := tabled_object_iff.mp h
    have hall := forall₂_of_tableOf ht
    have hkeys : members.map (·.1) = t.map (·.1) := by
      rw [← List.forall₂_eq_eq_eq, List.forall₂_map_left_iff, List.forall₂_map_right_iff]
      exact hall.imp fun _ _ hm ↦ hm.1
    constructor
    · have hpairwise := List.pairwise_map.mpr hordered
      rw [hkeys] at hpairwise
      exact List.pairwise_map.mp hpairwise
    · intro e he
      obtain ⟨i, hi, rfl⟩ := List.mem_iff_getElem.mp he
      have hm := hall.get (hall.length_eq ▸ hi) hi
      exact ⟨_, hmembers _ (List.getElem_mem _), hm.2⟩
  | _ => cases ht

end MapStyle.Json
