import MapStyle.Embedded
import MapStyle.Proofs.Feature

/-!
# Embedded features with identifiers

Only a feature without an identifier takes one from the supply. Data whose features all carry one is
therefore read in the same way from every supply, and leaves it as it is, whether or not it can be
read at all.
-/

namespace MapStyle

/-! ## Reading without the supply -/

/-- A reading that gives the same from every supply, and takes nothing from it. -/
def Supplied {α : Type} (d : StateT Identifiers Option α) : Prop :=
  ∃ a? : Option α, ∀ supply, d.run supply = a?.map (·, supply)

namespace Supplied

variable {α β : Type}

theorem pure (a : α) : Supplied (Pure.pure a : StateT Identifiers Option α) :=
  ⟨some a, fun _ ↦ rfl⟩

theorem bind {d : StateT Identifiers Option α} {f : α → StateT Identifiers Option β}
    (hd : Supplied d) (hf : ∀ a, Supplied (f a)) : Supplied (d >>= f) := by
  obtain ⟨a?, ha⟩ := hd
  cases a? with
  | none => exact ⟨none, fun supply ↦ by rw [StateT.run_bind, ha]; rfl⟩
  | some a =>
    obtain ⟨b?, hb⟩ := hf a
    exact ⟨b?, fun supply ↦ by rw [StateT.run_bind, ha]; exact hb supply⟩

theorem mapM {f : β → StateT Identifiers Option α} {l : List β} (h : ∀ b ∈ l, Supplied (f b)) :
    Supplied (l.mapM f) := by
  induction l with
  | nil => exact pure []
  | cons b rest ih =>
    rw [List.mapM_cons]
    exact (h b List.mem_cons_self).bind fun _ ↦
      (ih fun c hc ↦ h c (List.mem_cons_of_mem _ hc)).bind fun _ ↦ pure _

theorem run_orFault {d : StateT Identifiers Option α} (h : Supplied d) (supply : Identifiers) :
    ((Embedded.orFault d).run supply).2 = supply := by
  obtain ⟨a?, ha⟩ := h
  have hd : d supply = a?.map (·, supply) := ha supply
  cases a? <;> simp [Embedded.orFault, StateT.run, hd]

end Supplied

/-! ## Features -/

namespace Feature

/-- A value that carries an identifier if a feature can be read of it. -/
def Identified (v : Json) : Prop :=
  ∀ fields, v.fields? ["id", "geometry", "properties", "range"] = some fields →
    ∃ given, Table.get? fields "id" = some given ∧ given ≠ .null

theorem idOfJson?_of_ne_null {given : Json} (h : given ≠ .null) :
    idOfJson? (some given) = none ∨ ∃ id, idOfJson? (some given) = some (some id) := by
  cases given with
  | null => exact absurd rfl h
  | string s => exact .inr ⟨_, rfl⟩
  | number n => exact .inr ⟨_, rfl⟩
  | _ => exact .inl rfl

/-- Features that all carry identifiers are decoded without the supply. -/
theorem supplied_decode {v : Json} (h : Identified v) : Supplied (decode v) := by
  simp only [Supplied, run_decode]
  cases hfields : v.fields? ["id", "geometry", "properties", "range"] with
  | none => exact ⟨none, fun _ ↦ rfl⟩
  | some fields =>
    obtain ⟨given, hgiven, hnull⟩ := h fields hfields
    rcases idOfJson?_of_ne_null hnull with hid | ⟨id, hid⟩
    · exact ⟨none, fun _ ↦ by simp [hgiven, hid]⟩
    · refine ⟨(Json.optional fields "geometry" some).bind fun geometry ↦
        (Json.optional fields "properties" Json.object?).bind fun properties ↦
        (Json.optional fields "range" Range.ofJson?).map fun range ↦
          { id, geometry, properties := properties.getD [], range }, fun supply ↦ ?_⟩
      simp [hgiven, hid, Option.map_bind, Function.comp_def]

end Feature

namespace Embedded

/-- The values in embedded data that features are read of. -/
def items : Json → List Json
  | .array items => items
  | .object members =>
    match (Table.get? members "type").bind Json.string? with
    | some "FeatureCollection" =>
      (((Table.get? members "features").getD (.array [])).array?).getD []
    | some "Feature" => [.object members]
    | _ => []
  | _ => []

/-- The features that are embedded in a source of data, if there are any and they can be read. -/
def decoded? (supply : Identifiers) (data : DataSource) : Option (List Feature) :=
  data.value.bind fun v ↦ ((decode v).run supply).1.toOption

/-- All features embedded in a source of data carry identifiers. -/
def Identified (data : DataSource) : Prop :=
  ∀ v, data.value = some v → ∀ item ∈ items v, Feature.Identified item

theorem decoded?_of_not_isEmbedded {data : DataSource} (h : data.isEmbedded = false)
    (supply : Identifiers) : decoded? supply data = none := by
  have hvalue : data.value = none := Option.isNone_iff_eq_none.mp (Option.isSome_eq_false_iff.mp h)
  rw [decoded?, hvalue, Option.bind_none]

theorem toOption_run_fetch (data : DataSource) (supply : Identifiers) :
    ((fetch data).run supply).1.toOption = decoded? supply data := by
  rw [fetch, decoded?]
  cases data.value <;> rfl

theorem supplied_decodeList {v : Json} (h : ∀ item ∈ v.array?.getD [], Feature.Identified item) :
    Supplied (Feature.decodeList v) := by
  unfold Feature.decodeList
  cases hv : v.array? with
  | none => exact ⟨none, fun _ ↦ rfl⟩
  | some items =>
    rw [hv] at h
    exact Supplied.mapM fun item hitem ↦ Feature.supplied_decode (h item hitem)

/-- A value whose features carry identifiers is read without the supply. -/
theorem run_decode_of_identified {v : Json} (h : ∀ item ∈ items v, Feature.Identified item)
    (supply : Identifiers) : ((decode v).run supply).2 = supply := by
  unfold decode
  split
  · rename_i listed
    have hall : ∀ item ∈ (Json.array listed).array?.getD [], Feature.Identified item := h
    exact (supplied_decodeList hall).run_orFault supply
  · rw [items] at h
    split
    · rename_i htype
      rw [htype] at h
      exact (supplied_decodeList h).run_orFault supply
    · rename_i htype
      rw [htype] at h
      have hone := Feature.supplied_decode (h _ List.mem_cons_self)
      exact (hone.bind fun f ↦ .pure [f]).run_orFault supply
    · rfl
  · rfl

/-- Data whose features carry identifiers is read without the supply. -/
theorem run_fetch_of_identified {data : DataSource} (h : Identified data)
    (supply : Identifiers) : ((fetch data).run supply).2 = supply := by
  rw [fetch]
  cases hvalue : data.value with
  | none => rfl
  | some v => exact run_decode_of_identified (h v hvalue) supply

end Embedded

end MapStyle
