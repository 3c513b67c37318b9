import Mathlib.Logic.Function.Iterate
import MapStyle.Feature
import MapStyle.Proofs.Json.Record

/-!
# Features that are read back

A feature that was read is written with its identifier, so that it is read back without another
one. Whether it has a geometry, a range, or any properties at all can be told from what is written.

A layer may list properties that hold JSON texts. Such a text gives way to the value that it spells,
and nothing else of a feature changes.
-/

namespace MapStyle

open Json (Holding)

variable {hold : Json → Json} (hhold : Holding hold)

/-! ## Ranges -/

namespace Range

/-- The numbers of a range fit 64 bits. -/
def Fits (r : Range) : Prop :=
  ∀ n ∈ [r.x, r.y, r.z], Binary64.minInt64 ≤ n ∧ n ≤ Binary64.maxInt64

/-- Every number of a range that was read was checked against 64 bits. -/
theorem fits_of_ofJson? {v : Json} {r : Range} (h : ofJson? v = some r) : r.Fits := by
  have hfits {v : Json} {n : Int} (h : Json.int64? v = some n) :
      Binary64.minInt64 ≤ n ∧ n ≤ Binary64.maxInt64 := by
    unfold Json.int64? at h
    split at h
    · split at h
      · cases h
        assumption
      · cases h
    · cases h
  simp only [ofJson?, Option.bind_eq_bind, Option.bind_eq_some_iff, Json.required] at h
  obtain ⟨fields, -, x, ⟨_, -, hx⟩, y, ⟨_, -, hy⟩, z, ⟨_, -, hz⟩, heq⟩ := h
  cases heq
  simp [Fits, hfits hx, hfits hy, hfits hz]

/-- A range whose numbers fit is written and read back. -/
theorem ofJson?_toJson {r : Range} (h : r.Fits) : ofJson? r.toJson = some r := by
  have hint {n : Int} (hn : n ∈ [r.x, r.y, r.z]) : Json.int64? (.int n) = some n :=
    if_pos (h n hn)
  have hx : Json.required [("x", .int r.x), ("y", .int r.y), ("z", .int r.z)] "x" Json.int64?
      = some r.x := hint (by simp)
  have hy : Json.required [("x", .int r.x), ("y", .int r.y), ("z", .int r.z)] "y" Json.int64?
      = some r.y := hint (by simp)
  have hz : Json.required [("x", .int r.x), ("y", .int r.y), ("z", .int r.z)] "z" Json.int64?
      = some r.z := hint (by simp)
  simp [ofJson?, toJson, Json.fields?, hx, hy, hz]

/-- A range is written with its fields in the order of their names. -/
theorem tabled_toJson (r : Range) : r.toJson.Tabled := by
  have hordered : Table.Ordered [("x", Json.int r.x), ("y", .int r.y), ("z", .int r.z)] := by
    simp only [Table.Ordered, List.pairwise_cons, List.mem_cons, List.not_mem_nil, or_false,
      forall_eq_or_imp, forall_eq, List.Pairwise.nil, and_true, IsEmpty.forall_iff, implies_true]
    decide
  exact Json.tabled_object_iff.mpr ⟨hordered, by simp [Json.int, Json.Tabled]⟩

end Range

namespace Feature

theorem run_liftM_bind {σ α β : Type} (x : Option α) (f : α → StateT σ Option β) (s : σ) :
    ((liftM x : StateT σ Option α) >>= f).run s = x.bind fun a ↦ (f a).run s := by
  cases x <;> rfl

/-- What a feature is read of, field by field. Only an identifier that is missing is taken from the
supply. -/
theorem run_decode (v : Json) (supply : Identifiers) :
    (decode v).run supply = (v.fields? ["id", "geometry", "properties", "range"]).bind fun fields ↦
      (idOfJson? (Table.get? fields "id")).bind fun given ↦
      (Json.optional fields "geometry" some).bind fun geometry ↦
      (Json.optional fields "properties" Json.object?).bind fun properties ↦
      (Json.optional fields "range" Range.ofJson?).map fun range ↦
        match given with
        | some id => ({ id, geometry, properties := properties.getD [], range }, supply)
        | none =>
          ({ id := supply.fresh.1, geometry, properties := properties.getD [], range },
            supply.fresh.2) := by
  simp only [decode, run_liftM_bind, Option.map_eq_bind]
  refine congrArg (Option.bind _) (funext fun fields ↦ ?_)
  refine congrArg (Option.bind _) (funext fun given ↦ ?_)
  refine congrArg (Option.bind _) (funext fun geometry ↦ ?_)
  refine congrArg (Option.bind _) (funext fun properties ↦ ?_)
  refine congrArg (Option.bind _) (funext fun range ↦ ?_)
  cases given <;> rfl

/-- What was read of a value whose objects are tables. -/
structure Readable (f : Feature) : Prop where
  geometry : ∀ v, f.geometry = some v → v ≠ .null ∧ v.Tabled
  properties : (Json.object f.properties).Tabled
  range : ∀ r, f.range = some r → r.Fits

/-- Decoding makes readable features, wherever their identifiers come from. -/
theorem readable_of_run_decode {v : Json} {supply rest : Identifiers} {f : Feature}
    (h : v.Tabled) (hf : (decode v).run supply = some (f, rest)) : f.Readable := by
  rw [run_decode] at hf
  simp only [Option.bind_eq_some_iff, Option.map_eq_some_iff] at hf
  obtain ⟨fields, hfields, given, -, geometry, hgeometry, properties, hproperties, range, hrange,
    heq⟩ := hf
  have hread : f.geometry = geometry ∧ f.properties = properties.getD [] ∧ f.range = range := by
    split at heq <;> obtain ⟨rfl, -⟩ := Prod.mk.inj heq <;> exact ⟨rfl, rfl, rfl⟩
  obtain ⟨hfgeometry, hfproperties, hfrange⟩ := hread
  constructor
  · rw [hfgeometry]
    rintro w rfl
    obtain ⟨w', hget, hnull, heq⟩ := Json.get?_of_optional hgeometry
    cases heq
    exact ⟨hnull, h.of_fields? hfields hget⟩
  · rw [hfproperties]
    cases properties with
    | none => exact Json.tabled_object_iff.mpr ⟨List.Pairwise.nil, nofun⟩
    | some p =>
      obtain ⟨w, hget, -, hp⟩ := Json.get?_of_optional hproperties
      cases w with
      | object members =>
        cases hp
        exact h.of_fields? hfields hget
      | _ => cases hp
  · rw [hfrange]
    rintro r rfl
    obtain ⟨w, -, -, hr⟩ := Json.get?_of_optional hrange
    exact Range.fits_of_ofJson? hr

include hhold

/-- A feature that was read is read back, however it is held, and takes no identifier. -/
theorem run_decode_hold {f : Feature} (h : f.Readable) (supply : Identifiers) :
    (decode (hold f.toJson)).run supply = some (f, supply) := by
  have hnames : (f.members.map (·.1)).Nodup := by simp [members]
  obtain ⟨held, hheld, hget⟩ := hhold.record_fields hnames
  have hid : Table.get? held "id" = some (.string f.id) := by
    rw [hget, ← hhold.string]
    rfl
  have hgeometry : Json.optional held "geometry" some = some f.geometry :=
    Json.optional_of_tabled hhold (hget "geometry") h.geometry
  have hproperties : Json.optional held "properties" Json.object?
      = some (if f.properties.isEmpty then none else some f.properties) := by
    have hheldProperties : Table.get? held "properties" = ((if f.properties.isEmpty then none
        else some f.properties).map Json.object).map hold := by
      rw [hget]
      change Option.map hold (if _ then none else some _) = _
      split <;> rfl
    refine Json.optional_of_null hheldProperties rfl fun p hp ↦ ?_
    split at hp
    · cases hp
    · cases hp
      rw [hhold.eq_of_tabled h.properties]
      rfl
  have hrange : Json.optional held "range" Range.ofJson? = some f.range := by
    refine Json.optional_of_null (hget "range") rfl fun r hr ↦ ?_
    rw [hhold.eq_of_tabled r.tabled_toJson, Range.ofJson?_toJson (h.range r hr)]
  rw [toJson, hheld, run_decode]
  simp only [Json.fields?, Option.bind_some, hid, idOfJson?, hgeometry, hproperties, hrange,
    Option.map_some]
  -- Properties that are empty are left out, and what is left out is read as empty.
  obtain ⟨id, geometry, properties, range⟩ := f
  cases properties <;> rfl

end Feature

/-! ## Properties that hold JSON texts -/

/-- The value that a text spells. A text that spells none, and what is no text, is left as it is. -/
def Json.spelled : Json → Json
  | .string text => (read? text).getD (.string text)
  | v => v

namespace Feature

/-- The properties after the texts under some keys were read. A key that is listed again is read
again, since a text may spell a text. -/
structure TextsRead (keys : List String) (before after : Table Json) : Prop where
  spelled : ∀ key text v, keys.count key = 1 → Table.get? before key = some (.string text) →
    Json.read? text = some v → Table.get? after key = some v
  unspelled : ∀ key text, Table.get? before key = some (.string text) → Json.read? text = none →
    Table.get? after key = some (.string text)
  others : ∀ key, (∀ text, Table.get? before key ≠ some (.string text)) →
    Table.get? after key = Table.get? before key
  unlisted : ∀ key, key ∉ keys → Table.get? after key = Table.get? before key
  each : ∀ key, Table.get? after key
    = (Table.get? before key).map (Json.spelled^[keys.count key])

/-- A listed property holds what its text spells. -/
theorem get?_readProperty_self (properties : Table Json) (key : String) :
    Table.get? (readProperty properties key) key
      = (Table.get? properties key).map Json.spelled := by
  unfold readProperty
  split
  · rename_i text htext
    cases hread : Json.read? text <;> simp [htext, hread, Json.spelled]
  · rename_i hother
    cases hvalue : Table.get? properties key with
    | none => rfl
    | some v =>
      cases v with
      | string text => exact absurd hvalue (hother text)
      | _ => rfl

theorem get?_readProperty_of_ne (properties : Table Json) {key other : String} (h : other ≠ key) :
    Table.get? (readProperty properties key) other = Table.get? properties other := by
  unfold readProperty
  split
  · split
    · exact Table.get?_insert_of_ne properties _ h
    · rfl
  · rfl

/-- What is under a key is read once for each time that the key is listed. -/
theorem get?_foldl_readProperty (keys : List String) (properties : Table Json) (key : String) :
    Table.get? (keys.foldl readProperty properties) key
      = (Table.get? properties key).map (Json.spelled^[keys.count key]) := by
  induction keys generalizing properties with
  | nil => simp
  | cons first rest ih =>
    rw [List.foldl_cons, ih]
    by_cases hkey : key = first
    · rw [← hkey, get?_readProperty_self, List.count_cons_self, Function.iterate_succ,
        Option.map_map]
    · rw [get?_readProperty_of_ne _ hkey, List.count_cons_of_ne (Ne.symm hkey)]

/-- Each listing of a key reads its text once more, and nothing else is changed. -/
theorem textsRead_readProperties (f : Feature) (keys : List String) :
    TextsRead keys f.properties (f.readProperties keys).properties := by
  have heach (key : String) : Table.get? (f.readProperties keys).properties key
      = (Table.get? f.properties key).map (Json.spelled^[keys.count key]) :=
    get?_foldl_readProperty keys f.properties key
  constructor
  · intro key text v honce htext hread
    simp [heach, honce, htext, Json.spelled, hread]
  · intro key text htext hread
    have hself : (Json.string text).spelled = .string text := by simp [Json.spelled, hread]
    rw [heach, htext, Option.map_some, Function.iterate_fixed hself]
  · intro key hother
    rw [heach]
    cases hvalue : Table.get? f.properties key with
    | none => rfl
    | some v =>
      have hself : v.spelled = v := by
        cases v with
        | string text => exact absurd hvalue (hother text)
        | _ => rfl
      rw [Option.map_some, Function.iterate_fixed hself]
  · intro key hkey
    rw [heach, List.count_eq_zero_of_not_mem hkey, Function.iterate_zero, Option.map_id_apply]
  · exact heach

end Feature

end MapStyle
