import Mathlib
import MapStyle.Layer
import MapStyle.Proofs.Feature
import MapStyle.Proofs.Style

/-!
# Layers that are read back

A layer is written in one form, though it may have been read in several: what is missing is left
out, kinds are given by their names, and every record is an object. Here a layer that was read is
shown to be read back from what is written, groups by induction on their depth. The steps are the
same whether the members of objects stand as they were written or in the order of their keys.
-/

namespace MapStyle

open Json (Holding)

variable {hold : Json → Json} (hhold : Holding hold)

/-! ## Sources of data -/

namespace DataSource

/-- What was read of a value whose objects are tables: embedded data is such a value, and not
null. -/
def Readable (d : DataSource) : Prop := ∀ v, d.value = some v → v ≠ .null ∧ v.Tabled

/-- Embedded data was not null, as a null stands for none. -/
theorem readable_of_ofJson? {v : Json} {d : DataSource} (h : v.Tabled) (hd : ofJson? v = some d) :
    d.Readable := by
  simp only [ofJson?, Option.bind_eq_bind, Option.bind_eq_some_iff] at hd
  obtain ⟨fields, hfields, format, -, url, -, value, hvalue, jsonProperties, -, heq⟩ := hd
  cases heq
  intro w hw
  cases hw
  obtain ⟨w', hget, hnull, heq⟩ := Json.get?_of_optional hvalue
  cases heq
  exact ⟨hnull, h.of_fields? hfields hget⟩

include hhold

/-- A source of data is written and read back. -/
theorem ofJson?_hold {d : DataSource} (h : d.Readable) : ofJson? (hold d.toJson) = some d := by
  obtain ⟨format, url, value, jsonProperties⟩ := d
  have hnames : (([("type", some (.string format)), ("url", url.map .string), ("value", value),
      ("jsonProperties", jsonProperties.map Json.strings)] : List (String × Option Json)).map
      (·.1)).Nodup := by simp
  obtain ⟨held, hheld, hget⟩ := hhold.record_fields hnames
  have hstring (s : String) : Json.string? (hold (.string s)) = some s := by
    rw [hhold.string]
    rfl
  have hformat : Json.required held "type" Json.string? = some format :=
    Json.required_of_get? (hget "type") (hstring format)
  have hurl : Json.optional held "url" Json.string? = some url :=
    Json.optional_of_null (hget "url") rfl fun s _ ↦ hstring s
  have hvalue : Json.optional held "value" some = some value :=
    Json.optional_of_tabled hhold (hget "value") h
  have hproperties : Json.optional held "jsonProperties" (Json.listOf Json.string?)
      = some jsonProperties := by
    refine Json.optional_of_null (hget "jsonProperties") rfl fun l _ ↦ ?_
    rw [Json.strings, hhold.array, List.map_map]
    exact Json.listOf_array_map fun s _ ↦ hstring s
  rw [toJson, hheld]
  simp [ofJson?, Json.fields?, hformat, hurl, hvalue, hproperties]

end DataSource

/-! ## Simple layers -/

namespace SimpleLayer

omit hhold

/-- What was read of a value whose objects are tables. -/
structure Readable (l : SimpleLayer) : Prop where
  data : ∀ d, l.data = some d → d.Readable
  properties : ∀ p, l.properties = some p → (Json.object p).Tabled
  defines : ∀ d, l.defines = some d → Table.Ordered d
  styles : ∀ c t, l.styles.get? c = some t → FieldStyle.TableReadable t

/-- What was read for all categories is found under each of them. -/
theorem exists_of_mapM {g : Category → Option (Option CategoryStyle)} {categories : List Category}
    {given : List (Category × Option CategoryStyle)}
    (h : categories.mapM (fun c ↦ (g c).map (c, ·)) = some given) :
    ∀ c ∈ categories, ∃ styles, g c = some styles ∧ given.lookup c = some styles := by
  have hall := Json.forall₂_of_mapM_eq_some h
  clear h
  induction hall with
  | nil => exact nofun
  | @cons c e rest others he _ ih =>
    obtain ⟨styles, hstyles, rfl⟩ := Option.map_eq_some_iff.mp he
    intro d hd
    by_cases hsame : d = c
    · exact ⟨styles, hsame ▸ hstyles, hsame ▸ List.lookup_cons_self⟩
    · rw [List.lookup_cons, beq_eq_false_iff_ne.mpr hsame]
      exact ih d ((List.mem_cons.mp hd).resolve_left hsame)

/-- The styles of all categories are read one by one. -/
theorem stylesOf?_eq_some_iff {fields : List (String × Json)} {styles : ByCategory CategoryStyle} :
    stylesOf? fields = some styles ↔ ∀ c, categoryOf? fields c = some (styles.get? c) := by
  have hread (given : List (Category × Option CategoryStyle))
      (h : Category.all.mapM (fun c ↦ (categoryOf? fields c).map (c, ·)) = some given)
      (c : Category) : categoryOf? fields c
        = some ((ByCategory.ofFunction fun c ↦ (given.lookup c).join).get? c) := by
    obtain ⟨styles, hstyles, hlookup⟩ := exists_of_mapM h c (Category.mem_all c)
    rw [hstyles, ByCategory.get?_ofFunction, hlookup, Option.join_some]
  simp only [stylesOf?, Option.bind_eq_bind, Option.bind_eq_some_iff]
  constructor
  · rintro ⟨given, hgiven, heq⟩ c
    cases heq
    exact hread given hgiven c
  · intro h
    have hall : (Category.all.map fun c ↦ (c, styles.get? c)).map Prod.fst = Category.all := rfl
    have hgiven : Category.all.mapM (fun c ↦ (categoryOf? fields c).map (c, ·))
        = some (Category.all.map fun c ↦ (c, styles.get? c)) := by
      rw [← hall]
      refine Json.mapM_map_eq_some fun e he ↦ ?_
      obtain ⟨c, -, rfl⟩ := List.mem_map.mp he
      rw [h c, Option.map_some]
    refine ⟨_, hgiven, congrArg some (ByCategory.ext_get? fun c ↦ ?_)⟩
    exact Option.some.inj ((hread _ hgiven c).symm.trans (h c))

/-- A layer is readable by the fields that were read of it. -/
theorem readable_of_ofJson? {v : Json} {l : SimpleLayer} (h : v.Tabled) (hl : ofJson? v = some l) :
    l.Readable := by
  simp only [ofJson?, Option.bind_eq_bind, Option.bind_eq_some_iff] at hl
  obtain ⟨fields, hfields, id, -, data, hdata, properties, hproperties, defines, hdefines, styles,
    hstyles, heq⟩ := hl
  cases heq
  constructor
  · rintro d rfl
    obtain ⟨w, hget, -, hd⟩ := Json.get?_of_optional hdata
    exact DataSource.readable_of_ofJson? (h.of_fields? hfields hget) hd
  · rintro p rfl
    obtain ⟨w, hget, -, hp⟩ := Json.get?_of_optional hproperties
    cases w with
    | object members =>
      cases hp
      exact h.of_fields? hfields hget
    | _ => cases hp
  · rintro d rfl
    obtain ⟨w, hget, -, hd⟩ := Json.get?_of_optional hdefines
    exact ((h.of_fields? hfields hget).of_tableOf hd).1
  · intro c t ht
    have hc := stylesOf?_eq_some_iff.mp hstyles c
    rw [ht] at hc
    obtain ⟨w, hget, -, ht⟩ := Json.get?_of_optional hc
    exact FieldStyle.tableReadable_of_tableOfJson? (h.of_fields? hfields hget) ht

theorem names_members (l : SimpleLayer) : l.members.map (·.1) = fieldNames := rfl

theorem lookup_members_key (l : SimpleLayer) (c : Category) :
    (l.members.lookup c.key).join = (l.styles.get? c).map FieldStyle.tableToJson := by
  cases c <;> rfl

include hhold

/-- A layer is read back from any record that holds its fields. -/
theorem ofJson?_held {l : SimpleLayer} (h : l.Readable) {held : List (String × Json)}
    (hget : ∀ name ∈ fieldNames, Table.get? held name = (l.members.lookup name).join.map hold) :
    ofJson? (.object held) = some l := by
  have hid : Json.required held "id" Json.string? = some l.id :=
    Json.required_of_get? (hget "id" (by decide)) (by rw [hhold.string]; rfl)
  have hdata : Json.optional held "data" DataSource.ofJson? = some l.data :=
    Json.optional_of_null (hget "data" (by decide)) rfl
      fun d hd ↦ DataSource.ofJson?_hold hhold (h.data d hd)
  have hproperties : Json.optional held "properties" Json.object? = some l.properties := by
    refine Json.optional_of_null (hget "properties" (by decide)) rfl fun p hp ↦ ?_
    rw [hhold.eq_of_tabled (h.properties p hp)]
    rfl
  have hdefines : Json.optional held "defines" (Json.tableOf Json.string?) = some l.defines := by
    refine Json.optional_of_null (hget "defines" (by decide)) rfl fun d hd ↦ ?_
    exact hhold.tableOf_hold (h.defines d hd) fun e _ ↦ by rw [hhold.string]; rfl
  have hstyles : stylesOf? held = some l.styles := by
    refine stylesOf?_eq_some_iff.mpr fun c ↦ ?_
    have hkey : c.key ∈ fieldNames :=
      List.mem_append_right _ (List.mem_map_of_mem (Category.mem_all c))
    have hheld := hget c.key hkey
    rw [lookup_members_key] at hheld
    exact Json.optional_of_null hheld rfl
      fun t ht ↦ FieldStyle.tableOfJson?_hold hhold (h.styles c t ht)
  simp [ofJson?, Json.fields?, hid, hdata, hproperties, hdefines, hstyles]

end SimpleLayer

/-! ## Layers and groups -/

namespace Layer

omit hhold

mutual

/-- What was read of a value whose objects are tables. -/
def Readable : Layer → Prop
  | simple l => l.Readable
  | group _ children => ReadableAll children

@[inherit_doc Readable]
def ReadableAll : List Layer → Prop
  | [] => True
  | l :: rest => Readable l ∧ ReadableAll rest

end

/-- A group is read with what is read of its children. -/
def groupOfJson? (body : Json) : Option Layer :=
  (body.fields? ["id", "children"]).bind fun fields ↦ (childrenOf? fields).bind fun items ↦
    (Json.required fields "id" Json.string?).bind fun id ↦ (childrenOfJson? items).map (group id)

/-- The kind of a layer tells how the rest of it is read. -/
theorem ofJsonAt?_eq (nested : Bool) (v : Json) :
    ofJsonAt? nested v = (splitKind? v).bind fun split ↦
      (Kind.ofJson? nested split.1).bind fun
        | .simple => (SimpleLayer.ofJson? split.2).map simple
        | .group => groupOfJson? split.2 := by
  rw [ofJsonAt?]
  split
  · rename_i hsplit
    simp only [hsplit, Option.bind_none]
  · rename_i kind body hsplit
    simp only [hsplit, Option.bind_some]
    split
    · rename_i hkind
      simp only [hkind, Option.bind_none]
    · rename_i hkind
      simp only [hkind, Option.bind_some]
    · rename_i hkind
      simp only [hkind, Option.bind_some, groupOfJson?]
      split
      · rename_i hfields
        simp only [hfields, Option.bind_none]
      · rename_i fields hfields
        simp only [hfields, Option.bind_some]
        split
        · rename_i hitems
          simp only [hitems, Option.bind_none]
        · rename_i items hitems
          simp only [hitems, Option.bind_some]
          cases Json.required fields "id" Json.string? <;> cases childrenOfJson? items <;> rfl

/-! ## Layers that were read -/

/-- The body is the value itself, or what stands behind the kind. -/
theorem tabled_of_splitKind? {v : Json} {split : Json × Json} (h : v.Tabled)
    (hsplit : splitKind? v = some split) : split.2.Tabled := by
  cases v with
  | object members =>
    obtain ⟨kind, -, rfl⟩ := Option.map_eq_some_iff.mp hsplit
    exact h
  | array items =>
    cases items with
    | nil => cases hsplit
    | cons kind rest =>
      cases hsplit
      exact Json.tabled_array_iff.mpr fun w hw ↦
        Json.tabled_array_iff.mp h w (List.mem_cons_of_mem _ hw)
  | _ => cases hsplit

/-- Children are items of a member of the body, if there are any. -/
theorem tabled_of_childrenOf? {body : Json} {fields : List (String × Json)} {items : List Json}
    {names : List String} (h : body.Tabled) (hfields : body.fields? names = some fields)
    (hitems : childrenOf? fields = some items) : ∀ v ∈ items, v.Tabled := by
  unfold childrenOf? at hitems
  split at hitems
  · cases hitems
    exact nofun
  · rename_i hget
    cases hitems
    exact Json.tabled_array_iff.mp (h.of_fields? hfields hget)
  · cases hitems

mutual

theorem readable_of_ofJsonAt? : ∀ {l : Layer} {nested : Bool} {v : Json}, v.Tabled →
    ofJsonAt? nested v = some l → l.Readable
  | l, nested, v, hv, h => by
    rw [ofJsonAt?_eq] at h
    obtain ⟨split, hsplit, h⟩ := Option.bind_eq_some_iff.mp h
    obtain ⟨kind, -, h⟩ := Option.bind_eq_some_iff.mp h
    have hbody := tabled_of_splitKind? hv hsplit
    cases kind with
    | simple =>
      obtain ⟨s, hs, rfl⟩ := Option.map_eq_some_iff.mp h
      exact SimpleLayer.readable_of_ofJson? hbody hs
    | group =>
      obtain ⟨fields, hfields, h⟩ := Option.bind_eq_some_iff.mp h
      obtain ⟨items, hitems, h⟩ := Option.bind_eq_some_iff.mp h
      obtain ⟨id, -, h⟩ := Option.bind_eq_some_iff.mp h
      obtain ⟨children, hchildren, rfl⟩ := Option.map_eq_some_iff.mp h
      exact readableAll_of_childrenOfJson? (tabled_of_childrenOf? hbody hfields hitems) hchildren

theorem readableAll_of_childrenOfJson? : ∀ {layers : List Layer} {items : List Json},
    (∀ v ∈ items, v.Tabled) → childrenOfJson? items = some layers → ReadableAll layers
  | [], _, _, _ => trivial
  | l :: rest, items, hitems, h => by
    cases items with
    | nil =>
      rw [childrenOfJson?] at h
      cases h
    | cons v others =>
      rw [childrenOfJson?] at h
      obtain ⟨l', hl, h⟩ := Option.bind_eq_some_iff.mp h
      obtain ⟨rest', hrest, h⟩ := Option.bind_eq_some_iff.mp h
      cases h
      exact ⟨readable_of_ofJsonAt? (hitems v List.mem_cons_self) hl,
        readableAll_of_childrenOfJson? (fun w hw ↦ hitems w (List.mem_cons_of_mem _ hw)) hrest⟩

end

mutual

/-- A layer that was read is read back, however it is held. -/
theorem ofJsonAt?_hold (hhold : Holding hold) (nested : Bool) : ∀ {l : Layer}, l.Readable →
    ofJsonAt? nested (hold l.toJson) = some l
  | simple l, h => by
    have hnames : ((("type", some (.string "simple")) :: l.members).map (·.1)).Nodup := by
      rw [List.map_cons, SimpleLayer.names_members]
      decide
    obtain ⟨held, hheld, hget⟩ := hhold.record_fields hnames
    have hkind : splitKind? (.object held) = some (.string "simple", .object held) := by
      rw [splitKind?, hget "type"]
      exact congrArg (fun kind ↦ some (kind, Json.object held)) (hhold.string "simple")
    have hlayer : SimpleLayer.ofJson? (.object held) = some l := by
      refine SimpleLayer.ofJson?_held hhold h fun name hname ↦ ?_
      -- The member that gives the kind stands before the fields and has none of their names.
      have hne : (name == "type") = false :=
        beq_eq_false_iff_ne.mpr (by rintro rfl; revert hname; decide)
      rw [hget, List.lookup_cons, hne]
    rw [toJson, hheld, ofJsonAt?_eq, hkind]
    simp [Kind.ofJson?, hlayer]
  | group id children, h => by
    obtain ⟨held, hheld, hget⟩ := hhold.record [("type", .string "group"), ("id", .string id),
      ("children", .array (listToJson children))] (by simp)
    have hkind : splitKind? (.object held) = some (.string "group", .object held) := by
      rw [splitKind?, hget "type"]
      exact congrArg (fun kind ↦ some (kind, Json.object held)) (hhold.string "group")
    have hid : Json.required held "id" Json.string? = some id :=
      Json.required_of_get? (hget "id") (by rw [hhold.string]; rfl)
    have hitems : childrenOf? held = some ((listToJson children).map hold) := by
      have hchildren : Table.get? held "children" = some (hold (.array (listToJson children))) :=
        hget "children"
      rw [childrenOf?, hchildren, hhold.array]
    rw [toJson, hheld, ofJsonAt?_eq, hkind]
    simp [Kind.ofJson?, groupOfJson?, Json.fields?, hid, hitems, childrenOfJson?_hold hhold h]

theorem childrenOfJson?_hold (hhold : Holding hold) : ∀ {layers : List Layer}, ReadableAll layers →
    childrenOfJson? ((listToJson layers).map hold) = some layers
  | [], _ => by
    rw [listToJson, List.map_nil, childrenOfJson?]
  | l :: rest, h => by
    rw [listToJson, List.map_cons, childrenOfJson?, ofJsonAt?_hold hhold true h.1,
      childrenOfJson?_hold hhold h.2]
    rfl

end

end Layer

/-! ## What is written is read back -/

open Json in
/-- A layer and a feature that were read are read back from what they are written as, and a feature
keeps its identifier, also one that it was given while it was read. -/
theorem read_back_of_tabled {v : Json} (hv : v.Tabled) :
    (∀ l, Layer.ofJson? v = some l →
      Layer.ofJson? l.toJson = some l ∧ Layer.ofJson? l.toJson.tabled = some l) ∧
    ∀ supply f rest, (Feature.decode v).run supply = some (f, rest) → ∀ other,
      (Feature.decode f.toJson).run other = some (f, other) ∧
        (Feature.decode f.toJson.tabled).run other = some (f, other) := by
  constructor
  · intro l hl
    have hread : l.Readable := Layer.readable_of_ofJsonAt? hv hl
    exact ⟨Layer.ofJsonAt?_hold holding_id false hread,
      Layer.ofJsonAt?_hold holding_tabled false hread⟩
  · intro supply f rest hf other
    have hread : f.Readable := Feature.readable_of_run_decode hv hf
    exact ⟨Feature.run_decode_hold holding_id hread other,
      Feature.run_decode_hold holding_tabled hread other⟩

/-- A group in a group; the layer in it is given as an array, and its styles take every form. -/
def nestedGroups : Json :=
  .object [("children", .array [.array [.number (.int 1), .string "inner",
      .array [.array [.string "simple", .string "A", .null, .null, .null, .object
        [("color", .object [("expression", .array [.string "red"])]),
          ("show", .array [.array [.array [.string "true", .string "1"]]]),
          ("size", .array [.bool true])]]]]]),
    ("id", .string "outer"), ("type", .string "group")]

/-- What is read of the groups. -/
def nestedLayer : Layer :=
  .group "outer" [.group "inner" [.simple
    { id := "A"
      styles :=
        { marker := some [("color", .container (.container (.expression (.source "red")))),
            ("show", .expression (.conditions [("true", "1")])),
            ("size", .container (.literal (.bool true)))] } }]]

/-- The groups are read back, and so is a feature without an identifier. -/
theorem read_back_nestedGroups :
    let v := Json.object [("range", .array [.int 1, .int 2, .int 3])]
    let f : Feature := { id := (Identifiers.fresh ⟨0⟩).1, range := some ⟨1, 2, 3⟩ }
    nestedGroups.Tabled ∧ Layer.ofJson? nestedGroups = some nestedLayer ∧
      Layer.ofJson? nestedLayer.toJson = some nestedLayer ∧
      v.Tabled ∧ (Feature.decode v).run ⟨0⟩ = some (f, ⟨1⟩) ∧
      (Feature.decode f.toJson).run ⟨5⟩ = some (f, ⟨5⟩) := by
  intro v f
  have hgroups : nestedGroups.Tabled := by decide
  have hlayer : Layer.ofJson? nestedGroups = some nestedLayer := by cbv
  have hv : v.Tabled := by decide
  have hfeature : (Feature.decode v).run ⟨0⟩ = some (f, ⟨1⟩) := by
    rw [Feature.run_decode]
    rfl
  exact ⟨hgroups, hlayer, ((read_back_of_tabled hgroups).1 _ hlayer).1, hv, hfeature,
    ((read_back_of_tabled hv).2 _ _ _ hfeature ⟨5⟩).1⟩

end MapStyle
