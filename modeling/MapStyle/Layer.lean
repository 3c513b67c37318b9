import MapStyle.Json.Reader
import MapStyle.Style
/-!
# Layers

A simple layer tells where its features come from and how they look; a group holds further layers.
Layers are read from JSON and written to it. The kind of a layer is given by the member `type`, or
by the first item if the layer is given as an array.
-/

namespace MapStyle

/-- Where the features of a layer come from. -/
structure DataSource where
  format : String
  url : Option String := none
  /-- The data itself, if it is embedded in the layer. -/
  value : Option Json := none
  /-- The properties that hold JSON texts. -/
  jsonProperties : Option (List String) := none
  deriving Repr

/-- A layer of features. -/
structure SimpleLayer where
  id : String
  /-- Where the features come from. -/
  data : Option DataSource := none
  /-- What the expressions of the layer itself can read. -/
  properties : Option (Table Json) := none
  /-- The names that the layer defines, with their texts. -/
  defines : Option (Table String) := none
  /-- How the features look. -/
  styles : ByCategory CategoryStyle := {}
  deriving Repr

/-- A layer or a group of layers. -/
inductive Layer where
  | simple (layer : SimpleLayer)
  | group (id : String) (children : List Layer)
  deriving Repr

namespace DataSource

def isEmbedded (d : DataSource) : Bool := d.value.isSome

/-- The text that names the data: its format and its address. -/
def key (d : DataSource) : String := d.format ++ "::" ++ d.url.getD ""

def ofJson? (v : Json) : Option DataSource := do
  let fields ← v.fields? ["type", "url", "value", "jsonProperties"]
  let format ← Json.required fields "type" Json.string?
  let url ← Json.optional fields "url" Json.string?
  let value ← Json.optional fields "value" some
  let jsonProperties ← Json.optional fields "jsonProperties" (Json.listOf Json.string?)
  pure { format, url, value, jsonProperties }

def toJson (d : DataSource) : Json := .record
  [("type", some (.string d.format)), ("url", d.url.map .string), ("value", d.value),
   ("jsonProperties", d.jsonProperties.map Json.strings)]

end DataSource

namespace SimpleLayer

/-- The names of the fields of a layer in JSON, in their order. -/
def fieldNames : List String :=
  ["id", "data", "properties", "defines"] ++ Category.all.map Category.key

/-- Reads the styles of a category, if the layer has any. -/
def categoryOf? (fields : List (String × Json)) (c : Category) : Option (Option CategoryStyle) :=
  Json.optional fields c.key FieldStyle.tableOfJson?

def stylesOf? (fields : List (String × Json)) : Option (ByCategory CategoryStyle) := do
  let given ← Category.all.mapM fun c ↦ (categoryOf? fields c).map (c, ·)
  pure (.ofFunction fun c ↦ (given.lookup c).join)

def ofJson? (v : Json) : Option SimpleLayer := do
  let fields ← v.fields? fieldNames
  let id ← Json.required fields "id" Json.string?
  let data ← Json.optional fields "data" DataSource.ofJson?
  let properties ← Json.optional fields "properties" Json.object?
  let defines ← Json.optional fields "defines" (Json.tableOf Json.string?)
  let styles ← stylesOf? fields
  pure { id, data, properties, defines, styles }

/-- The members of a layer in JSON. What is absent is left out. -/
def members (l : SimpleLayer) : List (String × Option Json) :=
  [("id", some (.string l.id)), ("data", l.data.map DataSource.toJson),
   ("properties", l.properties.map .object),
   ("defines", l.defines.map fun d ↦ .object (d.mapValues .string))] ++
  Category.all.map fun c ↦ (c.key, (l.styles.get? c).map FieldStyle.tableToJson)

def toJson (l : SimpleLayer) : Json := .record l.members

/-- The properties of features that hold JSON texts. -/
def jsonKeys (l : SimpleLayer) : List String := (l.data.bind DataSource.jsonProperties).getD []

end SimpleLayer

namespace Layer

def id : Layer → String
  | simple l => l.id
  | group id _ => id

inductive Kind where
  | simple
  | group
  deriving Repr, DecidableEq

/-- Reads the kind of a layer, by name. Inside a group a kind may also be given by its number. -/
def Kind.ofJson? (nested : Bool) : Json → Option Kind
  | .string "simple" => some simple
  | .string "group" => some group
  | .number (.int 0) => if nested then some simple else none
  | .number (.int 1) => if nested then some group else none
  | _ => none

def simple? : Layer → Option SimpleLayer
  | simple l => some l
  | group _ _ => none

/-- The simple layer and where its features come from, if the layer has features. -/
def fetchable? (l : Layer) : Option (SimpleLayer × DataSource) :=
  l.simple?.bind fun s ↦ s.data.map (s, ·)

mutual

/-- The simple layers of a layer, depth first. -/
def simpleLayers : Layer → List SimpleLayer
  | simple l => [l]
  | group _ children => simpleLayersOf children

@[inherit_doc simpleLayers]
def simpleLayersOf : List Layer → List SimpleLayer
  | [] => []
  | l :: rest => simpleLayers l ++ simpleLayersOf rest

end

/-- Splits the kind of a layer from what gives its fields. -/
def splitKind? : Json → Option (Json × Json)
  | .object members => (Table.get? members "type").map (·, .object members)
  | .array (kind :: rest) => some (kind, .array rest)
  | _ => none

/-- The items under the field `children` of a group, none if there is no such field. -/
def childrenOf? (fields : List (String × Json)) : Option (List Json) :=
  match Table.get? fields "children" with
  | none => some []
  | some (.array items) => some items
  | some _ => none

/-- The body is a part of the value, or the value itself. -/
theorem sizeOf_le_of_splitKind? {v kind body : Json} (h : splitKind? v = some (kind, body)) :
    sizeOf body ≤ sizeOf v := by
  unfold splitKind? at h
  split at h
  · simp only [Option.map_eq_some_iff, Prod.mk.injEq] at h
    obtain ⟨_, _, _, rfl⟩ := h
    exact Nat.le_refl _
  · simp only [Option.some.injEq, Prod.mk.injEq] at h
    obtain ⟨_, rfl⟩ := h
    simp
  · simp at h

theorem mem_of_get?_zip {names : List String} {items : List Json} {key : String} {v : Json}
    (h : Table.get? (names.zip items) key = some v) : v ∈ items := by
  induction names generalizing items with
  | nil => simp at h
  | cons n names ih =>
    cases items with
    | nil => simp at h
    | cons w items =>
      simp only [List.zip_cons_cons, Table.get?] at h
      split at h
      · simp only [Option.some.injEq] at h
        simp [h]
      · exact List.mem_cons_of_mem _ (ih h)

theorem one_le_sizeOf {α : Type} [SizeOf α] (l : List α) : 1 ≤ sizeOf l := by
  cases l with
  | nil => simp
  | cons a l =>
    simp only [List.cons.sizeOf_spec]
    omega

/-- The children of a group are smaller than its body, which is what nested groups are read by. -/
theorem sizeOf_lt_of_childrenOf? {body : Json} {names : List String}
    {fields : List (String × Json)} {items : List Json} (hf : body.fields? names = some fields)
    (hc : childrenOf? fields = some items) : sizeOf items < sizeOf body := by
  unfold childrenOf? at hc
  unfold Json.fields? at hf
  split at hf
  · rename_i members
    simp only [Option.some.injEq] at hf
    subst hf
    split at hc
    · simp only [Option.some.injEq] at hc
      subst hc
      have := one_le_sizeOf members
      simp only [Json.object.sizeOf_spec, List.nil.sizeOf_spec]
      omega
    · rename_i hget
      simp only [Option.some.injEq] at hc
      subst hc
      have := FieldStyle.sizeOf_lt_of_get? hget
      simp at this ⊢
      omega
    · simp at hc
  · rename_i given
    split at hf
    · simp only [Option.some.injEq] at hf
      subst hf
      split at hc
      · simp only [Option.some.injEq] at hc
        subst hc
        have := one_le_sizeOf given
        simp only [Json.array.sizeOf_spec, List.nil.sizeOf_spec]
        omega
      · rename_i hget
        simp only [Option.some.injEq] at hc
        subst hc
        have := List.sizeOf_lt_of_mem (mem_of_get?_zip hget)
        simp at this ⊢
        omega
      · simp at hc
    · simp at hf
  · simp at hf

mutual

/-- Reads a layer; `nested` says whether it stands inside a group. -/
def ofJsonAt? (nested : Bool) (v : Json) : Option Layer :=
  match h : splitKind? v with
  | none => none
  | some (kind, body) =>
    match Kind.ofJson? nested kind with
    | none => none
    | some .simple => (SimpleLayer.ofJson? body).map simple
    | some .group =>
      match hf : body.fields? ["id", "children"] with
      | none => none
      | some fields =>
        match hc : childrenOf? fields with
        | none => none
        | some items =>
          have := Nat.lt_of_lt_of_le (sizeOf_lt_of_childrenOf? hf hc) (sizeOf_le_of_splitKind? h)
          do
            let id ← Json.required fields "id" Json.string?
            let children ← childrenOfJson? items
            pure (group id children)
termination_by sizeOf v

/-- Reads the layers inside a group. -/
def childrenOfJson? : List Json → Option (List Layer)
  | [] => some []
  | v :: rest => do
    let layer ← ofJsonAt? true v
    let layers ← childrenOfJson? rest
    pure (layer :: layers)
termination_by items => sizeOf items

end

def ofJson? (v : Json) : Option Layer := ofJsonAt? false v

mutual

def toJson : Layer → Json
  | simple l => .record (("type", some (.string "simple")) :: l.members)
  | group id children =>
    .object [("type", .string "group"), ("id", .string id),
      ("children", .array (listToJson children))]

def listToJson : List Layer → List Json
  | [] => []
  | l :: rest => toJson l :: listToJson rest

end

/-- Reads the layers of a document: an array of layers, or one layer. -/
def readAll? (text : String) : Option (List Layer) := do
  match ← Json.read? text with
  | .array items => items.mapM ofJson?
  | v => (ofJson? v).map ([·])

end Layer

end MapStyle
