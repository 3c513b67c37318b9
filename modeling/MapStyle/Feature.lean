import MapStyle.Identifier
import MapStyle.Json.Reader
import MapStyle.Json.Printer
import MapStyle.Json.Record
/-!
# Features

A feature is what a map shows one of: it has an identifier, a geometry, properties that expressions
read, and perhaps the range of the map that it was loaded for. Features are read from JSON and
written to it; one without an identifier is given one while it is read.
-/

namespace MapStyle

/-- A tile of the map, which bounds a part of the features of a layer. -/
structure Range where
  /-- The column. -/
  x : Int
  /-- The row. -/
  y : Int
  /-- The level. -/
  z : Int
  deriving Repr, DecidableEq

structure Feature where
  id : String
  /-- The geometry, as it came. -/
  geometry : Option Json := none
  /-- What expressions can read. -/
  properties : Table Json := []
  /-- The range that the feature was loaded for. -/
  range : Option Range := none
  deriving Repr

namespace Range

/-- The text that names a range: its three numbers, and nothing for the absent range. -/
def key : Option Range → String
  | none => ""
  | some r => toString r.x ++ ":" ++ toString r.y ++ ":" ++ toString r.z

def ofJson? (v : Json) : Option Range := do
  let fields ← v.fields? ["x", "y", "z"]
  let x ← Json.required fields "x" Json.int64?
  let y ← Json.required fields "y" Json.int64?
  let z ← Json.required fields "z" Json.int64?
  pure { x, y, z }

def toJson (r : Range) : Json := .object [("x", .int r.x), ("y", .int r.y), ("z", .int r.z)]

end Range

namespace Feature

/-- The identifier that a value spells. A number is written out, and null asks for a new one. -/
def idOfJson? : Option Json → Option (Option String)
  | none => some none
  | some .null => some none
  | some (.string s) => some (some s)
  | some (.number n) => some (some (String.ofList n.text))
  | some _ => none

/-- Reads a feature. An identifier that is left out is taken from the supply. -/
def decode (v : Json) : StateT Identifiers Option Feature := do
  let fields ← v.fields? ["id", "geometry", "properties", "range"]
  let given ← idOfJson? (Table.get? fields "id")
  let geometry ← Json.optional fields "geometry" some
  let properties ← Json.optional fields "properties" Json.object?
  let range ← Json.optional fields "range" Range.ofJson?
  let id ← match given with
    | some id => pure id
    | none => fun supply ↦ some supply.fresh
  pure { id, geometry, properties := properties.getD [], range }

def decodeList (v : Json) : StateT Identifiers Option (List Feature) := do
  let items ← v.array?
  items.mapM decode

/-- The members of a feature in JSON. What is absent or empty is left out. -/
def members (f : Feature) : List (String × Option Json) :=
  [("id", some (.string f.id)), ("geometry", f.geometry),
   ("properties", if f.properties.isEmpty then none else some (.object f.properties)),
   ("range", f.range.map Range.toJson)]

def toJson (f : Feature) : Json := .record f.members

/-- Replaces the text under a key by the JSON value it spells, if it spells one. -/
def readProperty (properties : Table Json) (key : String) : Table Json :=
  match Table.get? properties key with
  | some (.string text) =>
    match Json.read? text with
    | some v => properties.insert key v
    | none => properties
  | _ => properties

/-- The feature with the texts under the given keys replaced by the JSON values they spell, one key
after the other. -/
def readProperties (f : Feature) (keys : List String) : Feature :=
  { f with properties := keys.foldl readProperty f.properties }

end Feature

end MapStyle
