import MapStyle.Fault
import MapStyle.Feature
import MapStyle.Layer
/-!
# The store of features

Features that were fetched or written are kept for the layer and the data they belong to, and there
in one bucket for each range of the map. Buckets stand in the order in which they first appeared. A
fetch fills the bucket of its range anew, a written feature goes to the end of the bucket of its own
range, and a deletion takes features out of all buckets but no bucket away.
-/

namespace MapStyle

/-- The features of some layer and data, by the key of their range. -/
abbrev Buckets := List (String × List Feature)

namespace Buckets

/-- The features under a range key. -/
def get? (b : Buckets) (key : String) : Option (List Feature) := b.lookup key

/-- All features, bucket by bucket. -/
def all (b : Buckets) : List Feature := b.flatMap (·.2)

/-- Changes the bucket under a range key; a bucket that is not there is appended, and changed as an
empty one. -/
def update (key : String) (f : List Feature → List Feature) : Buckets → Buckets
  | [] => [(key, f [])]
  | (k, features) :: rest =>
    if k = key then (k, f features) :: rest else (k, features) :: update key f rest

/-- Puts features in the place of a bucket. -/
def replace (b : Buckets) (key : String) (features : List Feature) : Buckets :=
  b.update key fun _ ↦ features

/-- Appends a feature to the bucket of its own range. -/
def append (b : Buckets) (f : Feature) : Buckets := b.update (Range.key f.range) (· ++ [f])

/-- Takes the features with one of the identifiers out of all buckets. -/
def delete (b : Buckets) (ids : List String) : Buckets :=
  b.map fun (key, features) ↦ (key, features.filter fun f ↦ !ids.contains f.id)

end Buckets

/-- What a part of the store belongs to: the identifier of a layer, and the key of its data. -/
abbrev StoreKey := String × String

/-- The store of features. -/
structure Store where
  /-- The buckets by what they belong to. -/
  parts : List (StoreKey × Buckets) := []
  deriving Repr

namespace Store

/-- The part of the store that belongs to a layer and its data. -/
def keyOf (layer : String) (data : DataSource) : StoreKey := (layer, data.key)

def part? (s : Store) (key : StoreKey) : Option Buckets := s.parts.lookup key

/-- The parts with one of them changed; one that is not there begins without buckets. -/
def updateParts (key : StoreKey) (f : Buckets → Buckets) :
    List (StoreKey × Buckets) → List (StoreKey × Buckets)
  | [] => [(key, f [])]
  | (k, buckets) :: rest =>
    if k = key then (k, f buckets) :: rest else (k, buckets) :: updateParts key f rest

/-- The store with one of its parts changed. -/
def update (s : Store) (key : StoreKey) (f : Buckets → Buckets) : Store :=
  { parts := updateParts key f s.parts }

/-- The features kept for a range. -/
def get? (s : Store) (layer : String) (data : DataSource) (range : Option Range) :
    Option (List Feature) :=
  (s.part? (keyOf layer data)).bind fun b ↦ b.get? (Range.key range)

/-- All features kept for the data of a layer. -/
def getAll? (s : Store) (layer : String) (data : DataSource) : Option (List Feature) :=
  (s.part? (keyOf layer data)).map Buckets.all

/-- Keeps fetched features in the place of what was kept for their range. -/
def put (s : Store) (layer : String) (data : DataSource) (range : Option Range)
    (features : List Feature) : Store :=
  s.update (keyOf layer data) fun b ↦ b.replace (Range.key range) features

/-- Appends features, each to the bucket of its own range. -/
def write (s : Store) (layer : String) (data : DataSource) (features : List Feature) : Store :=
  s.update (keyOf layer data) fun b ↦ features.foldl Buckets.append b

/-- Takes the features with one of the identifiers out. -/
def delete (s : Store) (layer : String) (data : DataSource) (ids : List String) : Store :=
  match s.part? (keyOf layer data) with
  | none => s
  | some _ => s.update (keyOf layer data) fun b ↦ b.delete ids

/-- The store after a fetch has been answered. A failed one leaves the store as it is. -/
def receive (s : Store) (layer : String) (data : DataSource) (range : Option Range) :
    Except Fault (List Feature) → Store
  | .ok features => s.put layer data range features
  | .error _ => s

end Store

end MapStyle
