import MapStyle.Fault
import MapStyle.Feature
import MapStyle.Layer
/-!
# Embedded data

Data that stands in the layer itself: an array of features, a collection of features, or a single
feature.
-/

namespace MapStyle.Embedded

/-- Decodes with a supply of identifiers; what does not fit is a fault of the document. -/
def orFault {α : Type} (decode : StateT Identifiers Option α) :
    StateM Identifiers (Except Fault α) := fun supply ↦
  match decode supply with
  | some (a, supply) => (.ok a, supply)
  | none => (.error .json, supply)

/-- The features that a value holds. -/
def decode (v : Json) : StateM Identifiers (Except Fault (List Feature)) :=
  match v with
  | .array items => orFault (Feature.decodeList (.array items))
  | .object members =>
    match (Table.get? members "type").bind Json.string? with
    | some "FeatureCollection" =>
      orFault (Feature.decodeList ((Table.get? members "features").getD (.array [])))
    | some "Feature" => orFault do
      let f ← Feature.decode (.object members)
      pure [f]
    | type => pure (.error (.data (.objectType type)))
  | v => pure (.error (.data (.noContainer v)))

/-- The features of a source of data, which have to be embedded in it. -/
def fetch (data : DataSource) : StateM Identifiers (Except Fault (List Feature)) :=
  match data.value with
  | none => pure (.error (.data (.notEmbedded data.format data.url)))
  | some v => decode v

end MapStyle.Embedded
