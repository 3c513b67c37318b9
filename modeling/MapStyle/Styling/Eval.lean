import MapStyle.Expr.Eval
import MapStyle.Expr.Parser
import MapStyle.Feature
import MapStyle.Layer
import MapStyle.Placeholder.Define
/-!
# Evaluating styles

What the styles of a layer make of a feature, or of the layer itself. Defines are replaced before an
expression is read. Of conditions, the first whose value counts as true selects the expression to
evaluate; the conditions behind it are not evaluated. A field whose style has no value, or the value
`undefined`, is left out.
-/

namespace MapStyle

/-- A feature with its evaluated appearance. -/
structure StyledFeature where
  feature : Feature
  /-- The evaluated fields by category. -/
  appearances : Appearances
  deriving Repr

/-- What the evaluation of a layer gives. -/
structure Styled where
  layer : Appearances
  /-- The features with their appearance, in their order. -/
  features : List StyledFeature
  deriving Repr

/-- The feature in JSON, with its appearance categories among its members. -/
def StyledFeature.toJson (f : StyledFeature) : Json :=
  .record (f.feature.members ++ f.appearances.members.map fun (key, v) ↦ (key, some v))

namespace Styling

/-- The expression that a text denotes. -/
def read (source : String) : Except Expr.Fault Expr :=
  match Expr.parse? source with
  | some e => .ok e
  | none => .error (.unreadable source)

def featureScope (f : Feature) : Scope := { id := some f.id, properties := f.properties }

/-- The scope of a layer itself. -/
def layerScope (l : SimpleLayer) : Scope := { id := some l.id, properties := l.properties.getD [] }

/-! ## In any computation

How an expression is read is a parameter here, so that one may read each text anew or remember what
was read before.
-/

section Generic

variable {m : Type → Type} [Monad m]

/-- The value of the expression that a text denotes once defines are replaced. -/
def textWith (reading : String → m (Except Expr.Fault Expr)) (scope : Scope)
    (defines : Option (Table String)) (source : String) : m (Except Expr.Fault Value) := do
  let e ← reading (Placeholder.replaceDefines defines source)
  pure (e.bind (Expr.eval scope))

/-- The value that the first condition that holds selects, and `undefined` if none holds. -/
def conditionsWith (text : String → m (Except Expr.Fault Value)) :
    List (String × String) → m (Except Expr.Fault Value)
  | [] => pure (.ok .undefined)
  | (condition, value) :: rest => do
    match ← text condition with
    | .error fault => pure (.error fault)
    | .ok v => if v.truthy then text value else conditionsWith text rest

def styleWith (text : String → m (Except Expr.Fault Value)) :
    StyleExpression → m (Except Expr.Fault Value)
  | .source s => text s
  | .conditions cases => conditionsWith text cases

/-- The evaluated fields among the fields of a category. -/
def fieldsWith (field : FieldStyle → m (Option Json)) : CategoryStyle → m (Table Json)
  | [] => pure []
  | (name, style) :: rest => do
    let v ← field style
    let evaluated ← fieldsWith field rest
    pure (match v with
      | some v => (name, v) :: evaluated
      | none => evaluated)

/-- The evaluated fields of a category, if it has styles. -/
def categoryWith (field : FieldStyle → m (Option Json)) :
    Option CategoryStyle → m (Option (Table Json))
  | none => pure none
  | some styles => do
    let fields ← fieldsWith field styles
    pure (some fields)

/-- The evaluated fields of all categories, evaluated in their order. -/
def appearancesWith (field : FieldStyle → m (Option Json)) (styles : ByCategory CategoryStyle) :
    m Appearances := do
  let marker ← categoryWith field styles.marker
  let polyline ← categoryWith field styles.polyline
  let polygon ← categoryWith field styles.polygon
  let model ← categoryWith field styles.model
  let tiles3D ← categoryWith field styles.tiles3D
  let ellipsoid ← categoryWith field styles.ellipsoid
  let photoOverlay ← categoryWith field styles.photoOverlay
  let legacyResource ← categoryWith field styles.legacyResource
  pure { marker, polyline, polygon, model, tiles3D, ellipsoid, photoOverlay, legacyResource }

/-- The features with their appearances, one after the other. -/
def featuresWith (feature : Feature → m StyledFeature) : List Feature → m (List StyledFeature)
  | [] => pure []
  | f :: rest => do
    let styled ← feature f
    let others ← featuresWith feature rest
    pure (styled :: others)

end Generic

/-! ## Without memory -/

/-- The value of the expression that a text denotes once defines are replaced. -/
def evalText (scope : Scope) (defines : Option (Table String)) (source : String) :
    Except Expr.Fault Value :=
  textWith (m := Id) read scope defines source

def evalStyle (scope : Scope) (defines : Option (Table String)) (e : StyleExpression) :
    Except Expr.Fault Value :=
  styleWith (m := Id) (evalText scope defines) e

/-- What an evaluated style gives in JSON: nothing for a fault and for `undefined`. -/
def outcome : Except Expr.Fault Value → Option Json
  | .ok v => v.toJson?
  | .error _ => none

def evalField (scope : Scope) (defines : Option (Table String)) (style : FieldStyle) :
    Option Json :=
  match style.expression? with
  | none => style.literal?
  | some e => outcome (evalStyle scope defines e)

/-- The appearance that a layer gives to a feature. -/
def styleFeature (l : SimpleLayer) (f : Feature) : StyledFeature :=
  let feature := f.readProperties l.jsonKeys
  { feature
    appearances :=
      appearancesWith (m := Id) (evalField (featureScope feature) l.defines) l.styles }

/-- The appearance of a layer itself. -/
def styleLayer (l : SimpleLayer) : Appearances :=
  appearancesWith (m := Id) (evalField (layerScope l) l.defines) l.styles

/-- What a layer with the given features looks like. -/
def style (l : SimpleLayer) (features : List Feature) : Styled :=
  { layer := styleLayer l, features := features.map (styleFeature l) }

end Styling

end MapStyle
