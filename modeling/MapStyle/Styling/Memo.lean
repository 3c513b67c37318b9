import MapStyle.Config
import MapStyle.Fault
import MapStyle.Placeholder.Narrow
import MapStyle.Recent
import MapStyle.Styling.Eval
/-!
# Remembering results

The evaluation of styles remembers the references of texts, the expressions they denote, and the
results of styles. A result is found again under a key that holds the style, the defines, and the
part of the scope that the references of the style can read; where a reference stands for more than
it names, the key holds all properties.
-/

namespace MapStyle

/-- What was evaluated before. -/
structure Memo where
  references : Recent (List String)
  /-- The expressions that texts denote. -/
  programs : Recent Expr
  /-- The values of styles by their keys. -/
  results : Recent Value
  deriving Repr

namespace Memo

/-- A memory without entries. -/
def empty (config : Config) : Memo where
  references := { capacity := config.referenceCapacity }
  programs := { capacity := config.programCapacity }
  results := { capacity := config.resultCapacity }

/-- Forgets everything. -/
def clear (memo : Memo) : Memo where
  references := memo.references.clear
  programs := memo.programs.clear
  results := memo.results.clear

/-! ## Looking up -/

/-- The references of a text, remembered for every text. -/
def textReferences (source : String) : StateM (Recent (List String)) (List String) := fun memory ↦
  match memory.get source with
  | (some references, memory) => (references, memory)
  | (none, memory) =>
    let references := Placeholder.references source
    (references, memory.put source references)

/-- The references of several texts, one after the other. -/
def allReferences : List String → StateM (Recent (List String)) (List String)
  | [] => pure []
  | source :: rest => do
    let first ← textReferences source
    let others ← allReferences rest
    pure (first ++ others)

/-- The references of a style: those of its texts in their order. -/
def styleReferences (e : StyleExpression) : StateM (Recent (List String)) (List String) :=
  allReferences e.texts

/-- The expression that a text denotes, remembered if it denotes one. -/
def program (source : String) : StateM (Recent Expr) (Except Expr.Fault Expr) := fun memory ↦
  match memory.get source with
  | (some e, memory) => (.ok e, memory)
  | (none, memory) =>
    match Styling.read source with
    | .ok e => (.ok e, memory.put source e)
    | .error fault => (.error fault, memory)

/-- A computation on the remembered references alone. -/
def onReferences {α : Type} (act : StateM (Recent (List String)) α) : StateM Memo α := fun memo ↦
  let (a, references) := act memo.references
  (a, { memo with references })

/-- A computation on the remembered expressions alone. -/
def onPrograms {α : Type} (act : StateM (Recent Expr) α) : StateM Memo α := fun memo ↦
  let (a, programs) := act memo.programs
  (a, { memo with programs })

/-- The result remembered under a key. -/
def result? (key : String) : StateM Memo (Option Value) := fun memo ↦
  let (found, results) := memo.results.get key
  (found, { memo with results })

/-- Remembers a result under a key. -/
def remember (key : String) (value : Value) : StateM Memo Unit :=
  modify fun memo ↦ { memo with results := memo.results.put key value }

/-! ## Keys -/

/-- Whether a text holds a word somewhere. -/
def mentions (word : List Char) (text : List Char) : Bool :=
  match text with
  | [] => word.isEmpty
  | c :: rest => word.isPrefixOf (c :: rest) || mentions word rest

/-- Whether a style may read properties without a placeholder. -/
def mentionsFeature (e : StyleExpression) : Bool :=
  e.texts.any fun s ↦ mentions "feature".toList s.toList

/-- The key of a result: the style, the properties it can read, the defines, and the identifier if
the style reads it. -/
def keyOf (references : List String) (e : StyleExpression) (scope : Scope)
    (defines : Option (Table String)) : Json :=
  let readsId := references.contains Placeholder.identifierMark
  let readable := if readsId || mentionsFeature e then scope.properties
    else Placeholder.narrow references (scope.id.getD "") scope.properties
  .array [e.toJson, .object readable,
    (defines.map fun d ↦ .object (d.mapValues .string)).getD .null,
    if readsId then (scope.id.map .string).getD .null else .null]

/-! ## Evaluating -/

/-- The value of the expression that a text denotes once defines are replaced. -/
def evalText (scope : Scope) (defines : Option (Table String)) (source : String) :
    StateM Memo (Except Expr.Fault Value) :=
  Styling.textWith (fun s ↦ onPrograms (program s)) scope defines source

def evalStyle (scope : Scope) (defines : Option (Table String)) (e : StyleExpression) :
    StateM Memo (Except Expr.Fault Value) :=
  Styling.styleWith (evalText scope defines) e

/-- The value of a style, found again or evaluated and remembered. Faults are not remembered. -/
def evalRemembered (scope : Scope) (defines : Option (Table String)) (e : StyleExpression) :
    StateM Memo (Option Json) := do
  let references ← onReferences (styleReferences e)
  let key := (keyOf references e scope defines).compact
  match ← result? key with
  | some v => pure v.toJson?
  | none =>
    match ← evalStyle scope defines e with
    | .error _ => pure none
    | .ok v => do
      remember key v
      pure v.toJson?

def evalField (scope : Scope) (defines : Option (Table String)) (style : FieldStyle) :
    StateM Memo (Option Json) :=
  match style.expression? with
  | none => pure style.literal?
  | some e => evalRemembered scope defines e

/-- The appearance that a layer gives to a feature. -/
def styleFeature (l : SimpleLayer) (f : Feature) : StateM Memo StyledFeature := do
  let feature := f.readProperties l.jsonKeys
  let appearances ←
    Styling.appearancesWith (evalField (Styling.featureScope feature) l.defines) l.styles
  pure { feature, appearances }

/-- The appearance of a layer itself. -/
def styleLayer (l : SimpleLayer) : StateM Memo Appearances :=
  Styling.appearancesWith (evalField (Styling.layerScope l) l.defines) l.styles

/-- What a layer with the given features looks like: first the layer, then the features in order. -/
def style (l : SimpleLayer) (features : List Feature) : StateM Memo Styled := do
  let layer ← styleLayer l
  let features ← Styling.featuresWith (styleFeature l) features
  pure { layer, features }

/-- What a layer looks like when its features are asked for and the answer is the given one. -/
def styleAnswer (l : SimpleLayer) (answer : Except Fault (List Feature)) :
    StateM Memo (Except Fault (Option Styled)) :=
  match answer with
  | .error fault => pure (.error fault)
  | .ok features => do
    let styled ← style l features
    pure (.ok (some styled))

/-- What a layer looks like, with its features asked from a source. A group, and a layer without
data, has no look of its own, and nothing is asked. -/
def evaluate (source : DataSource → Except Fault (List Feature)) (l : Layer) :
    StateM Memo (Except Fault (Option Styled)) :=
  match l.fetchable? with
  | none => pure (.ok none)
  | some (layer, data) => styleAnswer layer (source data)

end Memo

end MapStyle
