import MapStyle.Compute.Command
import MapStyle.Fault
import MapStyle.Override
/-!
# The state of a computation

A command changes the state at once and leads to work; what the work comes to is folded into the
state later. Every command that asks for an evaluation raises the generation, and an outcome counts
only if it belongs to the current generation. Overrides take part only in the view, so that they
need no evaluation.
-/

namespace MapStyle

/-- Whether a layer is waiting for an evaluation. -/
inductive Status where
  | fetching
  | ready
  deriving Repr, DecidableEq

def Status.name : Status → String
  | fetching => "fetching"
  | ready => "ready"

/-- What is known of a computed layer. -/
structure LayerView where
  layer : Layer
  status : Status
  features : List StyledFeature
  /-- The features as the store holds them. -/
  held : List Feature
  appearances : Appearances
  deriving Repr

def LayerView.toJson (v : LayerView) : Json := .object (
  [("id", .string v.layer.id), ("layer", v.layer.toJson), ("status", .string v.status.name),
   ("features", .array (v.features.map StyledFeature.toJson)),
   ("originalFeatures", .array (v.held.map Feature.toJson))] ++ v.appearances.members)

/-- The state of the computation of one layer. -/
structure ComputeState where
  layer : Option Layer := none
  /-- Whether an evaluation is awaited. -/
  status : Status := .fetching
  /-- What the last evaluation gave. -/
  result : Option Styled := none
  overrides : Overrides := {}
  /-- The number of changes so far that could ask for an evaluation. A running program counts them
  in 64 bits, so that what is said of runs is meant for fewer than `2 ^ 64` commands. -/
  generation : Nat := 0
  failed : Bool := false
  deriving Repr

namespace ComputeState

/-- The layer and its data, if the layer has features. -/
def fetchable? (s : ComputeState) : Option (SimpleLayer × DataSource) :=
  s.layer.bind Layer.fetchable?

/-- The evaluation of the current layer, if the layer has features. -/
def job? (s : ComputeState) : Option Job :=
  s.fetchable?.map fun (layer, data) ↦ { generation := s.generation, layer, data }

/-- The state with another layer; nothing is known of it yet. -/
def setLayer (s : ComputeState) (layer : Option Layer) : ComputeState × Effect :=
  let s := { s with generation := s.generation + 1, result := none, failed := false, layer }
  match s.job? with
  | some job => ({ s with status := .fetching }, .evaluate job)
  | none => ({ s with status := .ready }, .none)

/-- The state after a change of the features, with the work that the change leads to. A layer
without features is not changed. -/
def changeFeatures (s : ComputeState) (effect : Job → Effect) : ComputeState × Effect :=
  match s.fetchable? with
  | none => (s, .none)
  | some (layer, data) =>
    let generation := s.generation + 1
    ({ s with generation, failed := false, status := .fetching },
      effect { generation, layer, data })

/-- The state after a command, and the work that the command leads to. -/
def dispatch (s : ComputeState) : Command → ComputeState × Effect
  | .setLayer layer => s.setLayer layer
  | .requestFetch range =>
    match s.fetchable? with
    | some (layer, data) => (s, .fetch layer.id data range)
    | none => (s, .none)
  | .writeFeatures features => s.changeFeatures fun job ↦ .write job features
  | .deleteFeatures ids => s.changeFeatures fun job ↦ .delete job ids
  | .override owner value => ({ s with overrides := s.overrides.set owner value }, .none)

/-- The state after an evaluation, and whether its outcome counts. -/
def complete (s : ComputeState) (generation : Nat) (outcome : Except Fault (Option Styled)) :
    ComputeState × Bool :=
  if generation ≠ s.generation then (s, false)
  else
    match outcome with
    | .ok result => ({ s with status := .ready, result, failed := false }, true)
    | .error _ => ({ s with status := .ready, result := none, failed := true }, true)

/-- What is seen of the layer, given the features that the store holds. They are not shown after a
failure, nor for a layer without features of its own. -/
def view? (s : ComputeState) (held : Option (List Feature)) : Option LayerView :=
  s.layer.map fun layer ↦
    { layer
      status := s.status
      features := ((s.result.map Styled.features).getD []).map s.overrides.apply
      held :=
        if s.failed || (Layer.fetchable? layer).isNone then [] else held.getD []
      appearances := (s.result.map Styled.layer).getD {} }

end ComputeState

end MapStyle
