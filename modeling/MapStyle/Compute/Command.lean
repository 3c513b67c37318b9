import MapStyle.Feature
import MapStyle.Layer
/-!
# Commands

What can be asked of the computation of one layer, and the work that a command leads to. Work that
evaluates the layer carries a job: what is to be evaluated, and the number of the change that asked
for it.
-/

namespace MapStyle

/-- What can be asked of the computation of a layer. -/
inductive Command where
  /-- Computes another layer, or none. -/
  | setLayer (layer : Option Layer)
  /-- Loads the features of one more range, without evaluating them. -/
  | requestFetch (range : Range)
  | writeFeatures (features : List Feature)
  | deleteFeatures (ids : List String)
  /-- Sets the override of an owner, or removes it. -/
  | override (owner : String) (value : Option Json)
  deriving Repr

/-- An evaluation that is asked for. -/
structure Job where
  /-- The number of the change that asks for it. -/
  generation : Nat
  layer : SimpleLayer
  /-- Where its features come from. -/
  data : DataSource
  deriving Repr

/-- The work that a command leads to. -/
inductive Effect where
  | none
  | evaluate (job : Job)
  | fetch (layer : String) (data : DataSource) (range : Range)
  /-- Features are to be added, and the layer to be evaluated. -/
  | write (job : Job) (features : List Feature)
  /-- Features are to be removed, and the layer to be evaluated. -/
  | delete (job : Job) (ids : List String)
  deriving Repr

def Command.name : Command → String
  | setLayer _ => "setLayer"
  | requestFetch _ => "requestFetch"
  | writeFeatures _ => "writeFeatures"
  | deleteFeatures _ => "deleteFeatures"
  | override _ _ => "override"

def Effect.job? : Effect → Option Job
  | evaluate job => some job
  | write job _ => some job
  | delete job _ => some job
  | _ => .none

end MapStyle
