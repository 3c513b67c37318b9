import MapStyle.Styling.Memo
/-!
# Evaluating features in parallel

From a configured number of features on, the features of a layer may be evaluated at the same time.
They share one memory. Each access to the memory is undivided, and between two accesses of one
evaluation any accesses of the others may come. An evaluation is therefore written as a task, which
shows its accesses one by one, and the outcome of several tasks is a relation: every order in which
their accesses can come gives one.
-/

namespace MapStyle

/-- A computation that uses the memory by single accesses. -/
inductive Task (α : Type) where
  /-- The computation has come to its value. -/
  | done (a : α)
  /-- An access changes the memory, and what it finds decides how the computation goes on. -/
  | access (change : Memo → Memo) (next : Memo → Task α)

namespace Task

variable {α β : Type}

/-- The task that goes on with the value of another one. -/
def andThen (t : Task α) (f : α → Task β) : Task β :=
  match t with
  | done a => f a
  | access change next => access change fun memo ↦ (next memo).andThen f

instance : Monad Task where
  pure := done
  bind := andThen

/-- The task without interruption. -/
def run : Task α → StateM Memo α
  | done a, memo => (a, memo)
  | access change next, memo => (next memo).run (change memo)

/-- The task of a single access. -/
def once (act : StateM Memo α) : Task α :=
  access (fun memo ↦ (act memo).2) fun memo ↦ done (act memo).1

/-! ## Evaluating -/

/-- The references of a text. Looking them up and storing them are two accesses. -/
def textReferences (source : String) : Task (List String) := do
  match ← once (Memo.onReferences fun memory ↦ memory.get source) with
  | some references => pure references
  | none => do
    let references := Placeholder.references source
    once (Memo.onReferences (modify fun memory ↦ memory.put source references))
    pure references

/-- The references of several texts, one after the other. -/
def allReferences : List String → Task (List String)
  | [] => pure []
  | source :: rest => do
    let first ← textReferences source
    let others ← allReferences rest
    pure (first ++ others)

/-- The expression that a text denotes. Looking it up and storing it are two accesses. -/
def program (source : String) : Task (Except Expr.Fault Expr) := do
  match ← once (Memo.onPrograms fun memory ↦ memory.get source) with
  | some e => pure (.ok e)
  | none =>
    match Styling.read source with
    | .ok e => do
      once (Memo.onPrograms (modify fun memory ↦ memory.put source e))
      pure (.ok e)
    | .error fault => pure (.error fault)

/-- The value of the expression that a text denotes once defines are replaced. -/
def evalText (scope : Scope) (defines : Option (Table String)) (source : String) :
    Task (Except Expr.Fault Value) :=
  Styling.textWith program scope defines source

def evalStyle (scope : Scope) (defines : Option (Table String)) (e : StyleExpression) :
    Task (Except Expr.Fault Value) :=
  Styling.styleWith (evalText scope defines) e

/-- The value of a style, found again or evaluated and remembered. -/
def evalRemembered (scope : Scope) (defines : Option (Table String)) (e : StyleExpression) :
    Task (Option Json) := do
  let references ← allReferences e.texts
  let key := (Memo.keyOf references e scope defines).compact
  match ← once (Memo.result? key) with
  | some v => pure v.toJson?
  | none =>
    match ← evalStyle scope defines e with
    | .error _ => pure none
    | .ok v => do
      once (Memo.remember key v)
      pure v.toJson?

def evalField (scope : Scope) (defines : Option (Table String)) (style : FieldStyle) :
    Task (Option Json) :=
  match style.expression? with
  | none => pure style.literal?
  | some e => evalRemembered scope defines e

/-- The appearance that a layer gives to a feature. -/
def styleFeature (l : SimpleLayer) (f : Feature) : Task StyledFeature := do
  let feature := f.readProperties l.jsonKeys
  let appearances ←
    Styling.appearancesWith (evalField (Styling.featureScope feature) l.defines) l.styles
  pure { feature, appearances }

/-! ## Several tasks -/

/-- One of several tasks makes one access. -/
inductive Step : Memo → List (Task α) → Memo → List (Task α) → Prop
  | access (memo : Memo) (before after : List (Task α)) (change : Memo → Memo)
      (next : Memo → Task α) :
      Step memo (before ++ access change next :: after) (change memo)
        (before ++ next memo :: after)

/-- Several tasks make any number of accesses, in any order. -/
inductive Steps : Memo → List (Task α) → Memo → List (Task α) → Prop
  | refl (memo : Memo) (tasks : List (Task α)) : Steps memo tasks memo tasks
  | step {memo memo' memo'' : Memo} {tasks tasks' tasks'' : List (Task α)} :
      Steps memo tasks memo' tasks' → Step memo' tasks' memo'' tasks'' →
        Steps memo tasks memo'' tasks''

end Task

/-- What the evaluation of a layer may give on a fresh memory. Below the threshold the features are
evaluated one after the other; from the threshold on their accesses to the memory may come in any
order. -/
inductive Evaluates (config : Config) (source : DataSource → Except Fault (List Feature))
    (l : SimpleLayer) : Except Fault (Option Styled) → Prop
  | noData : l.data = none → Evaluates config source l (.ok none)
  | fault {data : DataSource} {fault : Fault} : l.data = some data → source data = .error fault →
      Evaluates config source l (.error fault)
  | inOrder {data : DataSource} {features : List Feature} : l.data = some data →
      source data = .ok features → features.length < config.parallelThreshold →
      Evaluates config source l (.ok (some ((Memo.style l features).run (Memo.empty config)).1))
  | parallel {data : DataSource} {features : List Feature} {memo : Memo}
      {styled : List StyledFeature} : l.data = some data → source data = .ok features →
      config.parallelThreshold ≤ features.length →
      Task.Steps ((Memo.styleLayer l).run (Memo.empty config)).2
        (features.map (Task.styleFeature l)) memo (styled.map .done) →
      Evaluates config source l (.ok (some
        { layer := ((Memo.styleLayer l).run (Memo.empty config)).1, features := styled }))

end MapStyle
