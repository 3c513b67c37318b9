import MapStyle.Compute.State
import MapStyle.Source
import MapStyle.Styling.Memo
/-!
# Sessions

A session is the computation of one layer with everything that its commands change: the state, the
store of features, and what the evaluation remembers. A command runs until it needs features that
have to be fetched; then it waits, and other commands may run before the answer comes. No command
waits more than once.
-/

namespace MapStyle

/-- A command that waits for features. -/
inductive Waiting where
  /-- The features of a range are to be kept. -/
  | load (layer : String) (data : DataSource) (range : Range)
  | evaluate (job : Job)
  deriving Repr

namespace Waiting

def data : Waiting → DataSource
  | load _ data _ => data
  | evaluate job => job.data

def range : Waiting → Option Range
  | load _ _ range => some range
  | evaluate _ => none

end Waiting

/-- The computation of a layer. -/
structure Session where
  /-- The state that commands change at once. -/
  state : ComputeState := {}
  /-- The features that were fetched and written. -/
  store : Store := {}
  /-- What the evaluation remembers. -/
  memo : Memo
  deriving Repr

namespace Session

/-- Evaluates the layer of a job with the features that were asked for, and folds the outcome into
the state. -/
def finishJob (s : Session) (job : Job) (features : Except Fault (List Feature)) : Session :=
  let (outcome, memo) := (Memo.styleAnswer job.layer features).run s.memo
  { s with memo, state := (s.state.complete job.generation outcome).1 }

/-- Evaluates the layer of a job if its features are at hand, and waits for them otherwise. -/
def startJob (s : Session) (job : Job) : Session × Option Waiting :=
  match Source.heldAll? s.store job.layer.id job.data with
  | some features => (s.finishJob job (.ok features), none)
  | none => (s, some (.evaluate job))

/-- Starts a command, which is finished unless it waits. -/
def start (s : Session) (command : Command) : Session × Option Waiting :=
  let (state, effect) := s.state.dispatch command
  let s := { s with state }
  match effect with
  | .none => (s, none)
  | .evaluate job => s.startJob job
  | .fetch layer data range => (s, some (.load layer data range))
  | .write job features =>
    { s with store := s.store.write job.layer.id job.data features }.startJob job
  | .delete job ids =>
    { s with store := s.store.delete job.layer.id job.data ids }.startJob job

/-- Finishes a command that waits, with the answer to its fetch. Only a fetch that was asked for by
itself reports a fault; the fault of an evaluation is kept in the state. -/
def resume (s : Session) (waiting : Waiting) (answer : Except Fault (List Feature)) :
    Except Fault Unit × Session :=
  match waiting with
  | .load layer data range =>
    (answer.map fun _ ↦ (), { s with store := s.store.receive layer data (some range) answer })
  | .evaluate job =>
    let (features, store) := Source.finishAll s.store job.layer.id job.data answer
    (.ok (), { s with store }.finishJob job features)

def view? (s : Session) : Option LayerView :=
  s.state.view? (s.state.fetchable?.bind fun (layer, data) ↦ s.store.getAll? layer.id data)

variable {m : Type → Type} [Monad m]

/-- Runs a command to its end. -/
def run (fetcher : Fetcher m) (s : Session) (command : Command) :
    m (Except Fault Unit × Session) :=
  match s.start command with
  | (s, none) => pure (.ok (), s)
  | (s, some waiting) => do
    let answer ← fetcher waiting.data waiting.range
    pure (s.resume waiting answer)

end Session

end MapStyle
