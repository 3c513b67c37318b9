import MapStyle.Store
/-!
# Features on demand

The features of a layer are taken from the store where it has them and fetched where it has not.
Embedded data is fetched every time. What fetches is a parameter: a computation that answers for a
source of data and a range with features or a fault.
-/

namespace MapStyle

/-- What fetches features. -/
abbrev Fetcher (m : Type → Type) := DataSource → Option Range → m (Except Fault (List Feature))

namespace Source

/-- All features of the data of a layer, if they need not be fetched. -/
def heldAll? (s : Store) (layer : String) (data : DataSource) : Option (List Feature) :=
  if data.isEmbedded then none else s.getAll? layer data

/-- The features of a range, if they need not be fetched. -/
def held? (s : Store) (layer : String) (data : DataSource) (range : Option Range) :
    Option (List Feature) :=
  if data.isEmbedded then none else s.get? layer data range

/-- What a request for all features comes to once the fetch it needs is answered. -/
def finishAll (s : Store) (layer : String) (data : DataSource)
    (answer : Except Fault (List Feature)) : Except Fault (List Feature) × Store :=
  let s := s.receive layer data none answer
  (answer.map fun _ ↦ (s.getAll? layer data).getD [], s)

/-- What a request for the features of a range comes to once the fetch it needs is answered. -/
def finish (s : Store) (layer : String) (data : DataSource) (range : Option Range)
    (answer : Except Fault (List Feature)) : Except Fault (List Feature) × Store :=
  let s := s.receive layer data range answer
  (answer.map fun _ ↦ (s.get? layer data range).getD [], s)

variable {m : Type → Type} [Monad m]

/-- Fetches the features of a range into the store. -/
def fetch (fetcher : Fetcher m) (s : Store) (layer : String) (data : DataSource)
    (range : Option Range) : m (Except Fault (List Feature) × Store) := do
  let answer ← fetcher data range
  pure (answer, s.receive layer data range answer)

def all (fetcher : Fetcher m) (s : Store) (layer : String) (data : DataSource) :
    m (Except Fault (List Feature) × Store) :=
  match heldAll? s layer data with
  | some features => pure (.ok features, s)
  | none => do
    let answer ← fetcher data none
    pure (finishAll s layer data answer)

/-- The features of a range of the data of a layer. -/
def ofRange (fetcher : Fetcher m) (s : Store) (layer : String) (data : DataSource)
    (range : Option Range) : m (Except Fault (List Feature) × Store) :=
  match held? s layer data range with
  | some features => pure (.ok features, s)
  | none => do
    let answer ← fetcher data range
    pure (finish s layer data range answer)

end Source

end MapStyle
