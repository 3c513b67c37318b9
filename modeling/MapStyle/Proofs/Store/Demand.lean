import MapStyle.Proofs.Store.Replay

/-!
# Features fetched on demand

The source of features asks the fetcher for what the store does not hold, and for nothing else. What
it asks for is noted here call by call, so that the whole past of a store is known: the fetches that
were answered, the writes and the deletions. All features are asked for until a fetch has succeeded
or a write has been made for the data of the layer, and never again, even if all that was stored has
been deleted. The features of a range are asked for until the range has a bucket. Embedded data is
asked for every time. A fault of the fetcher is given back and leaves the store as it is.
-/

namespace MapStyle

/-! ## Buckets after a change -/

namespace Source

/-! ## Calls -/

/-- What a fetcher is asked for. -/
abbrev Request := DataSource × Option Range

/-- The fetcher, with a note of all that it is asked for. -/
def noting (fetcher : Fetcher Id) : Fetcher (StateM (List Request)) := fun data range ↦ do
  modify (· ++ [(data, range)])
  pure (fetcher data range)

/-- A call on the store of features, either directly or through the source of a layer. -/
inductive Call where
  /-- The features of a range are fetched into the store. -/
  | fetch (layer : String) (data : DataSource) (range : Option Range)
  | write (layer : String) (data : DataSource) (features : List Feature)
  | delete (layer : String) (data : DataSource) (ids : List String)
  | all (layer : String) (data : DataSource)
  | ofRange (layer : String) (data : DataSource) (range : Option Range)

/-- What a call gives back. Writes and deletions give nothing back. -/
abbrev Reply := Option (Except Fault (List Feature))

/-- Carries out a call on a store, and gives back the store that is left too. -/
def perform {m : Type → Type} [Monad m] (fetcher : Fetcher m) (s : Store) :
    Call → m (Reply × Store)
  | .fetch layer data range => do
    let (features, s) ← fetch fetcher s layer data range
    pure (some features, s)
  | .write layer data features => pure (none, s.write layer data features)
  | .delete layer data ids => pure (none, s.delete layer data ids)
  | .all layer data => do
    let (features, s) ← all fetcher s layer data
    pure (some features, s)
  | .ofRange layer data range => do
    let (features, s) ← ofRange fetcher s layer data range
    pure (some features, s)

/-- What a call comes to. -/
structure Outcome where
  /-- What the fetcher was asked for, in this order. -/
  requests : List Request
  reply : Reply
  store : Store

def outcome (fetcher : Fetcher Id) (s : Store) (c : Call) : Outcome :=
  let ((reply, store), requests) := (perform (noting fetcher) s c).run []
  { requests, reply, store }

/-- The changes of the store that a call may amount to: itself, or the fetches that were asked for,
with their answers. -/
def Call.changes (fetcher : Fetcher Id) (requests : List Request) : Call → List Store.Call
  | write layer data features => [.write layer data features]
  | delete layer data ids => [.delete layer data ids]
  | fetch layer _ _ | all layer _ | ofRange layer _ _ =>
    requests.map fun r ↦ .fetch layer r.1 r.2 (fetcher r.1 r.2)

/-! ## The past of a store -/

/-- A store with all that has been done to it. -/
structure Past where
  store : Store := {}
  /-- The fetches that were answered, the writes and the deletions, in their order. -/
  changes : List Store.Call := []

/-- One more call, with the fetcher as it answers then. -/
def Past.next (p : Past) (step : Call × Fetcher Id) : Past :=
  let o := outcome step.2 p.store step.1
  { store := o.store, changes := p.changes ++ step.1.changes step.2 o.requests }

/-- A new store after several calls. -/
def past (steps : List (Call × Fetcher Id)) : Past := steps.foldl Past.next {}

/-- What has been done for the data of a layer. -/
def Past.own (p : Past) (layer : String) (data : DataSource) : List Store.Call :=
  p.changes.filter fun c ↦ c.key = Store.keyOf layer data

/-! ## With and without a request -/

end Source

/-! ## An answer received -/

namespace Store

variable (s : Store) (layer : String) (data : DataSource) (range : Option Range)

end Store

namespace Source

variable {fetcher : Fetcher Id} {s : Store} {layer : String} {data : DataSource}
  {range : Option Range}

variable (steps : List (Call × Fetcher Id)) (layer : String) (data : DataSource)

/-- Deleting all features is not forgetting them: they are not asked for again, though no range has
a feature left, and a range that never had one is. -/
example :
    let data : DataSource := { format := "geojson", url := some "a" }
    let tile : Range := { x := 0, y := -1, z := 2 }
    let down : Fetcher Id := fun _ _ ↦ .error .file
    let s := (past [(.all "L" data, fun _ _ ↦ .ok [{ id := "a" }]),
      (.delete "L" data ["a"], down)]).store
    (outcome down s (.all "L" data)).requests.length = 0 ∧
      (outcome down s (.ofRange "L" data none)).requests.length = 0 ∧
      (outcome down s (.ofRange "L" data (some tile))).requests.length = 1 := by
  decide

end Source

end MapStyle
