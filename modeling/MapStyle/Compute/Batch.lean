import MapStyle.Compute.Session
import MapStyle.Embedded
/-!
# Computing documents

All simple layers of a document are computed one after the other, each in a session of its own. The
sessions share one store and one memory.
-/

namespace MapStyle.Batch

variable {m : Type → Type} [Monad m]

/-- Computes layers, given the store and the memory that earlier layers left. -/
def views (fetcher : Fetcher m) (store : Store) (memo : Memo) :
    List SimpleLayer → m (List LayerView)
  | [] => pure []
  | layer :: rest => do
    let (_, session) ← Session.run fetcher { store, memo } (.setLayer (some (.simple layer)))
    let others ← views fetcher session.store session.memo rest
    pure (session.view?.toList ++ others)

/-- Computes the layers of a document with the data that is embedded in them. -/
def compute (config : Config) (layers : List Layer) : StateM Identifiers (List LayerView) :=
  views (fun data _ ↦ Embedded.fetch data) {} (Memo.empty config)
    (layers.flatMap Layer.simpleLayers)

def toJson (views : List LayerView) : Json := .array (views.map LayerView.toJson)

end MapStyle.Batch
