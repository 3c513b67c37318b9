import MapStyle.Expr.Fault
import MapStyle.Json.Printer
import MapStyle.Text.Quoted
/-!
# Faults

Everything that can go wrong, by its cause. Faults in documents have no text of their own here; the
text of every other fault begins with the area it belongs to.
-/

namespace MapStyle

/-- Why a source of data gives no features. -/
inductive DataFault where
  /-- The data is not embedded, and nothing else can be fetched. -/
  | notEmbedded (format : String) (url : Option String)
  /-- The embedded object is of another type, or of none. -/
  | objectType (type : Option String)
  | noContainer (value : Json)
  /-- What fetches the data reports a reason of its own. -/
  | refused (reason : String)
  deriving Repr

/-- Why something has no result. -/
inductive Fault where
  | file
  /-- A text is not JSON, or not of the expected form. -/
  | json
  | config
  | expression (fault : Expr.Fault)
  | data (fault : DataFault)
  /-- The program was called without its first argument. -/
  | usage (program : String)
  deriving Repr

def DataFault.message : DataFault → String
  | notEmbedded format url =>
    format ++ " data at " ++ url.getD "<no url>" ++
      " is not embedded and no remote fetcher is configured"
  | objectType type =>
    "embedded object must be a Feature or FeatureCollection, got type " ++
      match type with
      | none => "None"
      | some t => "Some(" ++ Text.quoted t ++ ")"
  | noContainer value => "embedded data must be an array or object, got " ++ value.compact
  | refused reason => reason

/-- The area that a fault of an expression belongs to. -/
def Expr.Fault.area : Expr.Fault → String
  | .path _ => "JSONPath error: "
  | _ => "Expression error: "

def Fault.message : Fault → String
  | file => "I/O error"
  | json => "JSON parsing error"
  | config => "Config error"
  | expression fault => fault.area ++ fault.message
  | data fault => "Data error: " ++ fault.message
  | usage program => "Invalid argument: usage: " ++ program ++ " <layers.json> [config.toml]"

end MapStyle
