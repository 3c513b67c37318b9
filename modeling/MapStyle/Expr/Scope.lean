import MapStyle.Json.Access
import MapStyle.Expr.Value
/-!
# Scopes

What an expression can see: an identifier, if there is one, and the properties of a feature or of a
layer. A name is looked up in this order: as a property of exactly that name, as the identifier if
the name is `id`, and as names joined by points that lead from a property into the values below it.
-/

namespace MapStyle

/-- What an expression can see. -/
structure Scope where
  id : Option String
  properties : Table Json
  deriving Repr

namespace Scope

/-- The texts between the points of a name. -/
def parts (name : String) : List String := (name.toList.splitOnP (· == '.')).map String.ofList

/-- The value that names lead to, one after the other. -/
def walk (v : Json) (names : List String) : Option Json :=
  names.foldl (fun current name ↦ current.bind (Json.child? name)) (some v)

/-- The value that a name with points leads to; a name without points leads nowhere. -/
def dotted? (scope : Scope) (name : String) : Option Json :=
  match parts name with
  | head :: next :: rest =>
    (Table.get? scope.properties head).bind fun v ↦ walk v (next :: rest)
  | _ => none

/-- The identifier, under the name `id`. -/
def identifier? (scope : Scope) (name : String) : Option Value :=
  if name = "id" then scope.id.map .string else none

def resolve (scope : Scope) (name : String) : Value :=
  match Table.get? scope.properties name with
  | some v => .ofJson v
  | none =>
    match scope.identifier? name with
    | some v => v
    | none => ((scope.dotted? name).map .ofJson).getD .undefined

end Scope

end MapStyle
